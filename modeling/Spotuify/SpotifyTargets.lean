import Mathlib.Data.List.TakeWhile
import Spotuify.ListenSessions
import Spotuify.SeekInputs
import Spotuify.Utf8Text

/-!
# Targets a user names

A user names a resource by a `spotify:` URI in any case, in its short or its
legacy form, or by a link to share.  All of them are normalized to the
canonical identifier, which is normalized to itself.
-/

namespace Spotuify

namespace Targets

/-- What a URL parser reads of a link. -/
structure ParsedUrl where
  hostStr : Option String
  pathSegments : Option (List String)

def toLower (text : List Char) : List Char := text.map Char.toLower

def spotifyResource (kind : List Char) (id : List Char) : Option ResourceUri :=
  match MediaKind.fromStr (String.ofList kind) with
  | none => none
  | some kind =>
    match ResourceUri.new .spotify kind (String.ofList id) with
    | .ok uri => some uri
    | .error _ => none

def isSpotifyUri (trimmed : List Char) : Bool :=
  toLower (trimmed.take 8) = "spotify:".toList

/-- The last parts of a `spotify:` URI; nothing may follow them. -/
def finishUri (kind id : List Char) (rest : List (List Char)) :
    Option ResourceUri :=
  if rest.isEmpty then
    let id := id.takeWhile (· ≠ '?')
    if id.isEmpty then none else spotifyResource kind id
  else none

def normalizeUri (trimmed : List Char) : Option ResourceUri :=
  match trimmed.splitOn ':' with
  | _scheme :: kind :: id :: rest =>
    let kind := toLower kind
    -- The legacy long form is `spotify:user:<username>:playlist:<id>`.
    if kind = "user".toList then
      match rest with
      | kind :: id :: rest =>
        let kind := toLower kind
        if kind = "playlist".toList then finishUri kind id rest else none
      | _ => none
    else
      finishUri kind id rest
  | _ => none

/-- Drop a first segment. -/
def dropSegment (drops : String → Bool) (segments : List String) :
    List String :=
  match segments with
  | first :: rest => if drops first then rest else segments
  | [] => []

def finishSegments : List String → Option ResourceUri
  | [kind, id] =>
    if id.toList.isEmpty then none
    else spotifyResource (toLower kind.toList) id.toList
  | _ => none

def normalizeUrl (url : ParsedUrl) : Option ResourceUri :=
  if url.hostStr = some "open.spotify.com" then
    match url.pathSegments with
    | none => none
    | some segments =>
      let segments := segments.filter fun segment => !segment.toList.isEmpty
      let segments := dropSegment
        (fun first => "intl-".toList.isPrefixOf first.toList) segments
      let segments := dropSegment (· = "embed") segments
      match segments with
      | "user" :: rest =>
        match rest with
        | [_username, playlist, id] =>
          if toLower playlist.toList = "playlist".toList then
            finishSegments [playlist, id]
          else none
        | _ => none
      | segments => finishSegments segments
  else none

section Normalize

/- `parseUrl` is the URL parser's `Url::parse`. -/
variable (parseUrl : List Char → Option ParsedUrl)

def normalizeSpotifyTarget (arg : String) : Option ResourceUri :=
  let trimmed := trim arg.toList
  if isSpotifyUri trimmed then normalizeUri trimmed
  else (parseUrl trimmed).bind normalizeUrl

end Normalize

theorem trim_eq_self {chars : List Char}
    (visible : ∀ char ∈ chars, isWhitespace char = false) :
    trim chars = chars := by
  have kept (text : List Char)
      (visible : ∀ char ∈ text, isWhitespace char = false) :
      text.dropWhile isWhitespace = text := by
    cases text with
    | nil => rfl
    | cons char rest =>
      rw [List.dropWhile_cons_of_neg]
      rw [visible char List.mem_cons_self]
      exact Bool.false_ne_true
  rw [trim, kept chars visible, kept chars.reverse, List.reverse_reverse]
  intro char member
  exact visible char (List.mem_reverse.mp member)

theorem isWhitespace_of_isBareIdCharacter {char : Char}
    (allowed : isBareIdCharacter char = true) : isWhitespace char = false := by
  have range : 0x2D ≤ char.toNat ∧ char.toNat ≤ 0x7E := by
    simp only [isBareIdCharacter, Bool.or_eq_true, beq_iff_eq,
      Utf8.isAlphanum_iff] at allowed
    rcases allowed with (((alphanumeric | rfl) | rfl) | rfl) | rfl
    · omega
    · decide
    · decide
    · decide
    · decide
  simp only [isWhitespace, Bool.or_eq_false_iff, Bool.and_eq_false_iff,
    decide_eq_false_iff_not, beq_eq_false_iff_ne]
  omega

theorem asUri_toList (uri : ResourceUri) (spotify : uri.scheme = .spotify) :
    uri.asUri.toList =
      "spotify:".toList ++ (uri.kind.label.toList ++ ':' :: uri.id.toList) := by
  rw [ResourceUri.toList_asUri, spotify]
  simp [UriScheme.spotify]

theorem trim_asUri (uri : ResourceUri) (spotify : uri.scheme = .spotify) :
    trim uri.asUri.toList = uri.asUri.toList := by
  refine trim_eq_self fun char member => ?_
  rw [asUri_toList uri spotify, List.mem_append, List.mem_append,
    List.mem_cons] at member
  have scheme : ("spotify:".toList.any isWhitespace) = false := by decide
  have label : (uri.kind.label.toList.any isWhitespace) = false := by
    cases uri.kind <;> decide
  rcases member with inScheme | inKind | rfl | id
  · simpa using List.any_eq_false.mp scheme char inScheme
  · simpa using List.any_eq_false.mp label char inKind
  · rfl
  · exact isWhitespace_of_isBareIdCharacter (isBareIdCharacter_of_mem uri.idValid id)

theorem spotifyResource_self (uri : ResourceUri)
    (spotify : uri.scheme = .spotify) :
    spotifyResource uri.kind.label.toList uri.id.toList = some uri := by
  have made : ResourceUri.new .spotify uri.kind uri.id = .ok uri := by
    rw [← spotify]
    unfold ResourceUri.new
    split
    · rfl
    · rename_i failed
      rw [uri.idValid] at failed
      cases failed
  rw [spotifyResource, String.ofList_toList, MediaKind.fromStr_label]
  dsimp only
  rw [String.ofList_toList, made]

/-- The canonical text of a Spotify identifier is normalized to it. -/
theorem normalizeSpotifyTarget_asUri
    (parseUrl : List Char → Option ParsedUrl) {uri : ResourceUri}
    (spotify : uri.scheme = .spotify) :
    normalizeSpotifyTarget parseUrl uri.asUri = some uri := by
  have lowered : toLower uri.kind.label.toList = uri.kind.label.toList := by
    cases uri.kind <;> rfl
  have notUser : uri.kind.label.toList ≠ "user".toList := by
    cases uri.kind <;> decide
  have noQuery : uri.id.toList.takeWhile (· ≠ '?') = uri.id.toList := by
    rw [List.takeWhile_eq_self_iff]
    intro char member
    rw [decide_eq_true_eq]
    rintro rfl
    exact absurd (isBareIdCharacter_of_mem uri.idValid member) (by decide)
  have filled : uri.id.toList.isEmpty = false := by
    rw [List.isEmpty_eq_false_iff]
    intro empty
    have valid := uri.idValid
    rw [validateBareId, empty] at valid
    cases valid
  have named : isSpotifyUri uri.asUri.toList = true := by
    rw [isSpotifyUri, asUri_toList uri spotify]
    rfl
  rw [normalizeSpotifyTarget, trim_asUri uri spotify, if_pos named,
    normalizeUri, ResourceUri.splitOn_asUri]
  dsimp only
  rw [lowered, if_neg notUser, finishUri, if_pos List.isEmpty_nil]
  dsimp only
  rw [noQuery, filled, if_neg Bool.false_ne_true]
  exact spotifyResource_self uri spotify

/-- The last two parts of a URI, or the last two segments of a link's path,
are the kind and the id: the kind in any case, a URI's id up to a query. -/
def Names (parseUrl : List Char → Option ParsedUrl) (arg : String)
    (uri : ResourceUri) : Prop :=
  if isSpotifyUri (trim arg.toList) then
    ∃ before kind id, (trim arg.toList).splitOn ':' = before ++ [kind, id] ∧
      toLower kind = uri.kind.label.toList ∧
      id.takeWhile (· ≠ '?') = uri.id.toList
  else
    ∃ url segments before kind id,
      parseUrl (trim arg.toList) = some url ∧
      url.hostStr = some "open.spotify.com" ∧
      url.pathSegments = some segments ∧
      (segments.filter fun segment => !segment.toList.isEmpty) =
        before ++ [kind, id] ∧
      toLower kind.toList = uri.kind.label.toList ∧ id = uri.id

theorem spotifyResource_eq_some {kind id : List Char} {uri : ResourceUri}
    (made : spotifyResource kind id = some uri) :
    uri.scheme = .spotify ∧ kind = uri.kind.label.toList ∧
      id = uri.id.toList := by
  unfold spotifyResource at made
  split at made
  · cases made
  · rename_i readKind kindRead
    have label := MediaKind.label_of_fromStr kindRead
    split at made
    · rename_i made' new
      cases made
      unfold ResourceUri.new at new
      split at new
      · cases new
        exact ⟨rfl, by rw [label, String.toList_ofList],
          String.toList_ofList.symm⟩
      · cases new
    · cases made

theorem finishUri_eq_some {kind id : List Char} {rest : List (List Char)}
    {uri : ResourceUri} (finished : finishUri kind id rest = some uri) :
    rest = [] ∧ uri.scheme = .spotify ∧ kind = uri.kind.label.toList ∧
      id.takeWhile (· ≠ '?') = uri.id.toList := by
  unfold finishUri at finished
  split at finished
  · rename_i last
    dsimp only at finished
    split at finished
    · cases finished
    · exact ⟨List.isEmpty_iff.mp last, spotifyResource_eq_some finished⟩
  · cases finished

theorem normalizeUri_eq_some {trimmed : List Char} {uri : ResourceUri}
    (normalized : normalizeUri trimmed = some uri) :
    uri.scheme = .spotify ∧
      ∃ before kind id, trimmed.splitOn ':' = before ++ [kind, id] ∧
        toLower kind = uri.kind.label.toList ∧
        id.takeWhile (· ≠ '?') = uri.id.toList := by
  unfold normalizeUri at normalized
  split at normalized
  · rename_i scheme kind id rest parts
    dsimp only at normalized
    split at normalized
    · split at normalized
      · rename_i listKind listId listRest
        split at normalized
        · obtain ⟨rfl, spotify, label, bare⟩ := finishUri_eq_some normalized
          exact ⟨spotify, [scheme, kind, id], listKind, listId, parts, label,
            bare⟩
        · cases normalized
      · cases normalized
    · obtain ⟨rfl, spotify, label, bare⟩ := finishUri_eq_some normalized
      exact ⟨spotify, [scheme], kind, id, parts, label, bare⟩
  · cases normalized

theorem dropSegment_suffix (drops : String → Bool) (segments : List String) :
    ∃ before, segments = before ++ dropSegment drops segments := by
  cases segments with
  | nil => exact ⟨[], rfl⟩
  | cons first rest =>
    rw [dropSegment]
    split
    · exact ⟨[first], rfl⟩
    · exact ⟨[], rfl⟩

theorem finishSegments_eq_some {segments : List String} {uri : ResourceUri}
    (finished : finishSegments segments = some uri) :
    uri.scheme = .spotify ∧ ∃ kind id, segments = [kind, id] ∧
      toLower kind.toList = uri.kind.label.toList ∧ id = uri.id := by
  unfold finishSegments at finished
  split at finished
  · rename_i kind id
    split at finished
    · cases finished
    · obtain ⟨spotify, label, bare⟩ := spotifyResource_eq_some finished
      exact ⟨spotify, kind, id, rfl, label, String.toList_injective bare⟩
  · cases finished

theorem normalizeUrl_eq_some {url : ParsedUrl} {uri : ResourceUri}
    (normalized : normalizeUrl url = some uri) :
    uri.scheme = .spotify ∧ url.hostStr = some "open.spotify.com" ∧
      ∃ segments before kind id, url.pathSegments = some segments ∧
        (segments.filter fun segment => !segment.toList.isEmpty) =
          before ++ [kind, id] ∧
        toLower kind.toList = uri.kind.label.toList ∧ id = uri.id := by
  unfold normalizeUrl at normalized
  split at normalized
  · rename_i host
    split at normalized
    · cases normalized
    · rename_i segments path
      dsimp only at normalized
      obtain ⟨locale, localeDropped⟩ := dropSegment_suffix
        (fun first => "intl-".toList.isPrefixOf first.toList)
        (segments.filter fun segment => !segment.toList.isEmpty)
      obtain ⟨embed, embedDropped⟩ := dropSegment_suffix (· = "embed")
        (dropSegment (fun first => "intl-".toList.isPrefixOf first.toList)
          (segments.filter fun segment => !segment.toList.isEmpty))
      rw [embedDropped, ← List.append_assoc] at localeDropped
      generalize dropSegment (· = "embed")
        (dropSegment (fun first => "intl-".toList.isPrefixOf first.toList)
          (segments.filter fun segment => !segment.toList.isEmpty)) = shown
        at normalized localeDropped
      rw [path]
      split at normalized
      · split at normalized
        · rename_i username playlist id
          split at normalized
          · obtain ⟨spotify, kind, bare, last, label, named⟩ :=
              finishSegments_eq_some normalized
            cases last
            refine ⟨spotify, host, segments,
              locale ++ embed ++ ["user", username], playlist, id, rfl, ?_,
              label, named⟩
            rw [localeDropped, List.append_assoc _ ["user", username]]
            rfl
          · cases normalized
        · cases normalized
      · obtain ⟨spotify, kind, id, last, label, named⟩ :=
          finishSegments_eq_some normalized
        exact ⟨spotify, host, segments, locale ++ embed, kind, id, rfl,
          by rw [localeDropped, last], label, named⟩
  · cases normalized

/-- A normalized target is a Spotify identifier with the kind and the id the
input names. -/
theorem normalizeSpotifyTarget_names
    {parseUrl : List Char → Option ParsedUrl} {arg : String}
    {uri : ResourceUri}
    (normalized : normalizeSpotifyTarget parseUrl arg = some uri) :
    uri.scheme = .spotify ∧ Names parseUrl arg uri := by
  unfold normalizeSpotifyTarget at normalized
  dsimp only at normalized
  unfold Names
  split at normalized
  · rename_i isUri
    rw [if_pos isUri]
    exact normalizeUri_eq_some normalized
  · rename_i notUri
    rw [if_neg notUri]
    obtain ⟨url, parsed, normalized⟩ := Option.bind_eq_some_iff.mp normalized
    obtain ⟨spotify, host, segments, before, kind, id, named⟩ :=
      normalizeUrl_eq_some normalized
    exact ⟨spotify, url, segments, before, kind, id, parsed, host, named⟩

/-- Printing and parsing undo each other, and normalizing a target gives a
Spotify identifier of the kind it names whose text is normalized to it. -/
theorem resourceUris_roundTrip (parseUrl : List Char → Option ParsedUrl) :
    (∀ (input : String) (uri : ResourceUri),
      ResourceUri.parse input = .ok uri →
        ResourceUri.parse uri.asUri = ResourceUri.parse input ∧
          uri.asUri = input) ∧
    (∀ uri : ResourceUri, ResourceUri.parse uri.asUri = .ok uri) ∧
    ∀ (arg : String) (uri : ResourceUri),
      normalizeSpotifyTarget parseUrl arg = some uri →
        normalizeSpotifyTarget parseUrl uri.asUri = some uri ∧
        ResourceUri.parse uri.asUri = .ok uri ∧
        uri.scheme = .spotify ∧ Names parseUrl arg uri := by
  refine ⟨fun input uri parsed => ?_, ResourceUri.parse_asUri,
    fun arg uri normalized => ?_⟩
  · rw [ResourceUri.parse_asUri, parsed]
    exact ⟨rfl, ResourceUri.asUri_of_parse parsed⟩
  · obtain ⟨spotify, names⟩ := normalizeSpotifyTarget_names normalized
    exact ⟨normalizeSpotifyTarget_asUri parseUrl spotify,
      ResourceUri.parse_asUri uri, spotify, names⟩

/-- A link with a locale and a legacy URI, as a URL parser reads them. -/
def parseShared (link : List Char) : Option ParsedUrl :=
  if link = "https://open.spotify.com/intl-fr/Track/abc?si=x".toList then
    some ⟨some "open.spotify.com", some ["intl-fr", "Track", "abc"]⟩
  else none

theorem resourceUris_roundTrip_at_link :
    ∃ uri, normalizeSpotifyTarget parseShared
        " https://open.spotify.com/intl-fr/Track/abc?si=x\n" = some uri ∧
      normalizeSpotifyTarget parseShared uri.asUri = some uri ∧
      uri.kind = .track := by
  obtain ⟨uri, normalized⟩ : ∃ uri : ResourceUri,
      normalizeSpotifyTarget parseShared
        " https://open.spotify.com/intl-fr/Track/abc?si=x\n" = some uri :=
    Option.isSome_iff_exists.mp (by decide +kernel)
  have kind : (normalizeSpotifyTarget parseShared
      " https://open.spotify.com/intl-fr/Track/abc?si=x\n").map
      ResourceUri.kind = some .track := by decide +kernel
  rw [normalized] at kind
  obtain ⟨again, -⟩ :=
    (resourceUris_roundTrip parseShared).2.2 _ uri normalized
  exact ⟨uri, normalized, again, Option.some.inj kind⟩

end Targets

end Spotuify
