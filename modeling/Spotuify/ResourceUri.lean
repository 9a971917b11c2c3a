import Mathlib.Data.List.Basic

/-!
# Canonical resource identifiers

Every layer of spotuify names a resource by a strict `<scheme>:<kind>:<id>`
string.  A parsed identifier carries the grammar of its parts, so printing one
and parsing the text again gives back the identifier, and an accepted text is
exactly the canonical text of what it was parsed to.
-/

namespace Spotuify

/-- The kinds of resource a URI can name. -/
inductive MediaKind where
  | track
  | episode
  | «show»
  | album
  | artist
  | playlist
  deriving DecidableEq, Repr

/-- The lowercase label a kind is written with. -/
def MediaKind.label : MediaKind → String
  | .track => "track"
  | .episode => "episode"
  | .show => "show"
  | .album => "album"
  | .artist => "artist"
  | .playlist => "playlist"

/-- Read a kind label. -/
def MediaKind.fromStr : String → Option MediaKind
  | "track" => some .track
  | "episode" => some .episode
  | "show" => some .show
  | "album" => some .album
  | "artist" => some .artist
  | "playlist" => some .playlist
  | _ => none

/-- Why a text is not a canonical resource identifier. -/
inductive UriError where
  | invalidShape
  | unsupportedScheme (value : String)
  | unsupportedKind (value : String)
  | emptyId
  | invalidId (value : String)
  deriving DecidableEq, Repr

/-- The conservative grammar of a resource namespace. -/
def uriSchemeIsValid (value : String) : Bool :=
  match value.toList with
  | [] => false
  | first :: rest =>
    first.isLower &&
      rest.all fun character =>
        character.isLower || character.isDigit || character == '-'

/-- The characters a bare identifier may use. -/
def isBareIdCharacter (character : Char) : Bool :=
  character.isAlphanum || character == '-' || character == '.' ||
    character == '_' || character == '~'

/-- Check a bare identifier. -/
def validateBareId (id : String) : Except UriError Unit :=
  if id.toList.isEmpty then
    .error .emptyId
  else if !id.toList.all isBareIdCharacter then
    .error (.invalidId id)
  else
    .ok ()

/-- A provider-owned resource namespace. -/
structure UriScheme where
  label : String
  valid : uriSchemeIsValid label = true
  deriving DecidableEq

/-- A canonical resource identifier. -/
structure ResourceUri where
  scheme : UriScheme
  kind : MediaKind
  id : String
  idValid : validateBareId id = .ok ()
  deriving DecidableEq

namespace UriScheme

/-- Build a namespace from its label. -/
def new (value : String) : Except UriError UriScheme :=
  if valid : uriSchemeIsValid value = true then
    .ok ⟨value, valid⟩
  else
    .error (.unsupportedScheme value)

end UriScheme

namespace ResourceUri

/-- Build an identifier from typed parts. -/
def new (scheme : UriScheme) (kind : MediaKind) (id : String) :
    Except UriError ResourceUri :=
  match valid : validateBareId id with
  | .ok () => .ok ⟨scheme, kind, id, valid⟩
  | .error error => .error error

/-- Parse a strict canonical `<scheme>:<kind>:<id>` text. -/
def parse (input : String) : Except UriError ResourceUri :=
  match input.toList.splitOn ':' with
  | [scheme, kind, id] => do
    let scheme ← UriScheme.new (String.ofList scheme)
    match MediaKind.fromStr (String.ofList kind) with
    | none => .error (.unsupportedKind (String.ofList kind))
    | some kind => new scheme kind (String.ofList id)
  | _ => .error .invalidShape

/-- The canonical text of an identifier. -/
def asUri (uri : ResourceUri) : String :=
  uri.scheme.label ++ ":" ++ uri.kind.label ++ ":" ++ uri.id

end ResourceUri

@[simp]
theorem MediaKind.fromStr_label (kind : MediaKind) :
    MediaKind.fromStr kind.label = some kind := by
  cases kind <;> rfl

/-- A kind is read from its own label only. -/
theorem MediaKind.label_of_fromStr {value : String} {kind : MediaKind}
    (read : MediaKind.fromStr value = some kind) : kind.label = value := by
  unfold MediaKind.fromStr at read
  split at read <;> cases read <;> rfl

section Characters

variable {character : Char}

theorem not_mem_scheme (scheme : UriScheme)
    (foreign : (character.isLower || character.isDigit || character == '-') =
      false) :
    character ∉ scheme.label.toList := by
  have valid := scheme.valid
  simp only [uriSchemeIsValid] at valid
  cases characters : scheme.label.toList with
  | nil => simp
  | cons first rest =>
    rw [characters] at valid
    simp only [Bool.and_eq_true, List.all_eq_true] at valid
    intro member
    rcases List.mem_cons.mp member with rfl | inRest
    · rw [valid.1, Bool.true_or, Bool.true_or] at foreign
      cases foreign
    · rw [valid.2 character inRest] at foreign
      cases foreign

theorem not_mem_kind (kind : MediaKind) (foreign : character.isLower = false) :
    character ∉ kind.label.toList := by
  have lower : kind.label.toList.all Char.isLower = true := by
    cases kind <;> decide
  intro member
  rw [List.all_eq_true.mp lower character member] at foreign
  cases foreign

theorem isBareIdCharacter_of_mem {id : String}
    (valid : validateBareId id = .ok ()) (member : character ∈ id.toList) :
    isBareIdCharacter character = true := by
  have allowed : id.toList.all isBareIdCharacter = true := by
    cases checked : id.toList.all isBareIdCharacter with
    | true => rfl
    | false =>
      rw [validateBareId, checked] at valid
      split at valid <;> simp at valid
  exact List.all_eq_true.mp allowed character member

private theorem colon_not_mem_id {id : String}
    (valid : validateBareId id = .ok ()) : ':' ∉ id.toList := by
  intro member
  exact absurd (isBareIdCharacter_of_mem valid member) (by decide)

end Characters

namespace ResourceUri

theorem toList_asUri (uri : ResourceUri) :
    uri.asUri.toList =
      uri.scheme.label.toList ++
        ':' :: (uri.kind.label.toList ++ ':' :: uri.id.toList) := by
  simp [asUri, String.toList_append]

theorem not_mem_asUri (uri : ResourceUri) {character : Char}
    (foreign : (character.isLower || character.isDigit || character == '-') =
      false)
    (foreignId : isBareIdCharacter character = false)
    (notColon : character ≠ ':') : character ∉ uri.asUri.toList := by
  have notLower : character.isLower = false :=
    (Bool.or_eq_false_iff.mp (Bool.or_eq_false_iff.mp foreign).1).1
  rw [toList_asUri, List.mem_append, List.mem_cons, List.mem_append,
    List.mem_cons]
  rintro (inScheme | colon | inKind | colon | inId)
  · exact not_mem_scheme uri.scheme foreign inScheme
  · exact notColon colon
  · exact not_mem_kind uri.kind notLower inKind
  · exact notColon colon
  · rw [isBareIdCharacter_of_mem uri.idValid inId] at foreignId
    cases foreignId

theorem splitOn_asUri (uri : ResourceUri) :
    uri.asUri.toList.splitOn ':' =
      [uri.scheme.label.toList, uri.kind.label.toList, uri.id.toList] := by
  rw [toList_asUri,
    List.splitOn_append_cons_self_of_not_mem
      (not_mem_scheme uri.scheme (by decide)),
    List.splitOn_append_cons_self_of_not_mem
      (not_mem_kind uri.kind (by decide)),
    List.splitOn_eq_singleton (colon_not_mem_id uri.idValid)]

/-- Printing an identifier and parsing the text gives the identifier back. -/
@[simp]
theorem parse_asUri (uri : ResourceUri) : parse uri.asUri = .ok uri := by
  have schemeNew : UriScheme.new uri.scheme.label = .ok uri.scheme := by
    simp [UriScheme.new, uri.scheme.valid]
  have idNew : new uri.scheme uri.kind uri.id = .ok uri := by
    unfold new
    split
    · rfl
    · rename_i failed
      rw [uri.idValid] at failed
      cases failed
  simp only [parse, splitOn_asUri, String.ofList_toList, schemeNew,
    MediaKind.fromStr_label]
  exact idNew

/-- An accepted text is the canonical text of what it was parsed to. -/
theorem asUri_of_parse {input : String} {uri : ResourceUri}
    (parsed : parse input = .ok uri) : uri.asUri = input := by
  unfold parse at parsed
  split at parsed
  · rename_i scheme kind id parts
    have joined : List.intercalate [':'] (input.toList.splitOn ':') =
        input.toList := List.intercalate_splitOn ':'
    rw [parts] at joined
    cases schemeNew : UriScheme.new (String.ofList scheme) with
    | error error => simp [schemeNew, bind, Except.bind] at parsed
    | ok readScheme =>
      have schemeLabel : readScheme.label = String.ofList scheme := by
        unfold UriScheme.new at schemeNew
        split at schemeNew <;> cases schemeNew
        rfl
      simp only [schemeNew, bind, Except.bind] at parsed
      split at parsed
      · cases parsed
      · rename_i readKind kindRead
        have kindLabel := MediaKind.label_of_fromStr kindRead
        unfold new at parsed
        split at parsed
        · cases parsed
          apply String.toList_injective
          simp only [asUri, schemeLabel, kindLabel, String.toList_append,
            String.toList_ofList]
          simpa [List.intercalate] using joined
        · cases parsed
  · cases parsed

/-- Distinct identifiers have distinct canonical texts. -/
theorem asUri_injective : Function.Injective asUri := by
  intro first second sameText
  have parsed := parse_asUri first
  rw [sameText, parse_asUri second] at parsed
  cases parsed
  rfl

end ResourceUri

end Spotuify
