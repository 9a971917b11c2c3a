import Spotuify.OperationLog
import Spotuify.Playback
import Mathlib.Algebra.Ring.Nat
import Mathlib.Data.List.Chain

/-!
# Collecting all pages of a collection

The daemon and the sync follow the continuations of a provider until there is
none, each with a loop of its own.  A collector's run is kept together with
the requests it has made.
-/

namespace Spotuify
namespace Paging

inductive ProviderError where
  | unsupported (operation : String)
  | rateLimited (scope : Option String) (retryAfterMs : Option Nat)
  | authRequired
  | authExpired
  | authRevoked
  | forbidden (operation : String)
  | noActiveDevice
  | invalidInput (field message : String)
  | network (message : String)
  | transient (status : Option Nat) (message : String)
  | upstream (status : Nat) (message : String)
  | decode (message : String)
  | notFound (resource : String)
  | syncTokenExpired (reason : String)
  | versionConflict (expected actual : Option String)
  | provider (message : String)
  deriving DecidableEq

inductive AccessUnavailable where
  | «private»
  | regionRestricted
  | subscriptionRequired
  | temporarilyUnavailable
  deriving DecidableEq

inductive AccessOutcome (Value : Type) where
  | available (value : Value)
  | unavailable (reason : AccessUnavailable)
  deriving DecidableEq

structure PageRequest where
  limit : UInt32
  offset : Nat
  cursor : Option String
  deriving DecidableEq

def PageRequest.new (limit : UInt32) (offset : Nat) : PageRequest :=
  ⟨limit, offset, none⟩

def PageRequest.withCursor (limit : UInt32) (offset : Nat) (cursor : String) :
    PageRequest :=
  ⟨limit, offset, some cursor⟩

inductive PageContinuation where
  | offset (offset : Nat)
  | cursor (cursor : String)
  deriving DecidableEq

structure ProviderPage (Item : Type) where
  items : List Item
  requestedOffset : Nat
  total : Option Nat
  next : Option PageContinuation
  deriving DecidableEq

/-- What a provider answers to the requests for one collection. -/
abbrev PageMethod (Item : Type) : Type :=
  PageRequest → Except ProviderError (AccessOutcome (ProviderPage Item))

/-- The requests a collector has made and what it returns. -/
structure Collected (Item : Type) where
  requests : List PageRequest
  result : Except ProviderError (AccessOutcome (List Item))

/-- The run with one request before it. -/
def Collected.after {Item : Type} (request : PageRequest)
    (collected : Collected Item) : Collected Item :=
  { collected with requests := request :: collected.requests }

def validateProviderPageOffset {Item : Type} (request : PageRequest)
    (page : ProviderPage Item) (operation : String) :
    Except ProviderError Unit :=
  if page.requestedOffset ≠ request.offset then
    .error (.invalidInput (operation ++ ".requested_offset")
      ("provider echoed offset " ++ toString page.requestedOffset ++
        " for request offset " ++ toString request.offset))
  else .ok ()

def providerPaginationMaxPages : Nat := 1000

/-- The next request, and the cursors used so far. -/
def nextProviderPage (current : PageRequest) (continuation : PageContinuation)
    (logicalOffset : Nat) (seenCursors : List String) (pagesFetched : Nat)
    (surface : String) : Except ProviderError (PageRequest × List String) :=
  if providerPaginationMaxPages ≤ pagesFetched then
    .error (.provider (surface ++ " pagination exceeded " ++
      toString providerPaginationMaxPages ++ " pages"))
  else
    match continuation with
    | .offset offset =>
      if current.offset < offset then
        .ok (.new current.limit offset, seenCursors)
      else
        .error (.provider (surface ++ " pagination did not advance: " ++
          toString offset ++ " <= " ++ toString current.offset))
    | .cursor cursor =>
      if cursor ∈ seenCursors then
        .error (.provider (surface ++ " pagination repeated a cursor"))
      else
        .ok (.withCursor current.limit logicalOffset cursor,
          cursor :: seenCursors)

/-- What tells one collector of the daemon from another. -/
structure DaemonCollector (Item : Type) where
  operation : String
  surface : String
  singular : String
  validateItems : List Item → Except ProviderError Unit

namespace DaemonCollector

variable {Item : Type} (collector : DaemonCollector Item)

/-- Both checks of a page. -/
def validate (request : PageRequest) (page : ProviderPage Item) :
    Except ProviderError Unit :=
  match validateProviderPageOffset request page collector.operation with
  | .error error => .error error
  | .ok () => collector.validateItems page.items

/-- The loop, with the number of rounds that are left. -/
def loop (method : PageMethod Item) : Nat → Nat → PageRequest → List Item →
    List String → Collected Item
  | 0, _, _, _, _ =>
    ⟨[], .error (.provider (collector.singular ++ " pagination exceeded " ++
      toString providerPaginationMaxPages ++ " pages"))⟩
  | remaining + 1, pageIndex, page, items, seenCursors =>
    match method page with
    | .error error => ⟨[page], .error error⟩
    | .ok (.unavailable reason) => ⟨[page], .ok (.unavailable reason)⟩
    | .ok (.available result) =>
      match collector.validate page result with
      | .error error => ⟨[page], .error error⟩
      | .ok () =>
        let collectedItems := items ++ result.items
        match result.next with
        | none => ⟨[page], .ok (.available collectedItems)⟩
        | some continuation =>
          match nextProviderPage page continuation collectedItems.length
              seenCursors (pageIndex + 1) collector.surface with
          | .error error => ⟨[page], .error error⟩
          | .ok (nextPage, seen) =>
            (loop method remaining (pageIndex + 1) nextPage collectedItems
              seen).after page

def collect (limit : UInt32) (method : PageMethod Item) : Collected Item :=
  collector.loop method providerPaginationMaxPages 0 (.new limit 0) [] []

end DaemonCollector

def displayUriError : UriError → String
  | .invalidShape => "resource URI must have the form <scheme>:<kind>:<id>"
  | .unsupportedScheme scheme =>
    "unsupported resource URI scheme `" ++ scheme ++ "`"
  | .unsupportedKind kind => "unsupported resource kind `" ++ kind ++ "`"
  | .emptyId => "resource URI id must not be empty"
  | .invalidId id => "resource URI id `" ++ id ++ "` is not canonical"

/-- What the collectors use of a provider, for one playlist or album. -/
structure MusicProvider where
  id : ProviderId
  uriScheme : UriScheme
  itemRead : Bool
  itemsMaxPageSize : Option Nat
  readsAlbumTracks : Bool
  albumTracksMaxPageSize : Option Nat
  playlistItems : PageMethod MediaItem
  albumTracks : PageRequest → Except ProviderError (ProviderPage MediaItem)
  recentlyPlayed : PageRequest → Except ProviderError (ProviderPage MediaItem)
  libraryItems : MediaKind → PageRequest →
    Except ProviderError (ProviderPage MediaItem)

def requireProviderCapability (provider : MusicProvider) (operation : String)
    (supported : Bool) : Except ProviderError Unit :=
  if supported then .ok ()
  else .error (.unsupported ("provider " ++ provider.id.value ++ " " ++
    operation))

def validateProviderMediaItems (provider : MusicProvider) :
    List MediaItem → Except ProviderError Unit
  | [] => .ok ()
  | item :: items =>
    match ResourceUri.parse item.uri with
    | .error error =>
      .error (.invalidInput "media_item.uri"
        ("provider " ++ provider.id.value ++ " returned `" ++ item.uri ++
          "`: " ++ displayUriError error))
    | .ok uri =>
      if uri.scheme ≠ provider.uriScheme ∨ uri.kind ≠ item.kind then
        .error (.invalidInput "media_item.uri"
          ("provider " ++ provider.id.value ++
            " returned foreign or mismatched media item `" ++ item.uri ++
            "` (" ++ item.kind.label ++ ")"))
      else validateProviderMediaItems provider items

def validateProviderCollectionItems (provider : MusicProvider)
    (operation : String) (allowedKinds : List MediaKind)
    (items : List MediaItem) : Except ProviderError Unit :=
  match validateProviderMediaItems provider items with
  | .error error => .error error
  | .ok () =>
    match items.find? fun item => item.kind ∉ allowedKinds with
    | some item =>
      .error (.invalidInput (operation ++ ".kind")
        ("provider " ++ provider.id.value ++ " returned " ++
          item.kind.label ++ " item `" ++ item.uri ++ "` for " ++
          operation ++ "; expected " ++
          " or ".intercalate (allowedKinds.map MediaKind.label)))
    | none => .ok ()

/-- A method that is never refused access. -/
def accessible {Item : Type}
    (method : PageRequest → Except ProviderError (ProviderPage Item)) :
    PageMethod Item :=
  fun request => (method request).map .available

def playlistItemsCollector (provider : MusicProvider) :
    DaemonCollector MediaItem where
  operation := "playlist_items"
  surface := "playlist items"
  singular := "playlist item"
  validateItems := validateProviderCollectionItems provider "playlist_items"
    [.track, .episode]

def albumTracksCollector (provider : MusicProvider) :
    DaemonCollector MediaItem where
  operation := "album_tracks"
  surface := "album tracks"
  singular := "album track"
  validateItems := validateProviderCollectionItems provider "album_tracks"
    [.track]

def collectPlaylistItemsWithContext (provider : MusicProvider) :
    Collected MediaItem :=
  match requireProviderCapability provider "playlist item reads"
      provider.itemRead with
  | .error error => ⟨[], .error error⟩
  | .ok () =>
    (playlistItemsCollector provider).collect
      (.ofNat (provider.itemsMaxPageSize.getD 50)) provider.playlistItems

def collectAlbumTracks (provider : MusicProvider) : Collected MediaItem :=
  match requireProviderCapability provider "album tracks"
      provider.readsAlbumTracks with
  | .error error => ⟨[], .error error⟩
  | .ok () =>
    (albumTracksCollector provider).collect
      (.ofNat (provider.albumTracksMaxPageSize.getD 50))
      (accessible provider.albumTracks)

def continuationRequest (limit : UInt32) (requestedOffset logicalOffset : Nat)
    (continuation : PageContinuation) (seenCursors : List String) :
    Except ProviderError (PageRequest × List String) :=
  match continuation with
  | .offset offset =>
    if requestedOffset < offset then .ok (.new limit offset, seenCursors)
    else
      .error (.provider ("provider pagination did not advance: " ++
        toString offset ++ " <= " ++ toString requestedOffset))
  | .cursor cursor =>
    if cursor ∈ seenCursors then
      .error (.provider ("provider pagination repeated cursor `" ++
        cursor ++ "`"))
    else
      .ok (.withCursor limit logicalOffset cursor, cursor :: seenCursors)

/-- What tells one collector of the sync from another. -/
structure SyncCollector where
  operation : String
  singular : String

namespace SyncCollector

variable {Item : Type} (collector : SyncCollector)

/-- The loop behind the first page, with the number of rounds that are left. -/
def loop (method : PageMethod Item) (limit : UInt32) : Nat → Nat → Nat →
    List Item → Option PageContinuation → List String → Collected Item
  | 0, _, _, _, _, _ =>
    ⟨[], .error (.provider (collector.singular ++
      " pagination exceeded 1000 pages"))⟩
  | remaining + 1, requestedOffset, logicalOffset, items, next, seenCursors =>
    match next with
    | none => ⟨[], .ok (.available items)⟩
    | some continuation =>
      match continuationRequest limit requestedOffset logicalOffset
          continuation seenCursors with
      | .error error => ⟨[], .error error⟩
      | .ok (request, seen) =>
        match method request with
        | .error error => ⟨[request], .error error⟩
        | .ok (.unavailable reason) => ⟨[request], .ok (.unavailable reason)⟩
        | .ok (.available page) =>
          match validateProviderPageOffset request page
              collector.operation with
          | .error error => ⟨[request], .error error⟩
          | .ok () =>
            (loop method limit remaining request.offset
              (logicalOffset + page.items.length) (items ++ page.items)
              page.next seen).after request

def collect (limit : UInt32) (method : PageMethod Item) : Collected Item :=
  let firstRequest := PageRequest.new limit 0
  match method firstRequest with
  | .error error => ⟨[firstRequest], .error error⟩
  | .ok (.unavailable reason) => ⟨[firstRequest], .ok (.unavailable reason)⟩
  | .ok (.available first) =>
    match validateProviderPageOffset firstRequest first
        collector.operation with
    | .error error => ⟨[firstRequest], .error error⟩
    | .ok () =>
      (collector.loop method limit 1000 firstRequest.offset first.items.length
        first.items first.next []).after firstRequest

end SyncCollector

def fetchAllPlaylists {Playlist : Type} (limit : UInt32)
    (playlists : PageRequest → Except ProviderError (ProviderPage Playlist)) :
    Collected Playlist :=
  SyncCollector.collect ⟨"playlists", "playlist"⟩ limit (accessible playlists)

def fetchAllRecent (provider : MusicProvider) (limit : UInt32) :
    Collected MediaItem :=
  SyncCollector.collect ⟨"recently_played", "media"⟩ limit
    (accessible provider.recentlyPlayed)

def fetchAllLibrary (provider : MusicProvider) (kind : MediaKind)
    (limit : UInt32) : Collected MediaItem :=
  SyncCollector.collect ⟨"library_items", "media"⟩ limit
    (accessible (provider.libraryItems kind))

def fetchAllPlaylistItems (provider : MusicProvider) (limit : UInt32) :
    Collected MediaItem :=
  SyncCollector.collect ⟨"playlist_items", "playlist item"⟩ limit
    provider.playlistItems

def requirePageLimit (request : PageRequest) (max : UInt32) :
    Except ProviderError UInt32 :=
  if request.limit = 0 then
    .error (.invalidInput "limit" "page limit must be greater than zero")
  else if max < request.limit then
    .error (.invalidInput "limit" ("Spotify supports at most " ++
      toString max ++ " items per page"))
  else .ok request.limit

def requireOffsetPage (request : PageRequest) (max : UInt32) :
    Except ProviderError UInt32 :=
  if request.cursor.isSome then
    .error (.invalidInput "cursor"
      "Spotify returned an offset continuation for this operation")
  else requirePageLimit request max

def providerPageFromUpstream {Item : Type} (items : List Item) (total : Nat)
    (request : PageRequest) (max : UInt32) :
    Except ProviderError (ProviderPage Item) :=
  match requireOffsetPage request max with
  | .error error => .error error
  | .ok limit =>
    let nextOffset := min (request.offset + limit.toNat) (2 ^ 64 - 1)
    .ok
      { items := items
        requestedOffset := request.offset
        total := some total
        next := if nextOffset < total then some (.offset nextOffset)
          else none }

/-- A provider that answers with the slice of the collection that is asked
for. -/
def honest {Item : Type} (collection : List Item) (max : UInt32) :
    PageMethod Item :=
  accessible fun request =>
    providerPageFromUpstream
      ((collection.drop request.offset).take request.limit.toNat)
      collection.length request max

/-- Each request goes on from the one before it: an offset is beyond the last
one, and a cursor is new. -/
def Progresses : Nat → List String → List PageRequest → Prop
  | _, _, [] => True
  | offset, seenCursors, request :: later =>
    match request.cursor with
    | none =>
      offset < request.offset ∧ Progresses request.offset seenCursors later
    | some cursor =>
      cursor ∉ seenCursors ∧
        Progresses request.offset (cursor :: seenCursors) later

/-- A request that is not made by cursor has a greater offset than the one
before it. -/
def Advances (earlier later : PageRequest) : Prop :=
  later.cursor = none → earlier.offset < later.offset

section

variable {offset : Nat} {seenCursors : List String}
  {requests : List PageRequest}

theorem Progresses.cursors
    (progresses : Progresses offset seenCursors requests) :
    (requests.filterMap PageRequest.cursor).Nodup ∧
      ∀ cursor ∈ requests.filterMap PageRequest.cursor,
        cursor ∉ seenCursors := by
  induction requests generalizing offset seenCursors with
  | nil => simp
  | cons request later ih =>
    cases isCursor : request.cursor with
    | none =>
      simp only [Progresses, isCursor] at progresses
      rw [List.filterMap_cons_none isCursor]
      exact ih progresses.2
    | some cursor =>
      simp only [Progresses, isCursor] at progresses
      obtain ⟨nodup, fresh⟩ := ih progresses.2
      rw [List.filterMap_cons_some isCursor]
      constructor
      · rw [List.nodup_cons]
        exact ⟨fun again => fresh cursor again List.mem_cons_self, nodup⟩
      · intro other member
        rcases List.mem_cons.mp member with rfl | inLater
        · exact progresses.1
        · exact fun seen =>
            fresh other inLater (List.mem_cons_of_mem cursor seen)

theorem Progresses.isChain {first : PageRequest}
    (progresses : Progresses first.offset seenCursors requests) :
    (first :: requests).IsChain Advances := by
  induction requests generalizing first seenCursors with
  | nil => exact .singleton first
  | cons request later ih =>
    cases isCursor : request.cursor with
    | none =>
      simp only [Progresses, isCursor] at progresses
      exact .cons_cons (fun _ => progresses.1) (ih progresses.2)
    | some cursor =>
      simp only [Progresses, isCursor] at progresses
      refine .cons_cons (fun isOffset => ?_) (ih progresses.2)
      rw [isCursor] at isOffset
      cases isOffset

/-- Without cursors all offsets increase. -/
theorem offsets_pairwise
    (advances : requests.IsChain Advances)
    (noCursors : ∀ request ∈ requests, request.cursor = none) :
    (requests.map PageRequest.offset).Pairwise (· < ·) := by
  rw [← List.isChain_iff_pairwise, List.isChain_map]
  exact advances.imp_of_mem_imp fun _ later _ isLater advance =>
    advance (noCursors later isLater)

theorem nextProviderPage_progresses {current next : PageRequest}
    {continuation : PageContinuation} {logicalOffset pagesFetched : Nat}
    {surface : String} {seen : List String}
    (isNext : nextProviderPage current continuation logicalOffset seenCursors
      pagesFetched surface = .ok (next, seen))
    (later : Progresses next.offset seen requests) :
    Progresses current.offset seenCursors (next :: requests) := by
  unfold nextProviderPage at isNext
  split at isNext
  · cases isNext
  · cases continuation with
    | offset offset =>
      simp only at isNext
      split at isNext
      case isTrue beyond =>
        cases isNext
        exact ⟨beyond, later⟩
      case isFalse => cases isNext
    | cursor cursor =>
      simp only at isNext
      split at isNext
      case isTrue => cases isNext
      case isFalse fresh =>
        cases isNext
        exact ⟨fresh, later⟩

theorem continuationRequest_progresses {limit : UInt32}
    {requestedOffset logicalOffset : Nat} {next : PageRequest}
    {continuation : PageContinuation} {seen : List String}
    (isNext : continuationRequest limit requestedOffset logicalOffset
      continuation seenCursors = .ok (next, seen))
    (later : Progresses next.offset seen requests) :
    Progresses requestedOffset seenCursors (next :: requests) := by
  unfold continuationRequest at isNext
  cases continuation with
  | offset offset =>
    simp only at isNext
    split at isNext
    case isTrue beyond =>
      cases isNext
      exact ⟨beyond, later⟩
    case isFalse => cases isNext
  | cursor cursor =>
    simp only at isNext
    split at isNext
    case isTrue => cases isNext
    case isFalse fresh =>
      cases isNext
      exact ⟨fresh, later⟩

end

namespace DaemonCollector

variable {Item : Type} (collector : DaemonCollector Item)
  (method : PageMethod Item)

/-- A round is the last one or is followed by the next page's. -/
theorem loop_cases (remaining pageIndex : Nat) (page : PageRequest)
    (items : List Item) (seenCursors : List String) :
    (∃ result, collector.loop method (remaining + 1) pageIndex page items
        seenCursors = ⟨[page], result⟩) ∨
      ∃ (result : ProviderPage Item) (continuation : PageContinuation)
          (next : PageRequest) (seen : List String),
        nextProviderPage page continuation (items ++ result.items).length
          seenCursors (pageIndex + 1) collector.surface = .ok (next, seen) ∧
        collector.loop method (remaining + 1) pageIndex page items
          seenCursors = (collector.loop method remaining (pageIndex + 1) next
            (items ++ result.items) seen).after page := by
  rw [loop]
  split
  · exact .inl ⟨_, rfl⟩
  · exact .inl ⟨_, rfl⟩
  case h_3 result _ =>
    split
    · exact .inl ⟨_, rfl⟩
    · simp only
      split
      · exact .inl ⟨_, rfl⟩
      case h_2 continuation _ =>
        split
        · exact .inl ⟨_, rfl⟩
        case h_2 next seen isNext =>
          exact .inr ⟨result, continuation, next, seen, isNext, rfl⟩

/-- Whatever the provider answers, the requests progress and are bounded. -/
theorem loop_requests (remaining pageIndex : Nat) (page : PageRequest)
    (items : List Item) (seenCursors : List String) :
    ∃ later, (collector.loop method (remaining + 1) pageIndex page items
        seenCursors).requests = page :: later ∧
      later.length ≤ remaining ∧
      Progresses page.offset seenCursors later := by
  induction remaining generalizing pageIndex page items seenCursors with
  | zero =>
    refine ⟨[], ?_, le_refl 0, trivial⟩
    rcases collector.loop_cases method 0 pageIndex page items seenCursors with
      ⟨result, last⟩ | ⟨_, _, _, _, _, followed⟩
    · rw [last]
    · rw [followed]
      rfl
  | succ remaining ih =>
    rcases collector.loop_cases method (remaining + 1) pageIndex page items
      seenCursors with ⟨result, last⟩ | ⟨result, _, next, seen, isNext,
        followed⟩
    · rw [last]
      exact ⟨[], rfl, Nat.zero_le _, trivial⟩
    · obtain ⟨later, requests, bounded, progresses⟩ :=
        ih (pageIndex + 1) next (items ++ result.items) seen
      refine ⟨next :: later, ?_, Nat.succ_le_succ bounded,
        nextProviderPage_progresses isNext progresses⟩
      rw [followed, Collected.after, requests]

end DaemonCollector

namespace SyncCollector

variable {Item : Type} (collector : SyncCollector) (method : PageMethod Item)
  (limit : UInt32)

theorem loop_requests (remaining requestedOffset logicalOffset : Nat)
    (items : List Item) (next : Option PageContinuation)
    (seenCursors : List String) :
    (collector.loop method limit remaining requestedOffset logicalOffset items
        next seenCursors).requests.length ≤ remaining ∧
      Progresses requestedOffset seenCursors
        (collector.loop method limit remaining requestedOffset logicalOffset
          items next seenCursors).requests := by
  induction remaining generalizing requestedOffset logicalOffset items next
    seenCursors with
  | zero => exact ⟨le_refl 0, trivial⟩
  | succ remaining ih =>
    unfold loop
    split
    · exact ⟨Nat.zero_le _, trivial⟩
    · split
      · exact ⟨Nat.zero_le _, trivial⟩
      case h_2 request seen isNext =>
        have once : Progresses requestedOffset seenCursors [request] :=
          continuationRequest_progresses isNext trivial
        split
        · exact ⟨Nat.succ_le_succ (Nat.zero_le _), once⟩
        · exact ⟨Nat.succ_le_succ (Nat.zero_le _), once⟩
        case h_3 page _ =>
          split
          · exact ⟨Nat.succ_le_succ (Nat.zero_le _), once⟩
          · obtain ⟨bounded, progresses⟩ := ih request.offset
              (logicalOffset + page.items.length) (items ++ page.items)
              page.next seen
            exact ⟨Nat.succ_le_succ bounded,
              continuationRequest_progresses isNext progresses⟩

theorem collect_requests :
    ∃ later, (collector.collect limit method).requests =
        .new limit 0 :: later ∧
      later.length ≤ 1000 ∧ Progresses 0 [] later := by
  unfold collect
  simp only
  split
  · exact ⟨[], rfl, Nat.zero_le _, trivial⟩
  · exact ⟨[], rfl, Nat.zero_le _, trivial⟩
  · split
    · exact ⟨[], rfl, Nat.zero_le _, trivial⟩
    · obtain ⟨bounded, progresses⟩ := collector.loop_requests method limit
        1000 0 _ _ _ []
      exact ⟨_, rfl, bounded, progresses⟩

end SyncCollector

/-- The page at an offset. -/
def slicePage {Item : Type} (collection : List Item) (limit : UInt32)
    (offset : Nat) : ProviderPage Item where
  items := (collection.drop offset).take limit.toNat
  requestedOffset := offset
  total := some collection.length
  next := if offset + limit.toNat < collection.length then
    some (.offset (offset + limit.toNat)) else none

section

variable {Item : Type} {collection : List Item} {max limit : UInt32}

theorem honest_eq (positive : limit ≠ 0) (atMost : limit ≤ max)
    {offset : Nat} (small : offset + limit.toNat < 2 ^ 64) :
    honest collection max (.new limit offset) =
      .ok (.available (slicePage collection limit offset)) := by
  have notAbove : ¬max < limit := UInt32.not_lt.mpr atMost
  have unsaturated : min (offset + limit.toNat) (2 ^ 64 - 1) =
      offset + limit.toNat := by
    omega
  simp only [honest, accessible, providerPageFromUpstream, requireOffsetPage,
    requirePageLimit, PageRequest.new, Option.isSome_none, Bool.false_eq_true,
    positive, notAbove, if_false, unsaturated]
  rfl

theorem validateProviderPageOffset_slicePage (offset : Nat)
    (operation : String) :
    validateProviderPageOffset (.new limit offset)
      (slicePage collection limit offset) operation = .ok () :=
  if_neg (not_not_intro rfl)

/-- An honest provider rejects the limits it does not support. -/
theorem honest_error (unsupported : ¬(limit ≠ 0 ∧ limit ≤ max))
    (offset : Nat) :
    ∃ error, honest collection max (.new limit offset) = .error error := by
  by_cases isZero : limit = 0
  · subst isZero
    exact ⟨_, rfl⟩
  · have above : max < limit :=
      UInt32.not_le.mp fun atMost => unsupported ⟨isZero, atMost⟩
    simp only [honest, accessible, providerPageFromUpstream,
      requireOffsetPage, requirePageLimit, PageRequest.new,
      Option.isSome_none, Bool.false_eq_true, isZero, above, if_false, if_true]
    exact ⟨_, rfl⟩

theorem toNat_pos (positive : limit ≠ 0) : 0 < limit.toNat :=
  UInt32.lt_iff_toNat_lt.mp (UInt32.pos_iff_ne_zero.mpr positive)

/-- Offsets within the page budget do not saturate. -/
theorem offset_lt {pages : Nat} (budget : pages ≤ 1000) :
    pages * limit.toNat + limit.toNat < 2 ^ 64 := by
  have bounded := limit.toNat_lt
  have scaled : pages * limit.toNat ≤ 1000 * 2 ^ 32 :=
    Nat.mul_le_mul budget bounded.le
  omega

theorem take_append_slice (offset size : Nat) :
    collection.take offset ++ (collection.drop offset).take size =
      collection.take (offset + size) :=
  (List.take_add ..).symm

/-- What is returned for a collection that is served honestly: nothing but the
whole of it, and that if it fits. -/
structure ReturnsWhole (collection : List Item) (limit : UInt32)
    (accepted : Prop)
    (result : Except ProviderError (AccessOutcome (List Item))) : Prop where
  whole : ∀ outcome, result = .ok outcome →
    outcome = .available collection ∧
      collection.length ≤ 1000 * limit.toNat
  complete : accepted → collection.length ≤ 1000 * limit.toNat →
    result = .ok (.available collection)

theorem returnsWhole_error {accepted : Prop} {error : ProviderError}
    (rejects : accepted → ¬collection.length ≤ 1000 * limit.toNat) :
    ReturnsWhole collection limit accepted (.error error) where
  whole := nofun
  complete := fun isAccepted fits => absurd fits (rejects isAccepted)

theorem returnsWhole_available {accepted : Prop} {items : List Item}
    (isWhole : items = collection)
    (fits : collection.length ≤ 1000 * limit.toNat) :
    ReturnsWhole collection limit accepted (.ok (.available items)) := by
  subst isWhole
  refine ⟨?_, fun _ _ => rfl⟩
  rintro _ ⟨⟩
  exact ⟨rfl, fits⟩

/-- After `pages` pages the daemon's loop goes on to the whole collection. -/
theorem DaemonCollector.loop_honest (collector : DaemonCollector Item)
    (positive : limit ≠ 0) (atMost : limit ≤ max) {remaining pages : Nat}
    (budget : pages + remaining = 1000)
    (reached : pages = 0 ∨ pages * limit.toNat < collection.length) :
    ReturnsWhole collection limit
      (∀ offset, collector.validateItems
        ((collection.drop offset).take limit.toNat) = .ok ())
      (collector.loop (honest collection max) remaining pages
        (.new limit (pages * limit.toNat))
        (collection.take (pages * limit.toNat)) []).result := by
  induction remaining generalizing pages with
  | zero =>
    refine returnsWhole_error fun _ fits => ?_
    have isLast : pages = 1000 := budget
    subst isLast
    omega
  | succ remaining ih =>
    have small := @offset_lt limit pages (by omega)
    have nextOffset : (pages + 1) * limit.toNat =
        pages * limit.toNat + limit.toNat := Nat.succ_mul pages limit.toNat
    have within : (pages + 1) * limit.toNat ≤ 1000 * limit.toNat :=
      Nat.mul_le_mul_right _ (by omega)
    have limitPositive := toNat_pos positive
    rw [loop, honest_eq positive atMost small]
    have offsetValid : collector.validate (.new limit (pages * limit.toNat))
        (slicePage collection limit (pages * limit.toNat)) =
          collector.validateItems
            ((collection.drop (pages * limit.toNat)).take limit.toNat) := by
      rw [validate, validateProviderPageOffset_slicePage]
      rfl
    simp only [offsetValid]
    cases validated : collector.validateItems
        ((collection.drop (pages * limit.toNat)).take limit.toNat) with
    | error error =>
      refine returnsWhole_error fun accepted => ?_
      rw [accepted] at validated
      cases validated
    | ok checked =>
      simp only [slicePage, take_append_slice]
      by_cases more : pages * limit.toNat + limit.toNat < collection.length
      · simp only [more, if_true]
        by_cases exceeded : providerPaginationMaxPages ≤ pages + 1
        · simp only [nextProviderPage, exceeded, if_true]
          refine returnsWhole_error fun _ fits => ?_
          have isLast : pages + 1 = 1000 := by
            rw [providerPaginationMaxPages] at exceeded
            omega
          rw [← nextOffset, isLast] at more
          omega
        · have advances : pages * limit.toNat <
              pages * limit.toNat + limit.toNat := by
            omega
          simp only [nextProviderPage, exceeded, if_false, PageRequest.new,
            advances, if_true, Collected.after]
          rw [← nextOffset]
          exact ih (by omega) (.inr (by omega))
      · simp only [more, if_false]
        refine returnsWhole_available ?_ (by omega)
        exact List.take_of_length_le (by omega)

theorem SyncCollector.loop_honest (collector : SyncCollector)
    (positive : limit ≠ 0) (atMost : limit ≤ max)
    {remaining pages logicalOffset : Nat}
    (budget : pages + remaining = 1000)
    (reached : pages = 0 ∨ pages * limit.toNat < collection.length) :
    ReturnsWhole collection limit True
      (collector.loop (honest collection max) limit remaining
        (pages * limit.toNat) logicalOffset
        (collection.take (pages * limit.toNat + limit.toNat))
        (slicePage collection limit (pages * limit.toNat)).next []).result := by
  induction remaining generalizing pages logicalOffset with
  | zero =>
    refine returnsWhole_error fun _ fits => ?_
    have isLast : pages = 1000 := budget
    subst isLast
    omega
  | succ remaining ih =>
    have small := @offset_lt limit (pages + 1) (by omega)
    have nextOffset : (pages + 1) * limit.toNat =
        pages * limit.toNat + limit.toNat := Nat.succ_mul pages limit.toNat
    have within : (pages + 1) * limit.toNat ≤ 1000 * limit.toNat :=
      Nat.mul_le_mul_right _ (by omega)
    have limitPositive := toNat_pos positive
    by_cases more : pages * limit.toNat + limit.toNat < collection.length
    · have advances : pages * limit.toNat <
          pages * limit.toNat + limit.toNat := by
        omega
      simp only [slicePage, more, if_true, loop, continuationRequest,
        advances]
      rw [← nextOffset, honest_eq positive atMost small]
      simp only [validateProviderPageOffset_slicePage, Collected.after]
      rw [slicePage, take_append_slice]
      exact ih (by omega) (.inr (by omega))
    · simp only [slicePage, more, if_false, loop]
      refine returnsWhole_available ?_ (by omega)
      exact List.take_of_length_le (by omega)

theorem ReturnsWhole.mono {accepted stronger : Prop}
    {result : Except ProviderError (AccessOutcome (List Item))}
    (returns : ReturnsWhole collection limit accepted result)
    (implies : stronger → accepted) :
    ReturnsWhole collection limit stronger result where
  whole := returns.whole
  complete := fun isStronger => returns.complete (implies isStronger)

theorem DaemonCollector.collect_honest (collector : DaemonCollector Item) :
    ReturnsWhole collection limit
      (limit ≠ 0 ∧ limit ≤ max ∧ ∀ offset, collector.validateItems
        ((collection.drop offset).take limit.toNat) = .ok ())
      (collector.collect limit (honest collection max)).result := by
  by_cases supported : limit ≠ 0 ∧ limit ≤ max
  · have returns := @loop_honest Item collection max limit collector
      supported.1 supported.2 1000 0 rfl (.inl rfl)
    rw [Nat.zero_mul, List.take_zero] at returns
    exact returns.mono fun accepted => accepted.2.2
  · obtain ⟨error, rejected⟩ := @honest_error Item collection max limit
      supported 0
    have result : (collector.collect limit
        (honest collection max)).result = .error error := by
      simp only [collect, providerPaginationMaxPages, loop, rejected]
    rw [result]
    exact returnsWhole_error fun accepted =>
      absurd ⟨accepted.1, accepted.2.1⟩ supported

theorem SyncCollector.collect_honest (collector : SyncCollector) :
    ReturnsWhole collection limit (limit ≠ 0 ∧ limit ≤ max)
      (collector.collect limit (honest collection max)).result := by
  by_cases supported : limit ≠ 0 ∧ limit ≤ max
  · have small := @offset_lt limit 0 (Nat.zero_le 1000)
    rw [Nat.zero_mul] at small
    have returns := @loop_honest Item collection max limit collector
      supported.1 supported.2 1000 0
      (slicePage collection limit 0).items.length rfl (.inl rfl)
    simp only [Nat.zero_mul, Nat.zero_add] at returns
    simp only [collect, honest_eq supported.1 supported.2 small,
      validateProviderPageOffset_slicePage]
    exact returns.mono fun _ => trivial
  · obtain ⟨error, rejected⟩ := @honest_error Item collection max limit
      supported 0
    have result : (collector.collect limit
        (honest collection max)).result = .error error := by
      simp only [collect, rejected]
    rw [result]
    exact returnsWhole_error fun accepted => absurd accepted supported

end

/-- What holds of the requests to any provider. -/
structure Progressing (bound : Nat) (requests : List PageRequest) : Prop where
  bounded : requests.length ≤ bound
  cursors : (requests.filterMap PageRequest.cursor).Nodup
  advances : requests.IsChain Advances
  offsets : (∀ request ∈ requests, request.cursor = none) →
    (requests.map PageRequest.offset).Pairwise (· < ·)

/-- A collector makes few requests that progress, and returns the whole of a
collection that is served honestly. -/
structure CollectsAll {Item : Type} (bound : Nat) (limit : UInt32)
    (accepted : List Item → Prop) (method : PageMethod Item)
    (collected : Collected Item) : Prop where
  progressing : Progressing bound collected.requests
  returnsWhole : ∀ collection max, method = honest collection max →
    ReturnsWhole collection limit
      (limit ≠ 0 ∧ limit ≤ max ∧ accepted collection) collected.result

theorem progressing_of_later {bound : Nat} {limit : UInt32}
    {later : List PageRequest} (bounded : later.length ≤ bound)
    (progresses : Progresses 0 [] later) :
    Progressing (bound + 1) (.new limit 0 :: later) where
  bounded := Nat.succ_le_succ bounded
  cursors := by
    rw [List.filterMap_cons_none rfl]
    exact progresses.cursors.1
  advances := progresses.isChain
  offsets := offsets_pairwise progresses.isChain

theorem DaemonCollector.collect_collectsAll {Item : Type}
    (collector : DaemonCollector Item) (limit : UInt32)
    (method : PageMethod Item) :
    CollectsAll 1000 limit
      (fun collection => ∀ offset, collector.validateItems
        ((collection.drop offset).take limit.toNat) = .ok ())
      method (collector.collect limit method) where
  progressing := by
    obtain ⟨later, requests, bounded, progresses⟩ :=
      collector.loop_requests method 999 0 (.new limit 0) [] []
    rw [collect, providerPaginationMaxPages, requests]
    exact progressing_of_later bounded progresses
  returnsWhole := by
    rintro collection max rfl
    exact collector.collect_honest

theorem SyncCollector.collect_collectsAll {Item : Type}
    (collector : SyncCollector) (limit : UInt32) (method : PageMethod Item) :
    CollectsAll 1001 limit (fun _ => True) method
      (collector.collect limit method) where
  progressing := by
    obtain ⟨later, requests, bounded, progresses⟩ :=
      collector.collect_requests method limit
    rw [requests]
    exact progressing_of_later bounded progresses
  returnsWhole := by
    rintro collection max rfl
    exact collector.collect_honest.mono fun accepted =>
      ⟨accepted.1, accepted.2.1⟩

/-- The check of a collection's items accepts each of them. -/
theorem validateProviderMediaItems_eq_ok {provider : MusicProvider}
    {items : List MediaItem} :
    validateProviderMediaItems provider items = .ok () ↔
      ∀ item ∈ items, ∃ uri, ResourceUri.parse item.uri = .ok uri ∧
        uri.scheme = provider.uriScheme ∧ uri.kind = item.kind := by
  induction items with
  | nil => simp [validateProviderMediaItems]
  | cons item items ih =>
    rw [List.forall_mem_cons, ← ih, validateProviderMediaItems]
    cases parsed : ResourceUri.parse item.uri with
    | error error => simp
    | ok uri =>
      by_cases foreign : uri.scheme ≠ provider.uriScheme ∨
          uri.kind ≠ item.kind
      · simp only [foreign, if_true, Except.ok.injEq, exists_eq_left']
        constructor
        · rintro ⟨⟩
        · rintro ⟨owned, -⟩
          rcases foreign with otherScheme | otherKind
          · exact absurd owned.1 otherScheme
          · exact absurd owned.2 otherKind
      · have owned : uri.scheme = provider.uriScheme ∧
            uri.kind = item.kind := by
          simpa using foreign
        simp [owned]

theorem validateProviderCollectionItems_eq_ok {provider : MusicProvider}
    {operation : String} {allowedKinds : List MediaKind}
    {items : List MediaItem} :
    validateProviderCollectionItems provider operation allowedKinds items =
        .ok () ↔
      validateProviderMediaItems provider items = .ok () ∧
        ∀ item ∈ items, item.kind ∈ allowedKinds := by
  rw [validateProviderCollectionItems]
  cases validateProviderMediaItems provider items with
  | error error => simp
  | ok checked =>
    cases found : items.find? fun item => item.kind ∉ allowedKinds with
    | none => simpa using found
    | some item =>
      have member := List.mem_of_find?_eq_some found
      have notAllowed := List.find?_some found
      simp only [reduceCtorEq, true_and, false_iff]
      intro allAllowed
      exact of_decide_eq_true notAllowed (allAllowed item member)

/-- Part of an accepted collection is accepted. -/
theorem validateProviderCollectionItems_of_subset {provider : MusicProvider}
    {operation : String} {allowedKinds : List MediaKind}
    {items part : List MediaItem} (subset : part ⊆ items)
    (valid : validateProviderCollectionItems provider operation allowedKinds
      items = .ok ()) :
    validateProviderCollectionItems provider operation allowedKinds part =
      .ok () := by
  rw [validateProviderCollectionItems_eq_ok,
    validateProviderMediaItems_eq_ok] at *
  exact ⟨fun item member => valid.1 item (subset member),
    fun item member => valid.2 item (subset member)⟩

theorem slice_subset {Item : Type} (collection : List Item)
    (offset size : Nat) :
    (collection.drop offset).take size ⊆ collection :=
  fun _ member => List.mem_of_mem_drop (List.mem_of_mem_take member)

/-- A collector that the provider does not support makes no request. -/
theorem collectsAll_unsupported {Item : Type} {bound : Nat} {limit : UInt32}
    {accepted : List Item → Prop} {method : PageMethod Item}
    {error : ProviderError} (never : ∀ collection, ¬accepted collection) :
    CollectsAll bound limit accepted method ⟨[], .error error⟩ where
  progressing := ⟨Nat.zero_le _, .nil, .nil, fun _ => .nil⟩
  returnsWhole := fun collection _ _ =>
    returnsWhole_error fun isAccepted =>
      absurd isAccepted.2.2 (never collection)

theorem CollectsAll.mono {Item : Type} {bound : Nat} {limit : UInt32}
    {accepted stronger : List Item → Prop} {method : PageMethod Item}
    {collected : Collected Item}
    (collects : CollectsAll bound limit accepted method collected)
    (implies : ∀ collection, stronger collection → accepted collection) :
    CollectsAll bound limit stronger method collected where
  progressing := collects.progressing
  returnsWhole := fun collection max isHonest =>
    (collects.returnsWhole collection max isHonest).mono fun isStronger =>
      ⟨isStronger.1, isStronger.2.1, implies collection isStronger.2.2⟩

theorem collectPlaylistItems_collectsAll (provider : MusicProvider) :
    CollectsAll 1000 (.ofNat (provider.itemsMaxPageSize.getD 50))
      (fun tracks => provider.itemRead = true ∧
        validateProviderCollectionItems provider "playlist_items"
          [.track, .episode] tracks = .ok ())
      provider.playlistItems (collectPlaylistItemsWithContext provider) := by
  rw [collectPlaylistItemsWithContext, requireProviderCapability]
  cases provider.itemRead with
  | false =>
    apply collectsAll_unsupported
    rintro _ ⟨⟨⟩, -⟩
  | true =>
    apply ((playlistItemsCollector provider).collect_collectsAll _ _).mono
    rintro tracks ⟨-, valid⟩ offset
    exact validateProviderCollectionItems_of_subset
      (slice_subset tracks offset _) valid

theorem collectAlbumTracks_collectsAll (provider : MusicProvider) :
    CollectsAll 1000 (.ofNat (provider.albumTracksMaxPageSize.getD 50))
      (fun tracks => provider.readsAlbumTracks = true ∧
        validateProviderCollectionItems provider "album_tracks" [.track]
          tracks = .ok ())
      (accessible provider.albumTracks) (collectAlbumTracks provider) := by
  rw [collectAlbumTracks, requireProviderCapability]
  cases provider.readsAlbumTracks with
  | false =>
    apply collectsAll_unsupported
    rintro _ ⟨⟨⟩, -⟩
  | true =>
    apply ((albumTracksCollector provider).collect_collectsAll _ _).mono
    rintro tracks ⟨-, valid⟩ offset
    exact validateProviderCollectionItems_of_subset
      (slice_subset tracks offset _) valid

/-- Every collector of the daemon and the sync makes a bounded number of
requests that progress, and returns an honest provider's whole collection or
fails; both of them return the same playlist items. -/
theorem collectors_collectAll (provider : MusicProvider) {Playlist : Type}
    (playlists : PageRequest → Except ProviderError (ProviderPage Playlist))
    (kind : MediaKind) (limit : UInt32) :
    CollectsAll 1000 (.ofNat (provider.itemsMaxPageSize.getD 50))
        (fun tracks => provider.itemRead = true ∧
          validateProviderCollectionItems provider "playlist_items"
            [.track, .episode] tracks = .ok ())
        provider.playlistItems (collectPlaylistItemsWithContext provider) ∧
      CollectsAll 1000 (.ofNat (provider.albumTracksMaxPageSize.getD 50))
        (fun tracks => provider.readsAlbumTracks = true ∧
          validateProviderCollectionItems provider "album_tracks" [.track]
            tracks = .ok ())
        (accessible provider.albumTracks) (collectAlbumTracks provider) ∧
      CollectsAll 1001 limit (fun _ => True) provider.playlistItems
        (fetchAllPlaylistItems provider limit) ∧
      CollectsAll 1001 limit (fun _ => True)
        (accessible provider.recentlyPlayed) (fetchAllRecent provider limit) ∧
      CollectsAll 1001 limit (fun _ => True)
        (accessible (provider.libraryItems kind))
        (fetchAllLibrary provider kind limit) ∧
      CollectsAll 1001 limit (fun _ => True) (accessible playlists)
        (fetchAllPlaylists limit playlists) ∧
      ∀ collection max first second,
        provider.playlistItems = honest collection max →
        (collectPlaylistItemsWithContext provider).result =
          .ok (.available first) →
        (fetchAllPlaylistItems provider limit).result =
          .ok (.available second) → first = second := by
  have daemonItems := collectPlaylistItems_collectsAll provider
  have syncItems : CollectsAll 1001 limit (fun _ => True)
      provider.playlistItems (fetchAllPlaylistItems provider limit) :=
    SyncCollector.collect_collectsAll _ limit _
  refine ⟨daemonItems, collectAlbumTracks_collectsAll provider, syncItems,
    SyncCollector.collect_collectsAll _ limit _,
    SyncCollector.collect_collectsAll _ limit _,
    SyncCollector.collect_collectsAll _ limit _, ?_⟩
  intro collection max first second isHonest daemonResult syncResult
  have daemonWhole := ((daemonItems.returnsWhole collection max
    isHonest).whole _ daemonResult).1
  have syncWhole := ((syncItems.returnsWhole collection max
    isHonest).whole _ syncResult).1
  exact AccessOutcome.available.inj (daemonWhole.trans syncWhole.symm)

def threeTracks : List MediaItem :=
  [.stub "paged:track:a", .stub "paged:track:b", .stub "paged:track:c"]

/-- A provider of which only the playlist items are read. -/
def itemsProvider (playlistItems : PageMethod MediaItem) : MusicProvider where
  id := ⟨"fake"⟩
  uriScheme := ⟨"paged", by decide⟩
  itemRead := true
  itemsMaxPageSize := some 2
  readsAlbumTracks := false
  albumTracksMaxPageSize := none
  playlistItems := playlistItems
  albumTracks := fun _ => .error .authRequired
  recentlyPlayed := fun _ => .error .authRequired
  libraryItems := fun _ _ => .error .authRequired

/-- Three tracks in pages of two. -/
theorem collectors_collect_threeTracks :
    (collectPlaylistItemsWithContext
        (itemsProvider (honest threeTracks 2))).result =
      .ok (.available threeTracks) ∧
    (fetchAllPlaylistItems (itemsProvider (honest threeTracks 2)) 2).result =
      .ok (.available threeTracks) := by
  obtain ⟨daemon, -, sync, -⟩ := collectors_collectAll
    (itemsProvider (honest threeTracks 2))
    (fun _ => (.error .authRequired : Except _ (ProviderPage Unit))) .track 2
  constructor
  · refine (daemon.returnsWhole threeTracks 2 rfl).complete ?_ ?_
    · refine ⟨by decide, by decide, rfl, ?_⟩
      decide +kernel
    · decide +kernel
  · refine (sync.returnsWhole threeTracks 2 rfl).complete ?_ ?_
    · exact ⟨by decide, by decide, trivial⟩
    · decide +kernel

/-- Empty pages that go on with an offset, a cursor and an offset. -/
def mixedPages : PageMethod MediaItem := fun request =>
  .ok (.available
    { items := []
      requestedOffset := request.offset
      total := none
      next :=
        match request.cursor, request.offset with
        | some _, _ => some (.offset 50)
        | none, 0 => some (.offset 100)
        | none, 100 => some (.cursor "next")
        | none, _ => none })

/-- A cursor's request goes back to the number of items, and an offset is
compared with that. -/
theorem mixedPages_offsets_not_increasing :
    ((collectPlaylistItemsWithContext (itemsProvider mixedPages)).requests.map
        PageRequest.offset = [0, 100, 0, 50] ∧
      (fetchAllPlaylistItems (itemsProvider mixedPages) 2).requests.map
        PageRequest.offset = [0, 100, 0, 50]) ∧
    ¬((collectPlaylistItemsWithContext
          (itemsProvider mixedPages)).requests.map
        PageRequest.offset).Pairwise (· < ·) ∧
    ¬((fetchAllPlaylistItems (itemsProvider mixedPages) 2).requests.map
        PageRequest.offset).Pairwise (· < ·) := by
  decide +kernel

end Paging
end Spotuify
