import Spotuify.PageCollectors

/-!
# One page of the saved tracks

A page of the saved tracks is assembled from pages of the provider, which may
be shorter.  Each round asks for no more than what is missing, and the total
is estimated from below where the provider does not report it.
-/

namespace Spotuify
namespace Paging

/-- What a page of saved tracks uses of a provider.  The answers of
`library_items` may differ from one call to the next. -/
structure LibraryProvider extends MusicProvider where
  canReadTracks : Bool
  maxPageSize : Option Nat
  trackPages : Nat → PageRequest →
    Except ProviderError (ProviderPage MediaItem)

/-- How a request for saved tracks fails. -/
inductive PageFailure where
  /-- `limit - items.len()` is below zero -/
  | underflow
  | provider (error : ProviderError)
  deriving DecidableEq

abbrev SavedTracks : Type := Except PageFailure (List MediaItem × Nat)

/-- The requests that were made and what is returned. -/
structure SavedTracksRun where
  requests : List PageRequest
  result : SavedTracks

/-- The run with one request before it. -/
def SavedTracksRun.after (request : PageRequest) (run : SavedTracksRun) :
    SavedTracksRun :=
  { run with requests := request :: run.requests }

/-- The variables of the loop at the start of a round. -/
structure SavedTracksState where
  pageIndex : Nat
  request : PageRequest
  items : List MediaItem
  exactTotal : Option Nat
  seenCursors : List String

inductive SavedTracksRound where
  | returns (result : SavedTracks)
  | continues (next : SavedTracksState)

/-- `u64::saturating_add`. -/
def saturatingAddU64 (left right : Nat) : Nat :=
  min (left + right) (2 ^ 64 - 1)

/-- `u32::saturating_sub`. -/
def saturatingSubU32 (left right : UInt32) : UInt32 :=
  if right ≤ left then left - right else 0

/-- The total that is known to exist when the provider reports none. -/
def lowerBound (logicalOffset : Nat) : Option PageContinuation → Nat
  | some (.offset nextOffset) =>
    saturatingAddU64 (max logicalOffset nextOffset) 1
  | some (.cursor _) => saturatingAddU64 logicalOffset 1
  | none => logicalOffset

namespace LibraryProvider

variable (provider : LibraryProvider)

/-- The largest page that is asked for. -/
def maxPage : UInt32 :=
  let size := provider.maxPageSize.getD 50
  max (if size < 2 ^ 32 then .ofNat size else .ofNat (2 ^ 32 - 1)) 1

/-- Both checks of a page. -/
def validateSavedTracks (request : PageRequest)
    (page : ProviderPage MediaItem) : Except ProviderError Unit :=
  match validateProviderPageOffset request page "library_items" with
  | .error error => .error error
  | .ok () =>
    validateProviderCollectionItems provider.toMusicProvider "library_items"
      [.track] page.items

/-- The body of the loop. -/
def fetchRound (limit : UInt32) (state : SavedTracksState) :
    SavedTracksRound :=
  match provider.trackPages state.pageIndex state.request with
  | .error error => .returns (.error (.provider error))
  | .ok page =>
    match provider.validateSavedTracks state.request page with
    | .error error => .returns (.error (.provider error))
    | .ok () =>
      let exactTotal := page.total.or state.exactTotal
      let logicalOffset :=
        saturatingAddU64 state.request.offset page.items.length
      if limit.toNat < state.items.length then .returns (.error .underflow)
      else
        let remaining := limit.toNat - state.items.length
        let items := state.items ++ page.items.take remaining
        let total := exactTotal.getD (lowerBound logicalOffset page.next)
        if limit.toNat ≤ items.length then .returns (.ok (items, total))
        else
          match page.next with
          | none => .returns (.ok (items, total))
          | some continuation =>
            match nextProviderPage state.request continuation logicalOffset
                state.seenCursors (state.pageIndex + 1) "saved tracks" with
            | .error error => .returns (.error (.provider error))
            | .ok (request, seenCursors) =>
              .continues
                { pageIndex := state.pageIndex + 1
                  request := { request with
                    limit := min
                      (saturatingSubU32 limit (.ofNat items.length))
                      provider.maxPage }
                  items := items
                  exactTotal := exactTotal
                  seenCursors := seenCursors }

/-- The loop, with the number of rounds that are left. -/
def fetchRounds (limit : UInt32) : Nat → SavedTracksState → SavedTracksRun
  | 0, _ =>
    ⟨[], .error (.provider (.provider ("saved track pagination exceeded " ++
      toString providerPaginationMaxPages ++ " pages")))⟩
  | rounds + 1, state =>
    match provider.fetchRound limit state with
    | .returns result => ⟨[state.request], result⟩
    | .continues next => (fetchRounds limit rounds next).after state.request

def firstState (limit offset : UInt32) : SavedTracksState where
  pageIndex := 0
  request := .new (min limit provider.maxPage) offset.toNat
  items := []
  exactTotal := none
  seenCursors := []

def fetchSavedTracksPage (limit offset : UInt32) : SavedTracksRun :=
  if limit = 0 then
    ⟨[], .error (.provider (.invalidInput "limit"
      "saved-track page limit must be greater than zero"))⟩
  else
    match requireProviderCapability provider.toMusicProvider
        "track library reads" provider.canReadTracks with
    | .error error => ⟨[], .error (.provider error)⟩
    | .ok () =>
      provider.fetchRounds limit providerPaginationMaxPages
        (provider.firstState limit offset)

end LibraryProvider

section

variable {provider : LibraryProvider} {limit : UInt32}

theorem maxPage_pos : 0 < provider.maxPage.toNat := by
  have least (size : UInt32) : (1 : UInt32) ≤ max size 1 := by
    change 1 ≤ if size ≤ 1 then 1 else size
    split
    · exact UInt32.le_refl 1
    case isFalse above =>
      exact UInt32.le_of_lt (UInt32.not_le.mp above)
  exact UInt32.le_iff_toNat_le.mp (least _)

theorem toNat_min (left right : UInt32) :
    (min left right).toNat = min left.toNat right.toNat := by
  change (if left ≤ right then left else right).toNat = _
  split
  case isTrue below =>
    exact (Nat.min_eq_left (UInt32.le_iff_toNat_le.mp below)).symm
  case isFalse above =>
    have smaller := UInt32.lt_iff_toNat_lt.mp (UInt32.not_le.mp above)
    exact (Nat.min_eq_right smaller.le).symm

theorem toNat_saturatingSubU32 {collected : Nat}
    (unfilled : collected ≤ limit.toNat) :
    (saturatingSubU32 limit (.ofNat collected)).toNat =
      limit.toNat - collected := by
  have small := limit.toNat_lt
  have same : (UInt32.ofNat collected).toNat = collected :=
    UInt32.toNat_ofNat_of_lt' (unfilled.trans_lt small)
  have within : UInt32.ofNat collected ≤ limit := by
    rw [UInt32.le_iff_toNat_le, same]
    exact unfilled
  rw [saturatingSubU32, if_pos within, UInt32.toNat_sub_of_le _ _ within,
    same]

/-- What is asked for is what is missing, as far as a page can hold it. -/
structure Filling (provider : LibraryProvider) (limit : UInt32)
    (state : SavedTracksState) : Prop where
  unfilled : state.items.length < limit.toNat
  asks : state.request.limit.toNat =
    min (limit.toNat - state.items.length) provider.maxPage.toNat

theorem Filling.limit_ne_zero {state : SavedTracksState}
    (filling : Filling provider limit state) : state.request.limit ≠ 0 := by
  intro isZero
  have asks := filling.asks
  rw [isZero] at asks
  have unfilled := filling.unfilled
  have positive := @maxPage_pos provider
  have zero : (0 : UInt32).toNat = 0 := rfl
  omega

theorem firstState_filling (positive : limit ≠ 0) (offset : UInt32) :
    Filling provider limit (provider.firstState limit offset) where
  unfilled := by
    change 0 < limit.toNat
    exact toNat_pos positive
  asks := toNat_min limit provider.maxPage

/-- What a round that is followed by another one has read. -/
theorem fetchRound_continues {state next : SavedTracksState}
    (continued : provider.fetchRound limit state = .continues next) :
    ∃ (page : ProviderPage MediaItem) (continuation : PageContinuation)
        (request : PageRequest),
      provider.trackPages state.pageIndex state.request = .ok page ∧
      page.next = some continuation ∧
      nextProviderPage state.request continuation
        (saturatingAddU64 state.request.offset page.items.length)
        state.seenCursors (state.pageIndex + 1) "saved tracks" =
          .ok (request, next.seenCursors) ∧
      next.pageIndex = state.pageIndex + 1 ∧
      next.items = state.items ++
        page.items.take (limit.toNat - state.items.length) ∧
      next.items.length < limit.toNat ∧
      next.exactTotal = page.total.or state.exactTotal ∧
      next.request = { request with
        limit := min (saturatingSubU32 limit (.ofNat next.items.length))
          provider.maxPage } := by
  unfold LibraryProvider.fetchRound at continued
  split at continued
  · cases continued
  case h_2 page answered =>
    split at continued
    · cases continued
    · simp only at continued
      split at continued
      · cases continued
      · split at continued
        · cases continued
        case isFalse unfilled =>
          split at continued
          · cases continued
          case h_2 continuation isNext =>
            split at continued
            · cases continued
            case h_2 request seen requested =>
              cases continued
              exact ⟨page, continuation, request, answered, isNext, requested,
                rfl, rfl, Nat.lt_of_not_le unfilled, rfl, rfl⟩

theorem Filling.continues {state next : SavedTracksState}
    (continued : provider.fetchRound limit state = .continues next) :
    Filling provider limit next := by
  obtain ⟨page, continuation, request, -, -, -, -, -, unfilled, -, asked⟩ :=
    fetchRound_continues continued
  refine ⟨unfilled, ?_⟩
  rw [asked, toNat_min, toNat_saturatingSubU32 unfilled.le]

theorem Filling.not_underflow {state : SavedTracksState}
    (filling : Filling provider limit state) :
    provider.fetchRound limit state ≠ .returns (.error .underflow) := by
  have unfilled := filling.unfilled
  have noUnderflow : ¬limit.toNat < state.items.length := by
    omega
  unfold LibraryProvider.fetchRound
  simp only [noUnderflow, if_false]
  split
  · simp
  · split
    · simp
    · split
      · simp
      · split
        · simp
        · split <;> simp

/-- No step goes below zero and no request is empty. -/
structure Sound (run : SavedTracksRun) : Prop where
  noUnderflow : run.result ≠ .error .underflow
  asksForItems : ∀ request ∈ run.requests, request.limit ≠ 0

theorem fetchRounds_sound {rounds : Nat} {state : SavedTracksState}
    (filling : Filling provider limit state) :
    Sound (provider.fetchRounds limit rounds state) := by
  induction rounds generalizing state with
  | zero =>
    constructor
    · rw [LibraryProvider.fetchRounds]
      simp
    · intro request member
      cases member
  | succ rounds ih =>
    rw [LibraryProvider.fetchRounds]
    cases fetched : provider.fetchRound limit state with
    | returns result =>
      constructor
      · rintro rfl
        exact filling.not_underflow fetched
      · simp only [List.mem_singleton, forall_eq]
        exact filling.limit_ne_zero
    | continues next =>
      have later := ih (Filling.continues fetched)
      constructor
      · exact later.noUnderflow
      · intro request member
        rcases List.mem_cons.mp member with rfl | inLater
        · exact filling.limit_ne_zero
        · exact later.asksForItems request inLater

end

/-- A page holds the tracks at the requested offset, no more than were asked
for, and says whether there are more. -/
structure PrefixPage (collection : List MediaItem) (request : PageRequest)
    (page : ProviderPage MediaItem) : Prop where
  echoes : page.requestedOffset = request.offset
  isPrefix : page.items <+: collection.drop request.offset
  atMost : page.items.length ≤ request.limit.toNat
  nonempty : request.offset < collection.length → page.items ≠ []
  continues : page.next.isSome ↔
    request.offset + page.items.length < collection.length
  reports : ∀ total, page.total = some total → total = collection.length

/-- Where a continuation goes on, if each cursor stands for a position. -/
def leadsTo (position : String → Nat) : PageContinuation → Nat
  | .offset offset => offset
  | .cursor cursor => position cursor

/-- A provider that serves a collection of tracks and goes on behind each
page. -/
structure HonestProvider (provider : LibraryProvider)
    (collection : List MediaItem) (position : String → Nat) : Prop where
  canRead : provider.canReadTracks = true
  valid : validateProviderCollectionItems provider.toMusicProvider
    "library_items" [.track] collection = .ok ()
  serves : ∀ round request, request.limit ≠ 0 →
    request.limit.toNat ≤ provider.maxPage.toNat →
    (∀ cursor, request.cursor = some cursor →
      position cursor = request.offset) →
    ∃ page, provider.trackPages round request = .ok page ∧
      PrefixPage collection request page ∧
      ∀ continuation, page.next = some continuation →
        leadsTo position continuation = request.offset + page.items.length

/-- The tracks and the total of a requested window. -/
structure IsWindow (collection : List MediaItem) (limit offset : UInt32)
    (items : List MediaItem) (total : Nat) : Prop where
  items_eq : items = (collection.drop offset.toNat).take limit.toNat
  behindLast : items ≠ [] → offset.toNat + items.length ≤ total
  more : offset.toNat + items.length < collection.length →
    offset.toNat + items.length < total

/-- Some page of the run reports a total. -/
def Reported (provider : LibraryProvider) (pageIndex : Nat)
    (requests : List PageRequest) : Prop :=
  ∃ index request page, requests[index]? = some request ∧
    provider.trackPages (pageIndex + index) request = .ok page ∧
    page.total.isSome

section

variable {provider : LibraryProvider} {collection : List MediaItem}
  {position : String → Nat} {limit offset : UInt32}

theorem reported_cons {pageIndex : Nat} {request : PageRequest}
    {requests : List PageRequest}
    (reported : Reported provider pageIndex (request :: requests)) :
    (∃ page, provider.trackPages pageIndex request = .ok page ∧
      page.total.isSome) ∨ Reported provider (pageIndex + 1) requests := by
  obtain ⟨index, asked, page, atIndex, answered, isSome⟩ := reported
  cases index with
  | zero =>
    cases atIndex
    exact .inl ⟨page, answered, isSome⟩
  | succ index =>
    right
    refine ⟨index, asked, page, atIndex, ?_, isSome⟩
    rw [Nat.add_right_comm]
    exact answered

theorem le_lowerBound {logicalOffset : Nat}
    (small : logicalOffset < 2 ^ 64 - 1) (next : Option PageContinuation) :
    logicalOffset ≤ lowerBound logicalOffset next := by
  rcases next with _ | ⟨nextOffset⟩ | cursor
  · exact le_refl logicalOffset
  all_goals
    simp only [lowerBound, saturatingAddU64]
    omega

theorem lt_lowerBound {logicalOffset : Nat}
    (small : logicalOffset < 2 ^ 64 - 1) {next : Option PageContinuation}
    (isSome : next.isSome) :
    logicalOffset < lowerBound logicalOffset next := by
  rcases next with _ | ⟨nextOffset⟩ | cursor
  · cases isSome
  all_goals
    simp only [lowerBound, saturatingAddU64]
    omega

/-- The state of the loop when the pages so far make up the start of the
window. -/
structure Windowed (provider : LibraryProvider)
    (collection : List MediaItem) (position : String → Nat)
    (limit offset : UInt32) (state : SavedTracksState) : Prop
    extends Filling provider limit state where
  reached : state.request.offset = offset.toNat + state.items.length
  isStart : state.items =
    (collection.drop offset.toNat).take state.items.length
  atPosition : ∀ cursor, state.request.cursor = some cursor →
    position cursor = state.request.offset
  passed : ∀ cursor ∈ state.seenCursors,
    position cursor ≤ state.request.offset
  exact : ∀ total, state.exactTotal = some total → total = collection.length

theorem firstState_windowed (positive : limit ≠ 0) :
    Windowed provider collection position limit offset
      (provider.firstState limit offset) where
  toFilling := firstState_filling positive offset
  reached := rfl
  isStart := rfl
  atPosition := nofun
  passed := nofun
  exact := nofun

/-- A page continues the start of the window. -/
theorem start_append {state : SavedTracksState}
    {page : ProviderPage MediaItem}
    (windowed : Windowed provider collection position limit offset state)
    (isPage : PrefixPage collection state.request page) :
    state.items ++ page.items = (collection.drop offset.toNat).take
      (state.items ++ page.items).length := by
  have pageItems : page.items = ((collection.drop offset.toNat).drop
      state.items.length).take page.items.length := by
    rw [List.drop_drop, ← windowed.reached]
    exact List.prefix_iff_eq_take.mp isPage.isPrefix
  rw [List.length_append, List.take_add, ← pageItems, ← windowed.isStart]

theorem validateSavedTracks_ok {request : PageRequest}
    {page : ProviderPage MediaItem}
    (honest : HonestProvider provider collection position)
    (isPage : PrefixPage collection request page) :
    provider.validateSavedTracks request page = .ok () := by
  have sameOffset : validateProviderPageOffset request page "library_items" =
      .ok () :=
    if_neg (not_not_intro isPage.echoes)
  have fromCollection : page.items ⊆ collection := by
    intro item member
    exact List.mem_of_mem_drop (isPage.isPrefix.subset member)
  rw [LibraryProvider.validateSavedTracks, sameOffset]
  exact validateProviderCollectionItems_of_subset fromCollection honest.valid

theorem nextProviderPage_exceeded {current : PageRequest}
    {continuation : PageContinuation} {logicalOffset pageIndex : Nat}
    {seenCursors : List String}
    (exceeded : providerPaginationMaxPages ≤ pageIndex) :
    nextProviderPage current continuation logicalOffset seenCursors pageIndex
      "saved tracks" =
        .error (.provider "saved tracks pagination exceeded 1000 pages") := by
  unfold nextProviderPage
  rw [if_pos exceeded]
  rfl

/-- The request behind a page, unless the page was the last one allowed. -/
theorem nextProviderPage_behind {current : PageRequest}
    {continuation : PageContinuation} {logicalOffset pageIndex : Nat}
    {seenCursors : List String}
    (leads : leadsTo position continuation = logicalOffset)
    (beyond : current.offset < logicalOffset)
    (passed : ∀ cursor ∈ seenCursors, position cursor ≤ current.offset)
    (allowed : pageIndex < providerPaginationMaxPages) :
    ∃ request seen,
      nextProviderPage current continuation logicalOffset seenCursors
        pageIndex "saved tracks" = .ok (request, seen) ∧
      request.offset = logicalOffset ∧
      (∀ cursor, request.cursor = some cursor →
        position cursor = logicalOffset) ∧
      ∀ cursor ∈ seen, position cursor ≤ logicalOffset := by
  have notExceeded : ¬providerPaginationMaxPages ≤ pageIndex :=
    Nat.not_le_of_lt allowed
  unfold nextProviderPage
  rw [if_neg notExceeded]
  cases continuation with
  | offset nextOffset =>
    have same : nextOffset = logicalOffset := leads
    subst same
    refine ⟨_, _, if_pos beyond, rfl, nofun, ?_⟩
    intro cursor member
    exact (passed cursor member).trans beyond.le
  | cursor cursor =>
    have same : position cursor = logicalOffset := leads
    have fresh : cursor ∉ seenCursors := by
      intro again
      have := passed cursor again
      omega
    refine ⟨_, _, if_neg fresh, rfl, ?_, ?_⟩
    · rintro _ ⟨⟩
      exact same
    · intro other member
      rcases List.mem_cons.mp member with rfl | seen
      · exact same.le
      · exact (passed other seen).trans beyond.le

/-- What is returned is a window once it is full or nothing is left. -/
theorem isWindow_of_page {items : List MediaItem}
    {next : Option PageContinuation} {total : Option Nat}
    (isStart : items = (collection.drop offset.toNat).take items.length)
    (within : items.length ≤ limit.toNat)
    (continues : next.isSome ↔
      offset.toNat + items.length < collection.length)
    (ended : items.length = limit.toNat ∨ next = none)
    (exact : ∀ reported, total = some reported →
      reported = collection.length) :
    IsWindow collection limit offset items
      (total.getD (lowerBound (offset.toNat + items.length) next)) := by
  have small : offset.toNat + items.length < 2 ^ 64 - 1 := by
    have offsetSmall := offset.toNat_lt
    have limitSmall := limit.toNat_lt
    omega
  refine ⟨?_, ?_, ?_⟩
  · rcases ended with isFull | isLast
    · rw [← isFull]
      exact isStart
    · have noMore : ¬offset.toNat + items.length < collection.length := by
        rw [← continues, isLast]
        simp
      rw [isStart, List.take_of_length_le, List.take_of_length_le]
      all_goals
        rw [List.length_drop]
        omega
  · intro nonempty
    cases total with
    | none => exact le_lowerBound small next
    | some reported =>
      obtain rfl := exact reported rfl
      have counted := congrArg List.length isStart
      rw [List.length_take, List.length_drop] at counted
      have positive := List.length_pos_iff.mpr nonempty
      change offset.toNat + items.length ≤ collection.length
      omega
  · intro more
    cases total with
    | none => exact lt_lowerBound small (continues.mpr more)
    | some reported =>
      obtain rfl := exact reported rfl
      exact more

/-- A state of the loop with the tracks of a page it has read. -/
structure Extended (collection : List MediaItem) (limit offset : UInt32)
    (state : SavedTracksState) (page : ProviderPage MediaItem) : Prop where
  whole : page.items.take (limit.toNat - state.items.length) = page.items
  within : (state.items ++ page.items).length ≤ limit.toNat
  reached : state.request.offset + page.items.length =
    offset.toNat + (state.items ++ page.items).length
  isStart : state.items ++ page.items =
    (collection.drop offset.toNat).take (state.items ++ page.items).length
  continues : page.next.isSome ↔
    offset.toNat + (state.items ++ page.items).length < collection.length
  exact : ∀ total, page.total.or state.exactTotal = some total →
    total = collection.length

theorem Windowed.extended {state : SavedTracksState}
    {page : ProviderPage MediaItem}
    (windowed : Windowed provider collection position limit offset state)
    (isPage : PrefixPage collection state.request page) :
    Extended collection limit offset state page := by
  have unfilled := windowed.unfilled
  have asks := windowed.asks
  have atMost := isPage.atMost
  have reached : state.request.offset + page.items.length =
      offset.toNat + (state.items ++ page.items).length := by
    rw [windowed.reached, List.length_append]
    omega
  constructor
  · exact List.take_of_length_le (by omega)
  · rw [List.length_append]
    omega
  · exact reached
  · exact start_append windowed isPage
  · rw [← reached]
    exact isPage.continues
  · intro total isTotal
    rcases Option.or_eq_some_iff.mp isTotal with reported | ⟨-, earlier⟩
    · exact isPage.reports total reported
    · exact windowed.exact total earlier

namespace Extended

variable {state : SavedTracksState} {page : ProviderPage MediaItem}

/-- The logical offset does not saturate. -/
theorem logicalOffset (extended : Extended collection limit offset state page) :
    saturatingAddU64 state.request.offset page.items.length =
      offset.toNat + (state.items ++ page.items).length := by
  have offsetSmall := offset.toNat_lt
  have limitSmall := limit.toNat_lt
  have within := extended.within
  rw [saturatingAddU64, extended.reached]
  omega

theorem isWindow (extended : Extended collection limit offset state page)
    (ended : limit.toNat ≤ (state.items ++ page.items).length ∨
      page.next = none) :
    IsWindow collection limit offset (state.items ++ page.items)
      ((page.total.or state.exactTotal).getD
        (lowerBound (offset.toNat + (state.items ++ page.items).length)
          page.next)) :=
  isWindow_of_page extended.isStart extended.within extended.continues
    (ended.imp_left (le_antisymm extended.within)) extended.exact

theorem total_eq (extended : Extended collection limit offset state page)
    (logicalTotal : Nat)
    (isSome : (page.total.or state.exactTotal).isSome) :
    (page.total.or state.exactTotal).getD logicalTotal =
      collection.length := by
  obtain ⟨total, isTotal⟩ := Option.isSome_iff_exists.mp isSome
  rw [isTotal]
  exact extended.exact total isTotal

/-- The request behind a page that something follows. -/
theorem goesOn (extended : Extended collection limit offset state page)
    (windowed : Windowed provider collection position limit offset state)
    (isPage : PrefixPage collection state.request page)
    {continuation : PageContinuation} (isNext : page.next = some continuation)
    (leads : leadsTo position continuation =
      state.request.offset + page.items.length)
    (unfilled : (state.items ++ page.items).length < limit.toNat)
    (allowed : state.pageIndex + 1 < providerPaginationMaxPages) :
    ∃ request seen,
      nextProviderPage state.request continuation
        (offset.toNat + (state.items ++ page.items).length) state.seenCursors
        (state.pageIndex + 1) "saved tracks" = .ok (request, seen) ∧
      Windowed provider collection position limit offset
        { pageIndex := state.pageIndex + 1
          request := { request with
            limit := min
              (saturatingSubU32 limit
                (.ofNat (state.items ++ page.items).length))
              provider.maxPage }
          items := state.items ++ page.items
          exactTotal := page.total.or state.exactTotal
          seenCursors := seen } := by
  have reached := extended.reached
  have more : state.request.offset < collection.length := by
    have := extended.continues.mp (by rw [isNext]; rfl)
    omega
  have advances := List.length_pos_iff.mpr (isPage.nonempty more)
  obtain ⟨request, seen, requested, requestOffset, atPosition, passed⟩ :=
    nextProviderPage_behind (leads.trans reached) (by omega) windowed.passed
      allowed
  refine ⟨request, seen, requested, ⟨⟨unfilled, ?_⟩, requestOffset,
    extended.isStart, ?_, ?_, extended.exact⟩⟩
  · change (min (saturatingSubU32 limit _) provider.maxPage).toNat = _
    rw [toNat_min, toNat_saturatingSubU32 extended.within]
  · intro cursor isCursor
    exact (atPosition cursor isCursor).trans requestOffset.symm
  · intro cursor member
    exact (passed cursor member).trans requestOffset.ge

end Extended

/-- A round returns the window, stops at the page bound or goes on with a
longer start of the window. -/
theorem fetchRound_windowed
    (honest : HonestProvider provider collection position)
    {state : SavedTracksState}
    (windowed : Windowed provider collection position limit offset state) :
    ∃ page, provider.trackPages state.pageIndex state.request = .ok page ∧
      ((∃ items total,
          provider.fetchRound limit state = .returns (.ok (items, total)) ∧
          IsWindow collection limit offset items total ∧
          ((page.total.or state.exactTotal).isSome →
            total = collection.length)) ∨
        (providerPaginationMaxPages ≤ state.pageIndex + 1 ∧
          provider.fetchRound limit state = .returns (.error (.provider
            (.provider "saved tracks pagination exceeded 1000 pages")))) ∨
        ∃ next, provider.fetchRound limit state = .continues next ∧
          state.pageIndex + 1 < providerPaginationMaxPages ∧
          next.pageIndex = state.pageIndex + 1 ∧
          next.exactTotal = page.total.or state.exactTotal ∧
          Windowed provider collection position limit offset next) := by
  have atMostPage : state.request.limit.toNat ≤ provider.maxPage.toNat := by
    rw [windowed.asks]
    exact Nat.min_le_right _ _
  obtain ⟨page, answered, isPage, leads⟩ := honest.serves state.pageIndex
    state.request windowed.limit_ne_zero atMostPage windowed.atPosition
  refine ⟨page, answered, ?_⟩
  have extended := windowed.extended isPage
  have noUnderflow := Nat.not_lt_of_lt windowed.unfilled
  unfold LibraryProvider.fetchRound
  simp only [answered, validateSavedTracks_ok honest isPage, noUnderflow,
    if_false, extended.whole, extended.logicalOffset]
  by_cases isFull : limit.toNat ≤ (state.items ++ page.items).length
  · left
    exact ⟨_, _, if_pos isFull, extended.isWindow (.inl isFull),
      extended.total_eq _⟩
  · rw [if_neg isFull]
    cases isNext : page.next with
    | none =>
      left
      have isWindow := extended.isWindow (.inr isNext)
      rw [isNext] at isWindow
      exact ⟨_, _, rfl, isWindow, extended.total_eq _⟩
    | some continuation =>
      right
      by_cases exceeded : providerPaginationMaxPages ≤ state.pageIndex + 1
      · left
        refine ⟨exceeded, ?_⟩
        simp only [nextProviderPage_exceeded exceeded]
      · right
        have allowed := Nat.lt_of_not_le exceeded
        obtain ⟨request, seen, requested, nextWindowed⟩ := extended.goesOn
          windowed isPage isNext (leads continuation isNext)
          (Nat.lt_of_not_le isFull) allowed
        simp only [requested]
        exact ⟨_, rfl, allowed, rfl, rfl, nextWindowed⟩

/-- What a run that starts with a page of some index comes to. -/
def ReturnsWindow (provider : LibraryProvider) (collection : List MediaItem)
    (limit offset : UInt32) (pageIndex : Nat) (exactTotal : Option Nat)
    (run : SavedTracksRun) : Prop :=
  (∃ items total, run.result = .ok (items, total) ∧
    IsWindow collection limit offset items total ∧
    (exactTotal.isSome ∨ Reported provider pageIndex run.requests →
      total = collection.length)) ∨
  pageIndex + run.requests.length = providerPaginationMaxPages ∧
    run.result = .error (.provider
      (.provider "saved tracks pagination exceeded 1000 pages"))

theorem fetchRounds_returnsWindow
    (honest : HonestProvider provider collection position) {rounds : Nat}
    {state : SavedTracksState}
    (windowed : Windowed provider collection position limit offset state)
    (allowed : state.pageIndex < providerPaginationMaxPages)
    (budget : state.pageIndex + rounds = providerPaginationMaxPages) :
    ReturnsWindow provider collection limit offset state.pageIndex
      state.exactTotal (provider.fetchRounds limit rounds state) := by
  induction rounds generalizing state with
  | zero => omega
  | succ rounds ih =>
    obtain ⟨page, answered, outcome⟩ := fetchRound_windowed honest windowed
    have reportedHere (reported : ∃ other,
        provider.trackPages state.pageIndex state.request = .ok other ∧
          other.total.isSome) :
        (page.total.or state.exactTotal).isSome := by
      obtain ⟨other, otherAnswer, isSome⟩ := reported
      obtain rfl := Except.ok.inj (answered.symm.trans otherAnswer)
      rw [Option.isSome_or, isSome, Bool.true_or]
    have reportedEarlier (earlier : state.exactTotal.isSome) :
        (page.total.or state.exactTotal).isSome := by
      rw [Option.isSome_or, earlier, Bool.or_true]
    rw [LibraryProvider.fetchRounds]
    rcases outcome with ⟨items, total, fetched, isWindow, exact⟩ |
      ⟨exceeded, fetched⟩ | ⟨next, fetched, within, nextIndex, nextTotal,
        nextWindowed⟩
    · rw [fetched]
      refine .inl ⟨items, total, rfl, isWindow, ?_⟩
      rintro (earlier | reported)
      · exact exact (reportedEarlier earlier)
      · rcases reported_cons reported with here | ⟨index, _, _, atIndex, _⟩
        · exact exact (reportedHere here)
        · cases atIndex
    · rw [fetched]
      exact .inr ⟨by simp only [List.length_singleton]; omega, rfl⟩
    · rw [fetched]
      have later := ih nextWindowed (by omega) (by omega)
      rw [nextIndex] at later
      rcases later with ⟨items, total, result, isWindow, exact⟩ |
        ⟨bounded, result⟩
      · refine .inl ⟨items, total, result, isWindow, ?_⟩
        rw [nextTotal] at exact
        rintro (earlier | reported)
        · exact exact (.inl (reportedEarlier earlier))
        · rcases reported_cons reported with here | inLater
          · exact exact (.inl (reportedHere here))
          · exact exact (.inr inLater)
      · refine .inr ⟨?_, result⟩
        simp only [SavedTracksRun.after, List.length_cons]
        omega

end

/-- With any provider no step goes below zero and every request asks for
something; with an honest one the page is the requested window, unless the
page bound is reached. -/
theorem fetchSavedTracksPage_isWindow (provider : LibraryProvider)
    (limit offset : UInt32) :
    Sound (provider.fetchSavedTracksPage limit offset) ∧
      ∀ collection position, limit ≠ 0 →
        HonestProvider provider collection position →
        ReturnsWindow provider collection limit offset 0 none
          (provider.fetchSavedTracksPage limit offset) := by
  constructor
  · unfold LibraryProvider.fetchSavedTracksPage
    split
    · exact ⟨nofun, nofun⟩
    case isFalse positive =>
      split
      · exact ⟨nofun, nofun⟩
      · exact fetchRounds_sound (firstState_filling positive offset)
  · intro collection position positive honest
    unfold LibraryProvider.fetchSavedTracksPage
    rw [if_neg positive]
    simp only [requireProviderCapability, honest.canRead, if_true]
    have allowed : 0 < providerPaginationMaxPages := by decide
    exact fetchRounds_returnsWindow honest (firstState_windowed positive)
      allowed (Nat.zero_add _)

/-- A provider of three tracks. -/
def trackLibrary (maxPageSize : Nat)
    (trackPages : PageRequest → ProviderPage MediaItem) : LibraryProvider where
  toMusicProvider := itemsProvider fun _ => .error .authRequired
  canReadTracks := true
  maxPageSize := some maxPageSize
  trackPages := fun _ request => .ok (trackPages request)

theorem slicePage_isPrefix (collection : List MediaItem)
    {request : PageRequest} (positive : request.limit ≠ 0) :
    PrefixPage collection request
        (slicePage collection request.limit request.offset) ∧
      ∀ continuation,
        (slicePage collection request.limit request.offset).next =
          some continuation →
        continuation = .offset (request.offset +
          (slicePage collection request.limit request.offset).items.length) := by
  have limitPositive := toNat_pos positive
  have counted : (slicePage collection request.limit
      request.offset).items.length =
        min request.limit.toNat (collection.length - request.offset) := by
    rw [slicePage, List.length_take, List.length_drop]
  rw [counted]
  refine ⟨⟨rfl, List.take_prefix _ _, ?_, ?_, ?_, ?_⟩, ?_⟩
  · omega
  · intro more
    apply List.ne_nil_of_length_pos
    omega
  · rw [counted, slicePage]
    simp only
    split
    all_goals
      simp
      omega
  · rintro total ⟨⟩
    rfl
  · intro continuation isNext
    simp only [slicePage] at isNext
    split at isNext
    · cases isNext
      congr
      omega
    · cases isNext

theorem trackLibrary_honest : HonestProvider
    (trackLibrary 1 fun request =>
      slicePage threeTracks request.limit request.offset)
    threeTracks (fun _ => 0) where
  canRead := rfl
  valid := by decide +kernel
  serves := by
    intro round request positive _ _
    obtain ⟨isPrefix, leads⟩ := slicePage_isPrefix threeTracks positive
    refine ⟨_, rfl, isPrefix, ?_⟩
    intro continuation isNext
    rw [leads continuation isNext, leadsTo]

/-- The second and the third track, one for each request. -/
theorem fetchSavedTracksPage_isWindow_of_two :
    ∃ items total, ((trackLibrary 1 fun request =>
        slicePage threeTracks request.limit
          request.offset).fetchSavedTracksPage 2 1).result =
        .ok (items, total) ∧
      IsWindow threeTracks 2 1 items total := by
  rcases (fetchSavedTracksPage_isWindow (trackLibrary 1 fun request =>
      slicePage threeTracks request.limit request.offset) 2 1).2 threeTracks
    (fun _ => 0) (by decide) trackLibrary_honest with
    ⟨items, total, result, isWindow, -⟩ | ⟨bounded, -⟩
  · exact ⟨items, total, result, isWindow⟩
  · exact absurd bounded (by decide +kernel)

/-- Pages of one track that all go on with one cursor. -/
def oneCursorPage (request : PageRequest) : ProviderPage MediaItem :=
  { slicePage threeTracks request.limit request.offset with
    next := if request.offset + request.limit.toNat < threeTracks.length then
      some (.cursor "next") else none }

/-- Each page is what was asked for and goes on while tracks remain, but the
second page's cursor is taken for a repeated one. -/
theorem oneCursorPage_fails :
    (∀ request, request.limit ≠ 0 →
      PrefixPage threeTracks request (oneCursorPage request)) ∧
    ((trackLibrary 1 oneCursorPage).fetchSavedTracksPage 3 0).requests.length =
      2 ∧
    ((trackLibrary 1 oneCursorPage).fetchSavedTracksPage 3 0).result =
      .error (.provider
        (.provider "saved tracks pagination repeated a cursor")) := by
  refine ⟨?_, by decide +kernel, by decide +kernel⟩
  intro request positive
  have isPrefix := (slicePage_isPrefix threeTracks positive).1
  refine { isPrefix with continues := ?_ }
  have continues := isPrefix.continues
  simp only [oneCursorPage, slicePage] at continues ⊢
  rw [← continues]
  split <;> rfl

end Paging
end Spotuify
