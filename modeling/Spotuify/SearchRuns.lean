import Mathlib.Data.List.Nodup
import Spotuify.SearchPages

/-!
# What a search shows

The results shown are settled by the pages filed since the search started, each
under its kind and offset.  So they do not depend on the order the pages came
in, as long as no two of them were filed at one place.
-/

namespace Spotuify

namespace SearchView

variable (view : SearchView)

theorem filed_startSearch (route : SearchSource × Option ProviderId)
    (supported : MediaKind → Bool) :
    (view.startSearch route supported).filed = fun _ => .empty := by
  unfold startSearch
  split <;> rfl

theorem searchResults_startSearch (route : SearchSource × Option ProviderId)
    (supported : MediaKind → Bool) :
    (view.startSearch route supported).searchResults = [] := by
  unfold startSearch
  split <;> rfl

/-- A pane that is replaced by one with the same pages files the same. -/
theorem filed_update {kind : MediaKind} {pane : SearchPaneState}
    (same : pane.pages = view.filed kind) :
    ({ view with
        searchPanes := Function.update view.searchPanes kind (some pane) } :
      SearchView).filed = view.filed := by
  funext other
  by_cases isKind : other = kind
  · subst isKind
    simpa [filed] using same
  · simp [filed, isKind]

theorem pages_getD (kind : MediaKind) :
    ((view.searchPanes kind).getD .default).pages = view.filed kind := by
  cases pane : view.searchPanes kind <;>
    simp [filed, pane, SearchPaneState.default]

theorem filed_fetchPage (kind : MediaKind) :
    (view.fetchPage kind).filed = view.filed := by
  unfold fetchPage
  cases pane : view.searchPanes kind with
  | none => rfl
  | some held =>
    dsimp only
    split
    · rfl
    · apply filed_update
      simp [filed, pane]

theorem searchResults_fetchPage (kind : MediaKind) :
    (view.fetchPage kind).searchResults = view.searchResults := by
  unfold fetchPage
  split
  · rfl
  · split <;> rfl

theorem filed_applyPage (visible : List MediaItem → List MediaItem)
    (kind : MediaKind) (offset : Nat) (items : List MediaItem) :
    (view.applyPage visible kind offset items).filed =
      Function.update view.filed kind
        ((view.filed kind).insert offset items) := by
  funext other
  by_cases isKind : other = kind
  · subst isKind
    rw [Function.update_self, ← view.pages_getD]
    simp [applyPage, filed, filePage]
  · simp [applyPage, filed, isKind]

theorem filed_applyComplete : view.applyComplete.filed = view.filed := by
  funext kind
  cases pane : view.searchPanes kind <;> simp [applyComplete, filed, pane]

theorem filed_applyFailed (message : String) (kind : Option MediaKind) :
    (view.applyFailed message kind).filed = view.filed := by
  cases kind with
  | none =>
    funext kind
    cases pane : view.searchPanes kind <;> simp [applyFailed, filed, pane]
  | some kind => exact view.filed_update (view.pages_getD kind)

/-- An event files its page when it is current, and nothing else. -/
theorem filed_applyEvent (visible : List MediaItem → List MediaItem)
    (event : SearchEvent) :
    (view.applyEvent visible event).filed =
      (view.currentPage? event).elim view.filed fun page =>
        Function.update view.filed page.kind
          ((view.filed page.kind).insert page.offset page.items) := by
  cases event with
  | page tag kind offset items =>
    by_cases current : view.isCurrent tag = true
    · simp [applyEvent, currentPage?, current, filed_applyPage]
    · simp [applyEvent, currentPage?, current]
  | complete tag =>
    by_cases current : view.isCurrent tag = true
    · simp [applyEvent, currentPage?, current, filed_applyComplete]
    · simp [applyEvent, currentPage?, current]
  | failed tag kind message =>
    by_cases current : view.isCurrent tag = true
    · simp [applyEvent, currentPage?, current, filed_applyFailed]
    · simp [applyEvent, currentPage?, current]

theorem searchResults_applyFailed (message : String)
    (kind : Option MediaKind) :
    (view.applyFailed message kind).searchResults = view.searchResults := by
  cases kind <;> rfl

/-- An event that files nothing shows the same. -/
theorem searchResults_applyEvent (visible : List MediaItem → List MediaItem)
    (event : SearchEvent) :
    (view.applyEvent visible event).searchResults =
      if (view.currentPage? event).isSome then
        rebuildSearchResults (view.applyEvent visible event).filed
      else view.searchResults := by
  cases event with
  | page tag kind offset items =>
    by_cases current : view.isCurrent tag = true
    · rw [applyEvent, if_pos current]
      simp only [currentPage?, current, if_true, Option.isSome_some]
      rfl
    · simp [applyEvent, currentPage?, current]
  | complete tag =>
    by_cases current : view.isCurrent tag = true
    · simp [applyEvent, currentPage?, current, applyComplete]
    · simp [applyEvent, currentPage?, current]
  | failed tag kind message =>
    by_cases current : view.isCurrent tag = true
    · simp [applyEvent, currentPage?, current, searchResults_applyFailed]
    · simp [applyEvent, currentPage?, current]

/-- No event changes the search that is shown, or whether the user steers. -/
theorem applyEvent_keeps (visible : List MediaItem → List MediaItem)
    (event : SearchEvent) :
    (view.applyEvent visible event).isCurrent = view.isCurrent ∧
      (view.applyEvent visible event).searchUserSteered =
        view.searchUserSteered := by
  cases event with
  | page other kind offset items =>
    simp only [applyEvent]
    split <;> exact ⟨rfl, rfl⟩
  | complete other =>
    simp only [applyEvent]
    split <;> exact ⟨rfl, rfl⟩
  | failed other kind message =>
    simp only [applyEvent]
    split
    · cases kind <;> exact ⟨rfl, rfl⟩
    · exact ⟨rfl, rfl⟩

end SearchView

theorem lastPage_cons (page : SearchedPage) (filings : List SearchedPage)
    (kind : MediaKind) (offset : Nat) :
    lastPage (page :: filings) kind offset =
      if page.key = (kind, offset) then some page.items
      else lastPage filings kind offset := by
  unfold lastPage
  by_cases here : page.key = (kind, offset)
  · rw [List.find?_cons_of_pos (by simpa using here), if_pos here,
      Option.map_some]
  · rw [List.find?_cons_of_neg (by simpa using here), if_neg here]

namespace SearchSystem

variable {system next : SearchSystem}

/-- The panes hold what was filed last at each place, and the results are
rebuilt from them. -/
structure ShowsFilings (system : SearchSystem) : Prop where
  filed : ∀ kind offset, (system.view.filed kind).get? offset =
    lastPage system.filings kind offset
  shown : system.view.searchResults =
    rebuildSearchResults system.view.filed

theorem initial_showsFilings : initial.ShowsFilings where
  filed _ _ := rfl
  shown := rfl

theorem ShowsFilings.of_same (shows : system.ShowsFilings)
    (filings : next.filings = system.filings)
    (filed : next.view.filed = system.view.filed)
    (shown : next.view.searchResults = system.view.searchResults) :
    next.ShowsFilings where
  filed := by
    rw [filed, filings]
    exact shows.filed
  shown := by
    rw [shown, filed]
    exact shows.shown

theorem ShowsFilings.arrived (shows : system.ShowsFilings)
    (visible : List MediaItem → List MediaItem) (event : SearchEvent) :
    (system.act (.arrived visible event)).ShowsFilings := by
  have filed := system.view.filed_applyEvent visible event
  have results := system.view.searchResults_applyEvent visible event
  cases current : system.view.currentPage? event with
  | none =>
    rw [current] at filed results
    exact shows.of_same (by simp [act, current]) filed results
  | some page =>
    rw [current] at results
    rw [current, Option.elim_some] at filed
    constructor
    · intro kind offset
      have filings : (system.act (.arrived visible event)).filings =
          page :: system.filings := by
        simp [act, current]
      rw [filings, lastPage_cons, ← shows.filed]
      change ((system.view.applyEvent visible event).filed kind).get? offset =
        _
      rw [filed]
      by_cases sameKind : kind = page.kind
      · subst sameKind
        rw [Function.update_self, SortedMap.get?_insert]
        simp [SearchedPage.key, eq_comm]
      · rw [Function.update_of_ne sameKind, if_neg]
        simp [SearchedPage.key, Ne.symm sameKind]
    · exact results

theorem ShowsFilings.act (shows : system.ShowsFilings)
    (action : SearchAction) : (system.act action).ShowsFilings := by
  cases action with
  | typed query => exact shows.of_same rfl rfl rfl
  | started route supported =>
    have filed := system.view.filed_startSearch route supported
    constructor
    · intro kind offset
      change ((system.view.startSearch route supported).filed kind).get?
        offset = none
      rw [filed]
      rfl
    · change (system.view.startSearch route supported).searchResults =
        rebuildSearchResults (system.view.startSearch route supported).filed
      rw [filed, system.view.searchResults_startSearch]
      rfl
  | fetched kind =>
    exact @of_same system (system.act (.fetched kind)) shows rfl
      (system.view.filed_fetchPage kind)
      (system.view.searchResults_fetchPage kind)
  | steered index => exact shows.of_same rfl rfl rfl
  | resorted => exact shows.of_same rfl rfl rfl
  | requestFailed => exact shows.of_same rfl rfl rfl
  | arrived visible event => exact shows.arrived visible event

theorem Reachable.showsFilings (reachable : system.Reachable) :
    system.ShowsFilings := by
  apply GuardedMachine.Reachable.induction machine _ _ reachable
  · rintro _ rfl
    exact initial_showsFilings
  · intro state action after shows steps
    cases steps
    exact shows.act action

/-- At any time of any run, the results are the first occurrences of the items
filed since the search started, by kind and by offset: no URI twice, and each
one that is in a page last filed at its place. -/
theorem searchResults_exact (reachable : system.Reachable) :
    ∃ pages : FiledPages,
      (∀ kind offset, (pages kind).get? offset =
        lastPage system.filings kind offset) ∧
      system.view.searchResults = rebuildSearchResults pages ∧
      (system.view.searchResults.map MediaItem.uri).Nodup ∧
      ∀ uri, uri ∈ system.view.searchResults.map MediaItem.uri ↔
        ∃ kind offset items,
          lastPage system.filings kind offset = some items ∧
            uri ∈ items.map MediaItem.uri := by
  have shows := reachable.showsFilings
  refine ⟨system.view.filed, shows.filed, shows.shown, ?_, ?_⟩
  · rw [shows.shown]
    exact nodup_uris_firstOfEachUri [] _
  · intro uri
    rw [shows.shown, mem_uris_rebuildSearchResults]
    simp only [shows.filed]

/-- An event and the visible list of its time. -/
abbrev Arrival := (List MediaItem → List MediaItem) × SearchEvent

def arrive (system : SearchSystem) (arrivals : List Arrival) : SearchSystem :=
  arrivals.foldl (fun held arrival => held.act (.arrived arrival.1 arrival.2))
    system

/-- The pages of the current events among the arrivals. -/
def currentPages (view : SearchView) (arrivals : List Arrival) :
    List SearchedPage :=
  arrivals.filterMap fun arrival => view.currentPage? arrival.2

theorem ShowsFilings.arrive (shows : system.ShowsFilings)
    (arrivals : List Arrival) : (system.arrive arrivals).ShowsFilings := by
  induction arrivals generalizing system with
  | nil => exact shows
  | cons arrival rest inductionHypothesis =>
    exact inductionHypothesis (shows.arrived arrival.1 arrival.2)

theorem currentPage?_congr {first second : SearchView}
    (same : first.isCurrent = second.isCurrent) (event : SearchEvent) :
    first.currentPage? event = second.currentPage? event := by
  cases event with
  | page tag kind offset items => simp [SearchView.currentPage?, same]
  | complete tag => rfl
  | failed tag kind message => rfl

theorem filings_arrive (system : SearchSystem) (arrivals : List Arrival) :
    (system.arrive arrivals).filings =
      (currentPages system.view arrivals).reverse ++ system.filings := by
  induction arrivals generalizing system with
  | nil => rfl
  | cons arrival rest inductionHypothesis =>
    have later : ∀ event,
        (system.act (.arrived arrival.1 arrival.2)).view.currentPage? event =
          system.view.currentPage? event :=
      currentPage?_congr
        (system.view.applyEvent_keeps arrival.1 arrival.2).1
    change ((system.act (.arrived arrival.1 arrival.2)).arrive rest).filings =
      _
    rw [inductionHypothesis, currentPages, currentPages,
      List.filterMap_cons]
    simp only [later]
    cases current : system.view.currentPage? arrival.2 with
    | none => simp [act, current]
    | some page => simp [act, current]

/-- With one page for each place, the page at a place does not depend on the
order. -/
theorem find?_key_perm {first second : List SearchedPage}
    (permuted : first.Perm second)
    (distinct : (first.map SearchedPage.key).Nodup)
    (place : MediaKind × Nat) :
    first.find? (fun page => page.key = place) =
      second.find? fun page => page.key = place := by
  cases found : first.find? fun page => page.key = place with
  | none =>
    symm
    rw [List.find?_eq_none] at found ⊢
    intro page member
    exact found page (permuted.mem_iff.mpr member)
  | some page =>
    have here := List.find?_some found
    have member := List.mem_of_find?_eq_some found
    cases other : second.find? fun page => page.key = place with
    | none =>
      exact absurd here
        (List.find?_eq_none.mp other page (permuted.mem_iff.mp member))
    | some page' =>
      have there := List.find?_some other
      have member' := List.mem_of_find?_eq_some other
      rw [decide_eq_true_eq] at here there
      rw [List.inj_on_of_nodup_map distinct member
        (permuted.mem_iff.mpr member') (here.trans there.symm)]

/-- Whatever order the events of one search arrive in, among any others, it
ends up with the same pages and shows the same results. -/
theorem searchResults_arrive_perm (reachable : system.Reachable)
    {arrivals rearranged : List Arrival} (permuted : arrivals.Perm rearranged)
    (distinct : ((currentPages system.view arrivals).map
      SearchedPage.key).Nodup) :
    (system.arrive arrivals).view.filed =
        (system.arrive rearranged).view.filed ∧
      (system.arrive arrivals).view.searchResults =
        (system.arrive rearranged).view.searchResults := by
  have shows := reachable.showsFilings
  have first := shows.arrive arrivals
  have second := shows.arrive rearranged
  have samePages : (system.arrive arrivals).view.filed =
      (system.arrive rearranged).view.filed := by
    funext kind
    apply SortedMap.ext_get?
    intro offset
    rw [first.filed, second.filed, filings_arrive, filings_arrive]
    have reversed : (currentPages system.view arrivals).reverse.Perm
        (currentPages system.view rearranged).reverse :=
      (List.reverse_perm _).trans
        ((permuted.filterMap _).trans (List.reverse_perm _).symm)
    have distinctReversed : ((currentPages system.view arrivals).reverse.map
        SearchedPage.key).Nodup := by
      rw [List.map_reverse]
      exact List.nodup_reverse.mpr distinct
    rw [lastPage, lastPage, List.find?_append, List.find?_append,
      find?_key_perm reversed distinctReversed]
  refine ⟨samePages, ?_⟩
  rw [first.shown, second.shown, samePages]

/-- A search for `luther` that was just started. -/
def lutherSearch : SearchSystem :=
  (initial.act (.typed "luther")).act
    (.started (.remote ⟨"spotify"⟩, some ⟨"spotify"⟩) fun _ => true)

theorem lutherSearch_reachable : lutherSearch.Reachable :=
  ⟨initial, [.typed "luther",
    .started (.remote ⟨"spotify"⟩, some ⟨"spotify"⟩) fun _ => true], rfl, rfl⟩

/-- A page of tracks for a version of that search. -/
def lutherPage (version offset : Nat) (uris : List String) : SearchEvent :=
  .page ⟨"luther", version, some ⟨"spotify"⟩⟩ .track offset
    (uris.map MediaItem.stub)

/-- Two pages that arrive the wrong way around, and one of a search given
up. -/
def lutherArrivals : List Arrival :=
  [(id, lutherPage 1 10 ["spotify:track:c", "spotify:track:a"]),
    (id, lutherPage 0 0 ["spotify:track:x"]),
    (id, lutherPage 1 0 ["spotify:track:a", "spotify:track:b"])]

theorem searchResults_exact_luther :
    ∃ pages : FiledPages,
      (∀ kind offset, (pages kind).get? offset =
        lastPage (lutherSearch.arrive lutherArrivals).filings kind offset) ∧
      (lutherSearch.arrive lutherArrivals).view.searchResults =
        rebuildSearchResults pages ∧
      ((lutherSearch.arrive lutherArrivals).view.searchResults.map
        MediaItem.uri).Nodup ∧
      ∀ uri, uri ∈ (lutherSearch.arrive lutherArrivals).view.searchResults.map
          MediaItem.uri ↔
        ∃ kind offset items,
          lastPage (lutherSearch.arrive lutherArrivals).filings kind offset =
            some items ∧ uri ∈ items.map MediaItem.uri :=
  searchResults_exact
    ⟨initial, .typed "luther" ::
      .started (.remote ⟨"spotify"⟩, some ⟨"spotify"⟩) (fun _ => true) ::
      lutherArrivals.map fun arrival => .arrived arrival.1 arrival.2,
      rfl, rfl⟩

theorem searchResults_arrive_perm_luther :
    (lutherSearch.arrive lutherArrivals).view.searchResults =
        (lutherSearch.arrive lutherArrivals.reverse).view.searchResults ∧
      (lutherSearch.arrive lutherArrivals).view.searchResults.map
        MediaItem.uri =
          ["spotify:track:a", "spotify:track:b", "spotify:track:c"] :=
  ⟨(searchResults_arrive_perm lutherSearch_reachable
    (List.reverse_perm lutherArrivals).symm (by decide +kernel)).2,
    by decide +kernel⟩

/-- The URI under the cursor of a visible list. -/
def cursorUri (visible : List MediaItem → List MediaItem)
    (view : SearchView) : Option String :=
  ((visible view.searchResults)[view.selected]?).map MediaItem.uri

theorem cursorUri_applyPage {visible : List MediaItem → List MediaItem}
    {view : SearchView} {uri : String} {kind : MediaKind} {offset : Nat}
    {items : List MediaItem} (steered : view.searchUserSteered = true)
    (cursor : cursorUri visible view = some uri)
    (stays : uri ∈ (visible
      (view.applyPage visible kind offset items).searchResults).map
        MediaItem.uri) :
    cursorUri visible (view.applyPage visible kind offset items) =
      some uri := by
  obtain ⟨item, here, rfl⟩ := Option.map_eq_some_iff.mp cursor
  set after := visible (view.applyPage visible kind offset items).searchResults
    with afterEq
  have selected : (view.applyPage visible kind offset items).selected =
      view.followCursor (visible view.searchResults) after := rfl
  obtain ⟨other, isOther, sameUri⟩ := List.mem_map.mp stays
  obtain ⟨position, found⟩ : ∃ position,
      after.findIdx? (fun other => other.uri = item.uri) = some position := by
    rw [← Option.isSome_iff_exists, List.findIdx?_isSome]
    exact List.any_eq_true.mpr ⟨other, isOther, by simpa using sameUri⟩
  obtain ⟨inRange, holds, -⟩ := List.findIdx?_eq_some_iff_getElem.mp found
  rw [cursorUri, ← afterEq, selected, SearchView.followCursor, if_pos steered,
    here, Option.bind_some, found, Option.getD_some,
    List.getElem?_eq_getElem inRange, Option.map_some]
  simpa using holds

theorem cursorUri_applyEvent {visible : List MediaItem → List MediaItem}
    {view : SearchView} {uri : String} {event : SearchEvent}
    (steered : view.searchUserSteered = true)
    (cursor : cursorUri visible view = some uri)
    (stays : uri ∈ (visible
      (view.applyEvent visible event).searchResults).map MediaItem.uri) :
    cursorUri visible (view.applyEvent visible event) = some uri := by
  cases event with
  | page tag kind offset items =>
    by_cases current : view.isCurrent tag = true
    · simp only [SearchView.applyEvent, current, if_true] at stays ⊢
      exact cursorUri_applyPage steered cursor stays
    · simpa [SearchView.applyEvent, current] using cursor
  | complete tag =>
    simp only [SearchView.applyEvent]
    split <;> exact cursor
  | failed tag kind message =>
    simp only [SearchView.applyEvent]
    split
    · cases kind <;> exact cursor
    · exact cursor

/-- Once the user steers, the cursor stays on its item through any arrivals
after each of which the item is still visible. -/
theorem cursor_follows_item {visible : List MediaItem → List MediaItem}
    {uri : String} {events : List SearchEvent}
    (steered : system.view.searchUserSteered = true)
    (cursor : cursorUri visible system.view = some uri)
    (stays : ∀ earlier, earlier <+: events →
      uri ∈ (visible (system.arrive
        (earlier.map fun event => (visible, event))).view.searchResults).map
          MediaItem.uri) :
    cursorUri visible (system.arrive
      (events.map fun event => (visible, event))).view = some uri := by
  induction events generalizing system with
  | nil => exact cursor
  | cons event rest inductionHypothesis =>
    have visibleNext := stays [event] (List.prefix_append [event] rest)
    apply @inductionHypothesis (system.act (.arrived visible event))
    · exact (system.view.applyEvent_keeps visible event).2.trans steered
    · exact cursorUri_applyEvent steered cursor visibleNext
    · intro earlier isPrefix
      exact stays (event :: earlier)
        ((List.prefix_cons_inj event).mpr isPrefix)

/-- The cursor is moved to the second track, and a page that comes before it
moves down what is shown. -/
theorem cursor_follows_item_luther :
    cursorUri id
      ((((lutherSearch.act (.arrived id (lutherPage 1 10
        ["spotify:track:c", "spotify:track:d"]))).act (.steered 1)).arrive
          ([lutherPage 1 0 ["spotify:track:a"]].map
            fun event => (id, event))).view) =
      some "spotify:track:d" := by
  apply cursor_follows_item (by decide +kernel) (by decide +kernel)
  intro earlier isPrefix
  rcases List.prefix_cons_iff.mp isPrefix with rfl | ⟨rest, rfl, isNil⟩
  · decide +kernel
  · cases List.prefix_nil.mp isNil
    decide +kernel

end SearchSystem

end Spotuify
