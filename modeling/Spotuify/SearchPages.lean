import Mathlib.Data.List.Perm.Basic
import Mathlib.Logic.Function.Basic
import Spotuify.GuardedMachine
import Spotuify.OperationLog
import Spotuify.Playback
import Spotuify.SeekInputs
import Spotuify.SortedMaps

/-!
# Streamed search results

A search is answered by pages, one event for each media kind and offset, which
arrive in any order among the pages of searches that were given up.  The client
files each page under its offset and rebuilds the list it shows from all of
them.  The sort, the filters and the screen that make the visible list from the
shown one are a parameter of each event, because a page changes none of them.
Toasts, the error line and the screen are left out.
-/

namespace Spotuify

/-- Versions are `u64` and wrap. -/
def searchVersions : Nat := 2 ^ 64

inductive SearchSource where
  | «local»
  | hybrid
  | remote (provider : ProviderId)
  deriving DecidableEq

/-- The pages of one media kind, by their offsets. -/
structure SearchPaneState where
  loading : Bool
  exhausted : Bool
  error : Option String
  nextOffset : Nat
  pages : SortedMap Nat (List MediaItem)

def SearchPaneState.default : SearchPaneState where
  loading := false
  exhausted := false
  error := none
  nextOffset := 0
  pages := .empty

/-- What a search event carries to be told from another search's. -/
structure SearchTag where
  query : String
  version : Nat
  provider : Option ProviderId
  deriving DecidableEq

inductive SearchEvent where
  | page (tag : SearchTag) (kind : MediaKind) (offset : Nat)
      (items : List MediaItem)
  | complete (tag : SearchTag)
  | failed (tag : SearchTag) (kind : Option MediaKind) (message : String)
  deriving DecidableEq

/-- The search part of the client. -/
structure SearchView where
  searchQuery : String
  searchVersion : Nat
  searchProvider : Option ProviderId
  searchSource : SearchSource
  searchPanes : MediaKind → Option SearchPaneState
  searchResults : List MediaItem
  searchUserSteered : Bool
  isSearching : Bool
  selected : Nat

/-- The kinds in the order they are rendered, which is also their priority for
the cursor. -/
def renderOrder : List MediaKind :=
  [.track, .artist, .album, .playlist, .show, .episode]

/-- The items whose URI was not seen before them. -/
def firstOfEachUri (seen : List String) : List MediaItem → List MediaItem
  | [] => []
  | item :: rest =>
    if item.uri ∈ seen then firstOfEachUri seen rest
    else item :: firstOfEachUri (item.uri :: seen) rest

/-- The pages filed under each kind. -/
abbrev FiledPages := MediaKind → SortedMap Nat (List MediaItem)

/-- `rebuild_search_results`. -/
def rebuildSearchResults (pages : FiledPages) : List MediaItem :=
  firstOfEachUri [] (renderOrder.flatMap fun kind =>
    (pages kind).values.flatten)

/-- `preferred_search_index`. -/
def preferredSearchIndex (items : List MediaItem) : Option Nat :=
  renderOrder.findSome? fun kind =>
    items.findIdx? fun item => item.kind = kind

namespace SearchView

def initial : SearchView where
  searchQuery := ""
  searchVersion := 0
  searchProvider := none
  searchSource := .local
  searchPanes := fun _ => none
  searchResults := []
  searchUserSteered := false
  isSearching := false
  selected := 0

variable (view : SearchView)

/-- No pane is an empty one. -/
def filed : FiledPages := fun kind =>
  (view.searchPanes kind).elim .empty SearchPaneState.pages

/-- An event of the search shown.  Without a provider of its own the search
accepts events of any provider. -/
def isCurrent (tag : SearchTag) : Bool :=
  tag.query == view.searchQuery && tag.version == view.searchVersion &&
    view.searchProvider.all fun expected => tag.provider == some expected

/-- `start_search`, for the route and the supported kinds of the provider
catalog.  A blank query shows nothing and starts nothing. -/
def startSearch (route : SearchSource × Option ProviderId)
    (supported : MediaKind → Bool) : SearchView :=
  if trim view.searchQuery.toList = [] then
    { view with
      searchResults := [],
      searchPanes := fun _ => none,
      isSearching := false,
      selected := 0 }
  else
    { view with
      searchVersion := (view.searchVersion + 1) % searchVersions,
      searchSource := route.1,
      searchProvider := route.2,
      searchResults := [],
      searchUserSteered := false,
      searchPanes := fun kind =>
        some
          { SearchPaneState.default with
            loading := supported kind,
            exhausted := !supported kind },
      isSearching := true,
      selected := 0 }

/-- The pane after a page: an empty page says that there are no more. -/
def filePage (pane : SearchPaneState) (offset : Nat)
    (items : List MediaItem) : SearchPaneState :=
  { loading := false,
    error := none,
    exhausted := pane.exhausted || items.isEmpty,
    nextOffset :=
      if items.isEmpty then pane.nextOffset
      else max pane.nextOffset (offset + items.length),
    pages := pane.pages.insert offset items }

/-- Where the cursor goes in the new visible list: to the preferred kind until
the user steers, and then with the item it was on. -/
def followCursor (before after : List MediaItem) : Nat :=
  if view.searchUserSteered then
    ((before[view.selected]?).bind fun item =>
      after.findIdx? fun other => other.uri = item.uri).getD view.selected
  else (preferredSearchIndex after).getD view.selected

def applyPage (visible : List MediaItem → List MediaItem) (kind : MediaKind)
    (offset : Nat) (items : List MediaItem) : SearchView :=
  let pane := filePage ((view.searchPanes kind).getD .default) offset items
  let paged : SearchView :=
    { view with
      searchPanes := Function.update view.searchPanes kind (some pane) }
  let results := rebuildSearchResults paged.filed
  { paged with
    searchResults := results,
    selected :=
      view.followCursor (visible view.searchResults) (visible results) }

def applyComplete : SearchView :=
  { view with
    isSearching := false,
    searchPanes := fun kind =>
      (view.searchPanes kind).map fun pane =>
        { pane with
          loading := false,
          exhausted := pane.exhausted || view.searchSource == .local } }

def applyFailed (message : String) : Option MediaKind → SearchView
  | some kind =>
    { view with
      searchPanes := Function.update view.searchPanes kind
        (some
          { (view.searchPanes kind).getD .default with
            loading := false,
            error := some message }) }
  | none =>
    { view with
      isSearching := false,
      searchPanes := fun kind =>
        (view.searchPanes kind).map fun pane =>
          { pane with loading := false, error := some message } }

/-- The arms of `apply_daemon_event` for the search events. -/
def applyEvent (visible : List MediaItem → List MediaItem) :
    SearchEvent → SearchView
  | .page tag kind offset items =>
    if view.isCurrent tag then view.applyPage visible kind offset items
    else view
  | .complete tag => if view.isCurrent tag then view.applyComplete else view
  | .failed tag kind message =>
    if view.isCurrent tag then view.applyFailed message kind else view

/-- The request for one more page of a pane, by `fetch_search_page`. -/
def fetchPage (kind : MediaKind) : SearchView :=
  match view.searchPanes kind with
  | none => view
  | some pane =>
    if pane.loading || pane.exhausted then view
    else
      { view with
        searchPanes := Function.update view.searchPanes kind
          (some { pane with loading := true }) }

end SearchView

/-- A page that was filed, and where. -/
structure SearchedPage where
  kind : MediaKind
  offset : Nat
  items : List MediaItem

def SearchedPage.key (page : SearchedPage) : MediaKind × Nat :=
  (page.kind, page.offset)

/-- What the user and the daemon do to a search, with the visible list of an
event's time. -/
inductive SearchAction where
  | typed (query : String)
  | started (route : SearchSource × Option ProviderId)
      (supported : MediaKind → Bool)
  | fetched (kind : MediaKind)
  | steered (index : Nat)
  | resorted
  | requestFailed
  | arrived (visible : List MediaItem → List MediaItem) (event : SearchEvent)

/-- The client and the pages filed since the last search started, newest
first. -/
structure SearchSystem where
  view : SearchView
  filings : List SearchedPage

/-- The page of a current event. -/
def SearchView.currentPage? (view : SearchView) :
    SearchEvent → Option SearchedPage
  | .page tag kind offset items =>
    if view.isCurrent tag then some ⟨kind, offset, items⟩ else none
  | .complete _ => none
  | .failed .. => none

namespace SearchSystem

def initial : SearchSystem where
  view := .initial
  filings := []

def act (system : SearchSystem) : SearchAction → SearchSystem
  | .typed query =>
    { system with view := { system.view with searchQuery := query } }
  | .started route supported =>
    { view := system.view.startSearch route supported, filings := [] }
  | .fetched kind => { system with view := system.view.fetchPage kind }
  | .steered index =>
    { system with
      view := { system.view with selected := index, searchUserSteered := true } }
  | .resorted =>
    { system with view := { system.view with selected := 0 } }
  | .requestFailed =>
    { system with view := { system.view with isSearching := false } }
  | .arrived visible event =>
    { view := system.view.applyEvent visible event,
      filings :=
        (system.view.currentPage? event).toList ++ system.filings }

def machine : GuardedMachine SearchSystem SearchAction where
  step := fun system action => some (system.act action)

def Reachable (system : SearchSystem) : Prop :=
  machine.Reachable (· = initial) system

end SearchSystem

/-- The page last filed under a kind and an offset. -/
def lastPage (filings : List SearchedPage) (kind : MediaKind)
    (offset : Nat) : Option (List MediaItem) :=
  (filings.find? fun page => page.key = (kind, offset)).map SearchedPage.items

theorem mem_uris_firstOfEachUri {seen : List String} {items : List MediaItem}
    {uri : String} :
    uri ∈ (firstOfEachUri seen items).map MediaItem.uri ↔
      uri ∈ items.map MediaItem.uri ∧ uri ∉ seen := by
  induction items generalizing seen with
  | nil => simp [firstOfEachUri]
  | cons item rest inductionHypothesis =>
    unfold firstOfEachUri
    by_cases known : item.uri ∈ seen
    · rw [if_pos known, inductionHypothesis, List.map_cons, List.mem_cons]
      constructor
      · rintro ⟨inRest, fresh⟩
        exact ⟨Or.inr inRest, fresh⟩
      · rintro ⟨rfl | inRest, fresh⟩
        · exact absurd known fresh
        · exact ⟨inRest, fresh⟩
    · rw [if_neg known, List.map_cons, List.mem_cons, inductionHypothesis,
        List.map_cons, List.mem_cons, List.mem_cons]
      by_cases same : uri = item.uri
      · simp [same, known]
      · simp [same]

theorem nodup_uris_firstOfEachUri (seen : List String)
    (items : List MediaItem) :
    ((firstOfEachUri seen items).map MediaItem.uri).Nodup := by
  induction items generalizing seen with
  | nil => exact List.nodup_nil
  | cons item rest inductionHypothesis =>
    unfold firstOfEachUri
    split
    · exact inductionHypothesis seen
    · rw [List.map_cons, List.nodup_cons]
      refine ⟨?_, inductionHypothesis (item.uri :: seen)⟩
      intro again
      have fresh := (mem_uris_firstOfEachUri.mp again).2
      exact fresh List.mem_cons_self

theorem mem_renderOrder (kind : MediaKind) : kind ∈ renderOrder := by
  cases kind <;> decide

/-- Everything filed is shown, once. -/
theorem mem_uris_rebuildSearchResults {pages : FiledPages} {uri : String} :
    uri ∈ (rebuildSearchResults pages).map MediaItem.uri ↔
      ∃ kind offset items, (pages kind).get? offset = some items ∧
        uri ∈ items.map MediaItem.uri := by
  rw [rebuildSearchResults, mem_uris_firstOfEachUri]
  constructor
  · rintro ⟨inPages, -⟩
    obtain ⟨item, isItem, rfl⟩ := List.mem_map.mp inPages
    obtain ⟨kind, -, inKind⟩ := List.mem_flatMap.mp isItem
    obtain ⟨items, isPage, inPage⟩ := List.mem_flatten.mp inKind
    obtain ⟨offset, filed⟩ := SortedMap.mem_values.mp isPage
    exact ⟨kind, offset, items, filed, List.mem_map_of_mem inPage⟩
  · rintro ⟨kind, offset, items, filed, inPage⟩
    obtain ⟨item, isItem, rfl⟩ := List.mem_map.mp inPage
    refine ⟨List.mem_map_of_mem ?_, List.not_mem_nil⟩
    refine List.mem_flatMap.mpr ⟨kind, mem_renderOrder kind, ?_⟩
    exact List.mem_flatten.mpr
      ⟨items, SortedMap.mem_values.mpr ⟨offset, filed⟩, isItem⟩

end Spotuify
