import Spotuify.LibraryCache
import Mathlib.Data.List.Induction

/-!
# Runs over the cached library

Replacing the library of one provider and kind leaves exactly the listing, in
its order, and nothing of other providers and kinds is lost.  Over all runs a
media item is marked saved and liked exactly while the saved library holds it.
-/

namespace Spotuify

/-- A URI is canonical and of a kind. -/
def UriHasKind (uri : String) (kind : MediaKind) : Prop :=
  ∃ resource, ResourceUri.parse uri = .ok resource ∧ resource.kind = kind

theorem UriHasKind.eq {uri : String} {first second : MediaKind}
    (isFirst : UriHasKind uri first) (isSecond : UriHasKind uri second) :
    first = second := by
  obtain ⟨resource, parses, rfl⟩ := isFirst
  obtain ⟨other, parsesOther, rfl⟩ := isSecond
  rw [parses] at parsesOther
  cases parsesOther
  rfl

namespace MediaTable

variable {provider : Option String} {searchOrigin : String}
  {fetchedAtMs : Int} {media written : MediaTable}

/-- An item that a transaction does not refuse. -/
def IsPersistable (item : MediaItem) : Prop :=
  UriHasKind item.uri item.kind

theorem checkItem_of_persistable {item : MediaItem}
    (persistable : IsPersistable item) :
    ∃ scheme, checkItem item = .ok scheme := by
  obtain ⟨resource, parses, sameKind⟩ := persistable
  exact ⟨resource.scheme.label, by simp [checkItem, parses, sameKind]⟩

theorem persistable_of_checkItem {item : MediaItem} {scheme : String}
    (checks : checkItem item = .ok scheme) : IsPersistable item := by
  unfold checkItem at checks
  cases parses : ResourceUri.parse item.uri with
  | error error => simp [parses] at checks
  | ok resource =>
    by_cases sameKind : resource.kind = item.kind
    · exact ⟨resource, parses, sameKind⟩
    · simp [parses, sameKind] at checks

/-- A transaction succeeds exactly on items that may all be stored. -/
theorem upsertInTransaction_isOk_iff {items : List MediaItem} :
    (∃ written, upsertInTransaction provider searchOrigin fetchedAtMs media
        items = .ok written) ↔
      ∀ item ∈ items, IsPersistable item := by
  induction items generalizing media with
  | nil => simp [upsertInTransaction]
  | cons item rest inductionHypothesis =>
    simp only [upsertInTransaction, List.forall_mem_cons]
    cases checks : checkItem item with
    | error failure =>
      constructor
      · rintro ⟨written, isOk⟩
        cases isOk
      · rintro ⟨persistable, _⟩
        obtain ⟨scheme, isOk⟩ := checkItem_of_persistable persistable
        rw [checks] at isOk
        cases isOk
    | ok scheme =>
      rw [inductionHypothesis]
      exact (and_iff_right (persistable_of_checkItem checks)).symm

/-- Transactions one after the other are one transaction. -/
theorem upsertInTransaction_append {first second : List MediaItem}
    (isFirst : upsertInTransaction provider searchOrigin fetchedAtMs media
      first = .ok written) :
    upsertInTransaction provider searchOrigin fetchedAtMs media
        (first ++ second) =
      upsertInTransaction provider searchOrigin fetchedAtMs written second := by
  induction first generalizing media with
  | nil =>
    cases isFirst
    rfl
  | cons item rest inductionHypothesis =>
    simp only [upsertInTransaction, List.cons_append] at isFirst ⊢
    cases checks : checkItem item with
    | error failure => simp [checks] at isFirst
    | ok scheme =>
      simp only [checks] at isFirst
      exact inductionHypothesis isFirst

/-- What every write keeps, a transaction keeps. -/
theorem upsertInTransaction_induction {motive : MediaTable → Prop}
    {items : List MediaItem}
    (isOk : upsertInTransaction provider searchOrigin fetchedAtMs media items =
      .ok written)
    (start : motive media)
    (step : ∀ table item rowProvider, item ∈ items → IsPersistable item →
      motive table →
        motive (table.write item.uri
          (.excluded rowProvider searchOrigin fetchedAtMs item))) :
    motive written := by
  induction items generalizing media with
  | nil =>
    cases isOk
    exact start
  | cons item rest inductionHypothesis =>
    simp only [upsertInTransaction] at isOk
    cases checks : checkItem item with
    | error failure => simp [checks] at isOk
    | ok scheme =>
      simp only [checks] at isOk
      apply inductionHypothesis isOk
      · exact step _ _ _ List.mem_cons_self (persistable_of_checkItem checks)
          start
      · intro table other rowProvider member
        exact step table other rowProvider (List.mem_cons_of_mem _ member)

/-- What is stored when chunks are written one after the other: the chunks
before the first one that holds an item that may not be stored. -/
theorem upsertChunks_stored {size bound : Nat} (positive : 0 < size)
    {items : List MediaItem} (enough : items.length ≤ bound) :
    let outcome := upsertChunks provider searchOrigin fetchedAtMs media
      (chunks size bound items)
    ∃ count, upsertInTransaction provider searchOrigin fetchedAtMs media
        (items.take count) = .ok outcome.1 ∧
      (outcome.2 = none → items.length ≤ count) ∧
      (outcome.2 ≠ none → size ∣ count ∧ ∃ position item,
        count ≤ position ∧ position < count + size ∧
          items[position]? = some item ∧ ¬ IsPersistable item) := by
  induction bound generalizing items media with
  | zero =>
    rw [Nat.le_zero, List.length_eq_zero_iff] at enough
    subst enough
    exact ⟨0, rfl, fun _ => Nat.le_refl 0, fun failed => absurd rfl failed⟩
  | succ bound inductionHypothesis =>
    cases items with
    | nil => exact ⟨0, rfl, fun _ => Nat.le_refl 0, fun failed => absurd rfl failed⟩
    | cons first others =>
      set items := first :: others with isItems
      have isChunks : chunks size (bound + 1) items =
          items.take size :: chunks size bound (items.drop size) := rfl
      rw [isChunks]
      simp only [upsertChunks]
      cases outcome : upsertInTransaction provider searchOrigin fetchedAtMs
          media (items.take size) with
      | error failure =>
        refine ⟨0, rfl, fun succeeded => (by cases succeeded), fun _ =>
          ⟨Nat.dvd_zero size, ?_⟩⟩
        have notAll : ¬ ∀ item ∈ items.take size, IsPersistable item := by
          have stores := @upsertInTransaction_isOk_iff provider searchOrigin
            fetchedAtMs media (items.take size)
          rw [← stores, outcome]
          rintro ⟨written, isOk⟩
          cases isOk
        push Not at notAll
        obtain ⟨item, member, refused⟩ := notAll
        obtain ⟨position, inRange, isItem⟩ := List.mem_iff_getElem.mp member
        rw [List.length_take] at inRange
        refine ⟨position, item, Nat.zero_le _, by omega, ?_, refused⟩
        rw [List.getElem_take] at isItem
        rw [← isItem]
        exact List.getElem?_eq_getElem _
      | ok written =>
        have fewer : (items.drop size).length ≤ bound := by
          rw [List.length_drop]
          rw [isItems, List.length_cons] at enough ⊢
          omega
        obtain ⟨count, stored, whole, failed⟩ :=
          @inductionHypothesis written (items.drop size) fewer
        refine ⟨size + count, ?_, ?_, ?_⟩
        · rw [List.take_add, upsertInTransaction_append outcome]
          exact stored
        · intro succeeded
          have all := whole succeeded
          rw [List.length_drop] at all
          omega
        · intro failure
          obtain ⟨divides, position, item, since, within, isItem, refused⟩ :=
            failed failure
          refine ⟨(Nat.dvd_add_right (Nat.dvd_refl size)).mpr divides,
            size + position, item, by omega, by omega, ?_, refused⟩
          rw [← List.getElem?_drop]
          exact isItem

/-- A write that fails has stored exactly the whole chunks before the one with
the item that it refused; one that succeeds has stored all items as a single
transaction would. -/
theorem upsertProviderMediaItems_stored (provider : Option String)
    (searchOrigin : String) (fetchedAtMs : Int) (media : MediaTable)
    (items : List MediaItem) :
    let outcome := upsertProviderMediaItems provider searchOrigin fetchedAtMs
      media items
    (outcome.2 = none ↔ ∀ item ∈ items, IsPersistable item) ∧
    ∃ count, upsertInTransaction provider searchOrigin fetchedAtMs media
        (items.take count) = .ok outcome.1 ∧
      (outcome.2 = none → items.length ≤ count) ∧
      (outcome.2 ≠ none → bulkChunkRows ∣ count ∧ ∃ position item,
        count ≤ position ∧ position < count + bulkChunkRows ∧
          items[position]? = some item ∧ ¬ IsPersistable item) := by
  intro outcome
  obtain ⟨count, stored, whole, failed⟩ := @upsertChunks_stored provider
    searchOrigin fetchedAtMs media bulkChunkRows items.length (by decide)
    items (Nat.le_refl _)
  refine ⟨?_, count, stored, whole, failed⟩
  constructor
  · intro succeeded
    have all := whole succeeded
    rw [List.take_of_length_le all] at stored
    exact upsertInTransaction_isOk_iff.mp ⟨_, stored⟩
  · intro persistable
    by_contra failure
    obtain ⟨_, position, item, _, _, isItem, refused⟩ := failed failure
    exact refused (persistable item (List.mem_of_getElem? isItem))

end MediaTable

namespace LibraryCache

open MediaTable (IsPersistable upsertInTransaction)

variable {cache : LibraryCache}

/-- The saved library holds a URI. -/
def HoldsSaved (cache : LibraryCache) (uri : String) : Prop :=
  ∃ row, cache.libraryItems.get? uri = some row ∧ row.saved = true

/-- The invariant of the cache. -/
structure Consistent (cache : LibraryCache) : Prop where
  mediaKind : ∀ uri row, cache.mediaItems.get? uri = some row →
    UriHasKind uri row.kind
  libraryKind : ∀ uri row, cache.libraryItems.get? uri = some row →
    UriHasKind uri row.kind
  hasMedia : ∀ uri row, cache.libraryItems.get? uri = some row →
    ∃ media, cache.mediaItems.get? uri = some media
  artistsFollowed : ∀ uri row, cache.libraryItems.get? uri = some row →
    row.kind = .artist → row.saved = false
  marks : ∀ uri media, cache.mediaItems.get? uri = some media →
    media.liked = media.saved ∧ (media.saved = true ↔ cache.HoldsSaved uri)

theorem Consistent.write (consistent : cache.Consistent) {item : MediaItem}
    (persistable : IsPersistable item) (provider searchOrigin : String)
    (fetchedAtMs : Int) :
    { cache with
      mediaItems := cache.mediaItems.write item.uri
        (.excluded provider searchOrigin fetchedAtMs item) :
          LibraryCache }.Consistent where
  mediaKind := by
    intro uri row
    rw [MediaTable.write, SortedMap.get?_insert]
    split
    · next same =>
      rintro ⟨⟩
      subst same
      cases cache.mediaItems.get? item.uri <;> exact persistable
    · exact consistent.mediaKind uri row
  libraryKind := consistent.libraryKind
  hasMedia := by
    intro uri row isLibrary
    rw [MediaTable.write, SortedMap.get?_insert]
    split
    · exact ⟨_, rfl⟩
    · exact consistent.hasMedia uri row isLibrary
  artistsFollowed := consistent.artistsFollowed
  marks := by
    intro uri media
    rw [MediaTable.write, SortedMap.get?_insert]
    split
    · next same =>
      rintro ⟨⟩
      subst same
      cases stored : cache.mediaItems.get? item.uri with
      | some old => exact consistent.marks item.uri old stored
      | none =>
        refine ⟨rfl, ?_⟩
        constructor
        · intro isSaved
          cases isSaved
        · rintro ⟨row, isLibrary, _⟩
          obtain ⟨media, isMedia⟩ := consistent.hasMedia item.uri row isLibrary
          rw [stored] at isMedia
          cases isMedia
    · exact consistent.marks uri media

theorem Consistent.upsertInTransaction (consistent : cache.Consistent)
    {provider : Option String} {searchOrigin : String} {fetchedAtMs : Int}
    {items : List MediaItem} {written : MediaTable}
    (isOk : upsertInTransaction provider searchOrigin fetchedAtMs
      cache.mediaItems items = .ok written) :
    { cache with mediaItems := written : LibraryCache }.Consistent :=
  MediaTable.upsertInTransaction_induction
    (motive := fun table =>
      { cache with mediaItems := table : LibraryCache }.Consistent)
    isOk consistent fun _ _ rowProvider _ persistable holds =>
      holds.write persistable rowProvider searchOrigin fetchedAtMs

/-- The media row of a URI with the marks that its library row gives it. -/
theorem Consistent.setLibrary (consistent : cache.Consistent)
    {next : LibraryCache} {target : String} {mark : Bool}
    (otherLibrary : ∀ uri, uri ≠ target →
      next.libraryItems.get? uri = cache.libraryItems.get? uri)
    (otherMedia : ∀ uri, uri ≠ target →
      next.mediaItems.get? uri = cache.mediaItems.get? uri)
    (kept : ∀ row, next.mediaItems.get? target = some row →
      ∃ old, cache.mediaItems.get? target = some old ∧ row.kind = old.kind ∧
        row.liked = mark ∧ row.saved = mark)
    (libraryRow : ∀ row, next.libraryItems.get? target = some row →
      UriHasKind target row.kind ∧
        (∃ held, next.mediaItems.get? target = some held) ∧
          (row.kind = .artist → row.saved = false))
    (marked : mark = true ↔
      ∃ row, next.libraryItems.get? target = some row ∧ row.saved = true) :
    next.Consistent where
  mediaKind := by
    intro uri row isMedia
    by_cases same : uri = target
    · subst same
      obtain ⟨old, wasMedia, sameKind, _⟩ := kept row isMedia
      rw [sameKind]
      exact consistent.mediaKind uri old wasMedia
    · rw [otherMedia uri same] at isMedia
      exact consistent.mediaKind uri row isMedia
  libraryKind := by
    intro uri row isLibrary
    by_cases same : uri = target
    · subst same
      exact (libraryRow row isLibrary).1
    · rw [otherLibrary uri same] at isLibrary
      exact consistent.libraryKind uri row isLibrary
  hasMedia := by
    intro uri row isLibrary
    by_cases same : uri = target
    · subst same
      exact (libraryRow row isLibrary).2.1
    · rw [otherLibrary uri same] at isLibrary
      rw [otherMedia uri same]
      exact consistent.hasMedia uri row isLibrary
  artistsFollowed := by
    intro uri row isLibrary
    by_cases same : uri = target
    · subst same
      exact (libraryRow row isLibrary).2.2
    · rw [otherLibrary uri same] at isLibrary
      exact consistent.artistsFollowed uri row isLibrary
  marks := by
    intro uri row isMedia
    by_cases same : uri = target
    · subst same
      obtain ⟨_, _, _, isLiked, isSaved⟩ := kept row isMedia
      rw [isLiked, isSaved]
      exact ⟨rfl, marked⟩
    · rw [otherMedia uri same] at isMedia
      have holds := consistent.marks uri row isMedia
      rw [HoldsSaved, ← otherLibrary uri same] at holds
      exact holds

theorem saveItem_libraryItems (kind : MediaKind) (now : Int)
    (entry : MediaItem × Nat) :
    (cache.saveItem kind now entry).libraryItems =
      cache.libraryItems.insert entry.1.uri
        { kind := kind
          saved := !decide (kind = .artist)
          followed := decide (kind = .artist)
          fetchedAtMs := now
          syncGeneration := now
          syncPosition := entry.2 } := by
  simp only [saveItem]
  split <;> rfl

theorem removeItem_libraryItems (kind : MediaKind) (uri : String) :
    (cache.removeItem kind uri).libraryItems = cache.libraryItems.erase uri := by
  simp only [removeItem]
  split <;> rfl

/-- Both change the marks of one media row at most. -/
theorem saveItem_mediaItems (kind : MediaKind) (now : Int)
    (entry : MediaItem × Nat) :
    (cache.saveItem kind now entry).mediaItems =
      if kind = .artist then cache.mediaItems
      else (cache.markSaved entry.1.uri true).mediaItems := by
  by_cases isArtist : kind = .artist <;> simp [saveItem, isArtist, markSaved]

theorem removeItem_mediaItems (kind : MediaKind) (uri : String) :
    (cache.removeItem kind uri).mediaItems =
      if kind = .artist then cache.mediaItems
      else (cache.markSaved uri false).mediaItems := by
  by_cases isArtist : kind = .artist <;> simp [removeItem, isArtist, markSaved]

theorem saveItem_get?_isSome (kind : MediaKind) (now : Int)
    (entry : MediaItem × Nat) (uri : String) :
    ((cache.saveItem kind now entry).mediaItems.get? uri).isSome =
      (cache.mediaItems.get? uri).isSome := by
  rw [saveItem_mediaItems]
  split
  · rfl
  · rw [markSaved, SortedMap.get?_adjust]
    split <;> simp

theorem Consistent.saveItem (consistent : cache.Consistent)
    {kind : MediaKind} {entry : MediaItem × Nat} (now : Int)
    (hasKind : UriHasKind entry.1.uri kind)
    (hasMedia : (cache.mediaItems.get? entry.1.uri).isSome) :
    (cache.saveItem kind now entry).Consistent := by
  obtain ⟨old, isOld⟩ := Option.isSome_iff_exists.mp hasMedia
  have oldKind : old.kind = kind :=
    (consistent.mediaKind _ _ isOld).eq hasKind
  have oldMarks := consistent.marks _ _ isOld
  have mediaOf : ∀ uri, (cache.saveItem kind now entry).mediaItems.get? uri =
      if kind = .artist then cache.mediaItems.get? uri
      else (cache.markSaved entry.1.uri true).mediaItems.get? uri := by
    intro uri
    rw [saveItem_mediaItems]
    split <;> rfl
  refine @Consistent.setLibrary _ consistent _ entry.1.uri
    (!decide (kind = .artist)) ?_ ?_ ?_ ?_ ?_
  · intro uri different
    rw [saveItem_libraryItems, SortedMap.get?_insert, if_neg different]
  · intro uri different
    rw [mediaOf, markSaved, SortedMap.get?_adjust, if_neg different, ite_self]
  · intro row isMedia
    rw [mediaOf, markSaved, SortedMap.get?_adjust, if_pos rfl, isOld] at isMedia
    by_cases isArtist : kind = .artist
    · rw [if_pos isArtist] at isMedia
      cases isMedia
      have notSaved : old.saved = false := by
        rw [Bool.eq_false_iff]
        intro isSaved
        obtain ⟨held, isHeld, heldSaved⟩ := oldMarks.2.mp isSaved
        have heldKind := (consistent.libraryKind _ _ isHeld).eq hasKind
        rw [consistent.artistsFollowed _ _ isHeld (heldKind.trans isArtist)]
          at heldSaved
        cases heldSaved
      exact ⟨old, isOld, rfl, by simp [oldMarks.1, notSaved, isArtist],
        by simp [notSaved, isArtist]⟩
    · rw [if_neg isArtist] at isMedia
      cases isMedia
      exact ⟨old, isOld, rfl, by simp [isArtist], by simp [isArtist]⟩
  · intro row isLibrary
    rw [saveItem_libraryItems, SortedMap.get?_insert, if_pos rfl] at isLibrary
    cases isLibrary
    refine ⟨hasKind, ?_, by simp⟩
    exact Option.isSome_iff_exists.mp
      ((saveItem_get?_isSome kind now entry _).trans hasMedia)
  · rw [saveItem_libraryItems, SortedMap.get?_insert, if_pos rfl]
    simp

theorem Consistent.removeItem (consistent : cache.Consistent)
    {kind : MediaKind} {uri : String} (hasKind : UriHasKind uri kind) :
    (cache.removeItem kind uri).Consistent := by
  have mediaOf : ∀ other, (cache.removeItem kind uri).mediaItems.get? other =
      if kind = .artist then cache.mediaItems.get? other
      else (cache.markSaved uri false).mediaItems.get? other := by
    intro other
    rw [removeItem_mediaItems]
    split <;> rfl
  refine @Consistent.setLibrary _ consistent _ uri false ?_ ?_ ?_ ?_ ?_
  · intro other different
    rw [removeItem_libraryItems, SortedMap.get?_erase, if_neg different]
  · intro other different
    rw [mediaOf, markSaved, SortedMap.get?_adjust, if_neg different, ite_self]
  · intro row isMedia
    rw [mediaOf, markSaved, SortedMap.get?_adjust, if_pos rfl] at isMedia
    by_cases isArtist : kind = .artist
    · rw [if_pos isArtist] at isMedia
      have oldMarks := consistent.marks _ _ isMedia
      have notSaved : row.saved = false := by
        rw [Bool.eq_false_iff]
        intro isSaved
        obtain ⟨held, isHeld, heldSaved⟩ := oldMarks.2.mp isSaved
        have heldKind := (consistent.libraryKind _ _ isHeld).eq hasKind
        rw [consistent.artistsFollowed _ _ isHeld (heldKind.trans isArtist)]
          at heldSaved
        cases heldSaved
      exact ⟨row, isMedia, rfl, oldMarks.1.trans notSaved, notSaved⟩
    · rw [if_neg isArtist, Option.map_eq_some_iff] at isMedia
      obtain ⟨old, isOld, rfl⟩ := isMedia
      exact ⟨old, isOld, rfl, rfl, rfl⟩
  · intro row isLibrary
    rw [removeItem_libraryItems, SortedMap.get?_erase, if_pos rfl] at isLibrary
    cases isLibrary
  · rw [removeItem_libraryItems, SortedMap.get?_erase, if_pos rfl]
    simp

/-- The library rows of a provider and kind. -/
def Owns (cache : LibraryCache) (provider : String) (kind : MediaKind)
    (uri : String) : Prop :=
  ∃ row media, cache.libraryItems.get? uri = some row ∧ row.kind = kind ∧
    cache.mediaItems.get? uri = some media ∧ media.provider = provider

theorem mem_cachedUris {media : MediaTable}
    {library : SortedMap String LibraryRow} {provider : String}
    {kind : MediaKind} {uri : String} :
    uri ∈ cachedUris media library provider kind ↔
      (LibraryCache.mk media library).Owns provider kind uri := by
  simp only [cachedUris, List.mem_map, List.mem_filter, Bool.and_eq_true,
    decide_eq_true_eq, Owns]
  constructor
  · rintro ⟨entry, ⟨member, ofProvider, sameKind⟩, rfl⟩
    obtain ⟨row, isMedia, sameProvider⟩ := (Option.any_eq_true _ _).mp ofProvider
    exact ⟨entry.2, row, SortedMap.get?_eq_some.mpr member, sameKind, isMedia,
      of_decide_eq_true sameProvider⟩
  · rintro ⟨row, held, isLibrary, sameKind, isMedia, sameProvider⟩
    refine ⟨(uri, row), ⟨SortedMap.get?_eq_some.mp isLibrary, ?_, sameKind⟩, rfl⟩
    exact (Option.any_eq_true _ _).mpr ⟨held, isMedia, by simpa using sameProvider⟩

/-- The last position of a URI in a listing. -/
def IsLastAt (items : List MediaItem) (uri : String) (position : Nat) : Prop :=
  (items[position]?).map MediaItem.uri = some uri ∧
    ∀ later, position < later → (items[later]?).map MediaItem.uri ≠ some uri

/-- The row that a listing gives the item at a position. -/
def listedRow (kind : MediaKind) (now : Int) (position : Nat) :
    LibraryRow where
  kind := kind
  saved := !decide (kind = .artist)
  followed := decide (kind = .artist)
  fetchedAtMs := now
  syncGeneration := now
  syncPosition := position

def saveAll (cache : LibraryCache) (kind : MediaKind) (now : Int)
    (items : List MediaItem) : LibraryCache :=
  items.zipIdx.foldl (fun cache entry => cache.saveItem kind now entry) cache

def removeAll (cache : LibraryCache) (kind : MediaKind)
    (uris : List String) : LibraryCache :=
  uris.foldl (fun cache uri => cache.removeItem kind uri) cache

theorem saveAll_append_singleton (kind : MediaKind) (now : Int)
    (items : List MediaItem) (last : MediaItem) :
    cache.saveAll kind now (items ++ [last]) =
      (cache.saveAll kind now items).saveItem kind now (last, items.length) := by
  simp [saveAll, List.zipIdx_append]

/-- The rows after a listing is written. -/
theorem saveAll_libraryItems (kind : MediaKind) (now : Int)
    (items : List MediaItem) (uri : String) :
    (uri ∉ items.map MediaItem.uri →
      (cache.saveAll kind now items).libraryItems.get? uri =
        cache.libraryItems.get? uri) ∧
    (uri ∈ items.map MediaItem.uri → ∃ position,
      IsLastAt items uri position ∧
        (cache.saveAll kind now items).libraryItems.get? uri =
          some (listedRow kind now position)) := by
  induction items using List.reverseRecOn with
  | nil => simp [saveAll]
  | append_singleton earlier last inductionHypothesis =>
    rw [saveAll_append_singleton, saveItem_libraryItems, SortedMap.get?_insert,
      List.map_append, List.map_singleton]
    by_cases isLast : uri = last.uri
    · rw [if_pos isLast]
      refine ⟨fun absent => absurd (by simp [isLast]) absent, fun _ =>
        ⟨earlier.length, ⟨by simp [isLast], ?_⟩, rfl⟩⟩
      intro later after
      rw [List.getElem?_eq_none]
      · simp
      · rw [List.length_append, List.length_singleton]
        omega
    · rw [if_neg isLast]
      refine ⟨fun absent => inductionHypothesis.1 fun member =>
        absent (List.mem_append_left _ member), fun member => ?_⟩
      have inEarlier : uri ∈ earlier.map MediaItem.uri := by
        rcases List.mem_append.mp member with inEarlier | inLast
        · exact inEarlier
        · exact absurd (List.mem_singleton.mp inLast) isLast
      obtain ⟨position, ⟨isUri, noLater⟩, isRow⟩ :=
        inductionHypothesis.2 inEarlier
      refine ⟨position, ⟨?_, ?_⟩, isRow⟩
      · have inRange : position < earlier.length := by
          by_contra outside
          rw [List.getElem?_eq_none (Nat.le_of_not_lt outside)] at isUri
          cases isUri
        rw [List.getElem?_append_left inRange]
        exact isUri
      · intro later after
        rcases Nat.lt_trichotomy later earlier.length with before | same | beyond
        · rw [List.getElem?_append_left before]
          exact noLater later after
        · rw [same, List.getElem?_append_right (Nat.le_refl _)]
          simpa using Ne.symm isLast
        · rw [List.getElem?_eq_none]
          · simp
          · rw [List.length_append, List.length_singleton]
            omega

theorem removeAll_libraryItems (kind : MediaKind) (uris : List String)
    (uri : String) :
    (cache.removeAll kind uris).libraryItems.get? uri =
      if uri ∈ uris then none else cache.libraryItems.get? uri := by
  induction uris generalizing cache with
  | nil => simp [removeAll]
  | cons first rest inductionHypothesis =>
    have isFold : cache.removeAll kind (first :: rest) =
        (cache.removeItem kind first).removeAll kind rest := rfl
    rw [isFold, inductionHypothesis, removeItem_libraryItems,
      SortedMap.get?_erase]
    by_cases isFirst : uri = first
    · simp [isFirst]
    · simp [isFirst]

/-- A listing of one provider and kind that was taken over. -/
theorem replaceProviderLibraryKind_eq_ok {provider : String}
    {kind : MediaKind} {items : List MediaItem} {now : Int}
    {next : LibraryCache} {result : AuthoritativeSyncResult} :
    cache.replaceProviderLibraryKind provider kind items now =
        .ok (next, result) ↔
      (∀ item ∈ items, item.kind = kind) ∧
      ∃ media, upsertInTransaction (some provider) provider now
          cache.mediaItems items = .ok media ∧
        result =
          { written := items.length % 2 ^ 32
            removedUris :=
              (cachedUris media cache.libraryItems provider kind).filter
                (· ∉ items.map MediaItem.uri) } ∧
        next = ({ cache with mediaItems := media }.saveAll kind now
          items).removeAll kind result.removedUris := by
  unfold replaceProviderLibraryKind
  by_cases oneKind : ∀ item ∈ items, item.kind = kind
  · have notMixed : ¬ (items.any fun item => item.kind ≠ kind) = true := by
      simpa using oneKind
    rw [if_neg notMixed]
    cases upserted : upsertInTransaction (some provider) provider now
        cache.mediaItems items with
    | error failure => simp
    | ok media =>
      simp only [Except.ok.injEq, Prod.mk.injEq]
      constructor
      · rintro ⟨rfl, rfl⟩
        exact ⟨oneKind, media, rfl, rfl, rfl⟩
      · rintro ⟨_, media', rfl, rfl, rfl⟩
        exact ⟨rfl, rfl⟩
  · have mixed : (items.any fun item => item.kind ≠ kind) = true := by
      simpa using oneKind
    rw [if_pos mixed]
    constructor
    · intro isOk
      cases isOk
    · rintro ⟨all, _⟩
      exact absurd all oneKind

/-- A transaction leaves media rows that it does not name. -/
theorem upsertInTransaction_other {provider : Option String}
    {searchOrigin : String} {now : Int} {media written : MediaTable}
    {items : List MediaItem} {uri : String}
    (isOk : upsertInTransaction provider searchOrigin now media items =
      .ok written)
    (absent : uri ∉ items.map MediaItem.uri) :
    written.get? uri = media.get? uri := by
  refine MediaTable.upsertInTransaction_induction
    (motive := fun table => table.get? uri = media.get? uri) isOk rfl ?_
  intro table item rowProvider member _ same
  rw [MediaTable.write, SortedMap.get?_insert, if_neg, same]
  rintro rfl
  exact absent (List.mem_map_of_mem member)

/-- Taking over a listing leaves exactly its rows for the provider and kind,
each at its last position, and says which rows it removed.  No other row is
touched. -/
theorem replaceProviderLibraryKind_exact {cache next : LibraryCache}
    {provider : String} {kind : MediaKind} {items : List MediaItem}
    {now : Int} {result : AuthoritativeSyncResult}
    (replaced : cache.replaceProviderLibraryKind provider kind items now =
      .ok (next, result)) :
    (∀ uri, uri ∈ items.map MediaItem.uri → ∃ position,
      IsLastAt items uri position ∧
        next.libraryItems.get? uri = some (listedRow kind now position)) ∧
    (∀ uri, uri ∉ items.map MediaItem.uri →
      (cache.Owns provider kind uri → next.libraryItems.get? uri = none) ∧
      (¬ cache.Owns provider kind uri →
        next.libraryItems.get? uri = cache.libraryItems.get? uri)) ∧
    result.removedUris.Pairwise (· < ·) ∧
    ∀ uri, uri ∈ result.removedUris ↔
      uri ∉ items.map MediaItem.uri ∧ cache.Owns provider kind uri := by
  obtain ⟨_, media, upserted, rfl, rfl⟩ :=
    replaceProviderLibraryKind_eq_ok.mp replaced
  have sameOwner : ∀ uri, uri ∉ items.map MediaItem.uri →
      (uri ∈ cachedUris media cache.libraryItems provider kind ↔
        cache.Owns provider kind uri) := by
    intro uri absent
    rw [mem_cachedUris, Owns, Owns, upsertInTransaction_other upserted absent]
  have isRemoved : ∀ uri,
      uri ∈ (cachedUris media cache.libraryItems provider kind).filter
          (· ∉ items.map MediaItem.uri) ↔
        uri ∉ items.map MediaItem.uri ∧ cache.Owns provider kind uri := by
    intro uri
    rw [List.mem_filter, decide_eq_true_eq]
    constructor
    · rintro ⟨isCached, absent⟩
      exact ⟨absent, (sameOwner uri absent).mp isCached⟩
    · rintro ⟨absent, owned⟩
      exact ⟨(sameOwner uri absent).mpr owned, absent⟩
  refine ⟨fun uri member => ?_, fun uri absent => ⟨fun owned => ?_, fun other =>
    ?_⟩, ?_, isRemoved⟩
  · obtain ⟨position, isLast, isRow⟩ :=
      (@saveAll_libraryItems { cache with mediaItems := media } kind now items
        uri).2 member
    refine ⟨position, isLast, ?_⟩
    rw [removeAll_libraryItems, if_neg fun removed =>
      ((isRemoved uri).mp removed).1 member]
    exact isRow
  · rw [removeAll_libraryItems, if_pos ((isRemoved uri).mpr ⟨absent, owned⟩)]
  · rw [removeAll_libraryItems, if_neg fun removed =>
      other ((isRemoved uri).mp removed).2]
    exact (@saveAll_libraryItems { cache with mediaItems := media } kind now
      items uri).1 absent
  · apply List.Pairwise.sublist List.filter_sublist
    apply List.Pairwise.sublist (List.filter_sublist.map Prod.fst)
    exact List.pairwise_map.mpr cache.libraryItems.ascending

/-- Two tracks of one provider and one of another. -/
def twoProviders : LibraryCache :=
  ((empty.act (.replace "spotify" .track
      [.stub "spotify:track:a", .stub "spotify:track:b"] 1)).act
    (.replace "local" .track [.stub "local:track:c"] 2)).act
      (.follow "spotify:track:b" false 3)

/-- One track is gone, one is listed twice and one is new. -/
def laterTracks : List MediaItem :=
  [.stub "spotify:track:b", .stub "spotify:track:d", .stub "spotify:track:b"]

theorem replaceProviderLibraryKind_exact_later :
    ∃ next result, twoProviders.replaceProviderLibraryKind "spotify" .track
        laterTracks 4 = .ok (next, result) ∧
      result.removedUris = ["spotify:track:a"] ∧
      next.libraryItems.get? "spotify:track:b" =
        some (listedRow .track 4 2) ∧
      (∃ position, IsLastAt laterTracks "spotify:track:d" position ∧
        next.libraryItems.get? "spotify:track:d" =
          some (listedRow .track 4 position)) ∧
      next.libraryItems.get? "spotify:track:a" = none ∧
      next.libraryItems.get? "local:track:c" =
        twoProviders.libraryItems.get? "local:track:c" := by
  refine ⟨_, _, rfl, by decide +kernel, by decide +kernel, ?_⟩
  have exact := @replaceProviderLibraryKind_exact twoProviders _ "spotify"
    .track laterTracks 4 _ rfl
  refine ⟨exact.1 _ (by decide), (exact.2.1 _ (by decide)).1 ?_,
    (exact.2.1 _ (by decide)).2 ?_⟩
  · exact mem_cachedUris.mp (by decide +kernel)
  · intro owned
    exact absurd (mem_cachedUris.mpr owned) (by decide +kernel)

theorem Consistent.saveAll (consistent : cache.Consistent) {kind : MediaKind}
    (now : Int) {items : List MediaItem}
    (storable : ∀ item ∈ items, UriHasKind item.uri kind ∧
      (cache.mediaItems.get? item.uri).isSome) :
    (cache.saveAll kind now items).Consistent ∧
      ∀ uri, ((cache.saveAll kind now items).mediaItems.get? uri).isSome =
        (cache.mediaItems.get? uri).isSome := by
  induction items using List.reverseRecOn with
  | nil => exact ⟨consistent, fun _ => rfl⟩
  | append_singleton earlier last inductionHypothesis =>
    obtain ⟨saved, sameKeys⟩ := inductionHypothesis fun item member =>
      storable item (List.mem_append_left _ member)
    obtain ⟨hasKind, hasMedia⟩ := storable last
      (List.mem_append_right _ (List.mem_singleton.mpr rfl))
    rw [saveAll_append_singleton]
    refine ⟨saved.saveItem now hasKind ?_, fun uri => ?_⟩
    · rw [sameKeys]
      exact hasMedia
    · rw [saveItem_get?_isSome, sameKeys]

theorem Consistent.removeAll (consistent : cache.Consistent)
    {kind : MediaKind} {uris : List String}
    (hasKind : ∀ uri ∈ uris, UriHasKind uri kind) :
    (cache.removeAll kind uris).Consistent := by
  induction uris generalizing cache with
  | nil => exact consistent
  | cons first rest inductionHypothesis =>
    exact inductionHypothesis
      (consistent.removeItem (hasKind first List.mem_cons_self))
      fun uri member => hasKind uri (List.mem_cons_of_mem _ member)

/-- The items of a transaction are stored and of the kind of their URI. -/
theorem upsertInTransaction_stores {provider : Option String}
    {searchOrigin : String} {now : Int} {media written : MediaTable}
    {items : List MediaItem}
    (isOk : upsertInTransaction provider searchOrigin now media items =
      .ok written) :
    ∀ item ∈ items, (written.get? item.uri).isSome := by
  induction items generalizing media with
  | nil => simp
  | cons first rest inductionHypothesis =>
    simp only [MediaTable.upsertInTransaction] at isOk
    cases checks : MediaTable.checkItem first with
    | error failure => simp [checks] at isOk
    | ok scheme =>
      simp only [checks] at isOk
      intro item member
      rcases List.mem_cons.mp member with rfl | inRest
      · refine MediaTable.upsertInTransaction_induction
          (motive := fun table => (table.get? item.uri).isSome) isOk ?_ ?_
        · simp [MediaTable.write]
        · intro table other rowProvider _ _ stored
          rw [MediaTable.write, SortedMap.get?_insert]
          split
          · rfl
          · exact stored
      · exact inductionHypothesis isOk item inRest

theorem Consistent.replaceProviderLibraryKind (consistent : cache.Consistent)
    {provider : String} {kind : MediaKind} {items : List MediaItem}
    {now : Int} {next : LibraryCache} {result : AuthoritativeSyncResult}
    (replaced : cache.replaceProviderLibraryKind provider kind items now =
      .ok (next, result)) : next.Consistent := by
  obtain ⟨oneKind, media, upserted, rfl, rfl⟩ :=
    replaceProviderLibraryKind_eq_ok.mp replaced
  have written := consistent.upsertInTransaction upserted
  have persistable := MediaTable.upsertInTransaction_isOk_iff.mp ⟨_, upserted⟩
  have saved := @Consistent.saveAll _ written kind now items
    fun item member => ⟨oneKind item member ▸ persistable item member,
      upsertInTransaction_stores upserted item member⟩
  apply saved.1.removeAll
  intro uri member
  obtain ⟨row, _, isLibrary, rfl, _⟩ :=
    mem_cachedUris.mp (List.mem_of_mem_filter member)
  exact written.libraryKind uri row isLibrary

theorem Consistent.upsertChunks (consistent : cache.Consistent)
    {provider : Option String} {searchOrigin : String} {now : Int}
    {chunks : List (List MediaItem)} :
    { cache with
      mediaItems := (MediaTable.upsertChunks provider searchOrigin now
        cache.mediaItems chunks).1 : LibraryCache }.Consistent := by
  induction chunks generalizing cache with
  | nil => exact consistent
  | cons chunk rest inductionHypothesis =>
    simp only [MediaTable.upsertChunks]
    split
    · exact consistent
    · next written upserted =>
      exact inductionHypothesis (consistent.upsertInTransaction upserted)

theorem Consistent.act (consistent : cache.Consistent) (action : Action) :
    (cache.act action).Consistent := by
  cases action with
  | upsert provider searchOrigin items now => exact consistent.upsertChunks
  | replace provider kind items now =>
    simp only [LibraryCache.act]
    cases replaced : cache.replaceProviderLibraryKind provider kind items now with
    | error failure => exact consistent
    | ok outcome => exact consistent.replaceProviderLibraryKind replaced
  | follow uri followed now =>
    have rowOf : ∀ other row,
        (cache.setArtistFollowed uri followed now).libraryItems.get? other =
          some row →
        ∃ old, cache.libraryItems.get? other = some old ∧
          row.kind = old.kind ∧ row.saved = old.saved := by
      intro other row isLibrary
      rw [setArtistFollowed, SortedMap.get?_adjust] at isLibrary
      split at isLibrary
      · obtain ⟨old, isOld, rfl⟩ := Option.map_eq_some_iff.mp isLibrary
        exact ⟨old, isOld, rfl, rfl⟩
      · exact ⟨row, isLibrary, rfl, rfl⟩
    have holdsSaved : ∀ other,
        (cache.setArtistFollowed uri followed now).HoldsSaved other ↔
          cache.HoldsSaved other := by
      intro other
      constructor
      · rintro ⟨row, isLibrary, isSaved⟩
        obtain ⟨old, isOld, _, sameSaved⟩ := rowOf other row isLibrary
        exact ⟨old, isOld, sameSaved ▸ isSaved⟩
      · rintro ⟨old, isOld, isSaved⟩
        rw [HoldsSaved, setArtistFollowed, SortedMap.get?_adjust]
        split
        · exact ⟨_, Option.map_eq_some_iff.mpr ⟨old, isOld, rfl⟩, isSaved⟩
        · exact ⟨old, isOld, isSaved⟩
    exact
      { mediaKind := consistent.mediaKind
        libraryKind := by
          intro other row isLibrary
          obtain ⟨old, isOld, sameKind, _⟩ := rowOf other row isLibrary
          rw [sameKind]
          exact consistent.libraryKind other old isOld
        hasMedia := by
          intro other row isLibrary
          obtain ⟨old, isOld, _⟩ := rowOf other row isLibrary
          exact consistent.hasMedia other old isOld
        artistsFollowed := by
          intro other row isLibrary isArtist
          obtain ⟨old, isOld, sameKind, sameSaved⟩ := rowOf other row isLibrary
          rw [sameSaved]
          exact consistent.artistsFollowed other old isOld
            (sameKind.symm.trans isArtist)
        marks := by
          intro other media isMedia
          have marks := consistent.marks other media isMedia
          exact ⟨marks.1, marks.2.trans (holdsSaved other).symm⟩ }
  | deleteMedia uri =>
    apply @Consistent.setLibrary _ consistent (cache.deleteMediaItem uri) uri
      false
    · intro other different
      rw [deleteMediaItem, SortedMap.get?_erase, if_neg different]
    · intro other different
      rw [deleteMediaItem, SortedMap.get?_erase, if_neg different]
    · intro row isMedia
      rw [deleteMediaItem, SortedMap.get?_erase, if_pos rfl] at isMedia
      cases isMedia
    · intro row isLibrary
      rw [deleteMediaItem, SortedMap.get?_erase, if_pos rfl] at isLibrary
      cases isLibrary
    · rw [deleteMediaItem, SortedMap.get?_erase, if_pos rfl]
      simp

def run (actions : List Action) (cache : LibraryCache) : LibraryCache :=
  actions.foldl LibraryCache.act cache

theorem Consistent.run (consistent : cache.Consistent)
    (actions : List Action) : (cache.run actions).Consistent := by
  induction actions generalizing cache with
  | nil => exact consistent
  | cons action rest inductionHypothesis =>
    exact inductionHypothesis (consistent.act action)

theorem empty_consistent : empty.Consistent where
  mediaKind := fun _ _ isMedia => by cases isMedia
  libraryKind := fun _ _ isLibrary => by cases isLibrary
  hasMedia := fun _ _ isLibrary => by cases isLibrary
  artistsFollowed := fun _ _ isLibrary => by cases isLibrary
  marks := fun _ _ isMedia => by cases isMedia

/-- After any run a media item is marked saved and liked exactly while the
library holds it as saved, every library row has a media row of its kind, which
is the kind of its URI, and no artist is saved. -/
theorem saved_marks_follow_library (actions : List Action) :
    let cache := empty.run actions
    (∀ uri media, cache.mediaItems.get? uri = some media →
      media.liked = media.saved ∧
        (media.saved = true ↔ cache.HoldsSaved uri)) ∧
    ∀ uri row, cache.libraryItems.get? uri = some row →
      UriHasKind uri row.kind ∧
        (∃ media, cache.mediaItems.get? uri = some media ∧
          media.kind = row.kind) ∧
        (row.kind = .artist → row.saved = false) := by
  intro cache
  have consistent : cache.Consistent := empty_consistent.run actions
  refine ⟨consistent.marks, fun uri row isLibrary => ?_⟩
  have hasKind := consistent.libraryKind uri row isLibrary
  obtain ⟨media, isMedia⟩ := consistent.hasMedia uri row isLibrary
  exact ⟨hasKind,
    ⟨media, isMedia, (consistent.mediaKind uri media isMedia).eq hasKind⟩,
    consistent.artistsFollowed uri row isLibrary⟩

end LibraryCache
end Spotuify
