import Spotuify.PlaylistAddUndo
import Spotuify.Playback
import Mathlib.Algebra.Ring.Nat
import Mathlib.Data.List.Count
import Mathlib.Data.List.InsertIdx

/-!
# Undoing a playlist removal

A removal names its items by URI, which selects the first occurrences that are
left, or by position.  Either way the daemon turns the request into positioned
references, removes them from the highest position down, and stores the
removed items by ascending position as the plan that puts them back.
-/

namespace Spotuify

/-- The two removal requests. -/
inductive PlaylistRemoveRequest where
  | items (uris : List String)
  | occurrences (items : List PlaylistItemOccurrenceRef)

/-- The entries of a playlist as `collect_playlist_items` returns them.  The
provider keeps only media it knows in its playlists, so none is left out. -/
structure PlaylistEntries (provider : VersionedProvider)
    (playlist : ProviderPlaylist) where
  media : ResourceUri → MediaItem
  named : ∀ uri, (media uri).uri = uri.asUri
  known : ∀ uri ∈ playlist.items, provider.knowsMedia uri = true

def PlaylistEntries.items {provider : VersionedProvider}
    {playlist : ProviderPlaylist}
    (entries : PlaylistEntries provider playlist) : List MediaItem :=
  playlist.items.map entries.media

inductive PlaylistRemoveFailure where
  | rejected (failure : PlaylistUndoFailure)
  | versionTokenOmitted (playlist : ResourceUri)

/-- What a removal will ask the provider for and what its undo puts back. -/
structure PlaylistRemovePlan where
  mutationItems : List PlaylistItemRef
  removedItems : List (String × Nat)

/-- The positions a URI occurs at. -/
def availablePositions (current : List MediaItem) (uri : String) :
    List Nat :=
  (current.zipIdx.filter fun entry => entry.1.uri = uri).map Prod.snd

/-- Take the next free position of every requested URI. -/
def takePositions (available : String → List Nat) (index : Nat) :
    List ResourceUri →
      Except ProviderError (List PlaylistItemRef × List (String × Nat))
  | [] => .ok ([], [])
  | uri :: rest =>
    match available uri.asUri with
    | [] =>
      .error (.invalidInput "uris"
        ("playlist does not contain requested occurrence " ++
          toString (index + 1) ++ " of `" ++ uri.asUri ++ "`"))
    | position :: others => do
      let (items, removed) ← takePositions
        (Function.update available uri.asUri others) (index + 1) rest
      return ({ uri := uri, positions := [position] } :: items,
        (uri.asUri, position) :: removed)

def selectPlaylistRemoveItems (requested : List ResourceUri)
    (current : List MediaItem) :
    Except ProviderError (List PlaylistItemRef × List (String × Nat)) :=
  if current.length > 2 ^ 32 then
    .error (.invalidInput "playlist"
      "playlist position exceeds the supported range")
  else takePositions (availablePositions current) 0 requested

def playlistPositionLabel (position : Nat) : String :=
  "playlist row " ++ toString (position + 1) ++ " (zero-based position " ++
    toString position ++ ")"

/-- No position is requested twice. -/
def requireDistinct (seen : List Nat) :
    List Nat → Except ProviderError Unit
  | [] => .ok ()
  | position :: rest =>
    if position ∈ seen then
      .error (.invalidInput "items.positions"
        (playlistPositionLabel position ++ " is requested more than once"))
    else requireDistinct (position :: seen) rest

/-- A requested occurrence is there and can be restored. -/
def requireOccurrence (current : List MediaItem) (uri : ResourceUri)
    (position : Nat) : Except ProviderError Unit :=
  match current[position]? with
  | none =>
    .error (.invalidInput "items.positions"
      (playlistPositionLabel position ++ " is out of range for " ++
        toString current.length ++ " items"))
  | some item =>
    if item.uri ≠ uri.asUri then
      .error (.invalidInput "items.uri"
        (playlistPositionLabel position ++ " contains `" ++ item.uri ++
          "`, not `" ++ uri.asUri ++ "`"))
    else if item.kind ≠ .track ∧ item.kind ≠ .episode then
      .error (.invalidInput "items.uri"
        (playlistPositionLabel position ++ " has unsupported item kind " ++
          item.kind.label))
    else if item.source = some .local ∨ item.isPlayable = some false then
      .error (.invalidInput "items.uri"
        (playlistPositionLabel position ++
          " is a local or unavailable placeholder and cannot be restored " ++
            "safely"))
    else .ok ()

/-- The positions of references with the URI each belongs to. -/
def positionedReferences (items : List PlaylistItemRef) :
    List (Nat × ResourceUri) :=
  items.flatMap fun item =>
    item.positions.map fun position => (position, item.uri)

def requireOccurrences (current : List MediaItem) :
    List (Nat × ResourceUri) → Except ProviderError Unit
  | [] => .ok ()
  | (position, uri) :: rest => do
    requireOccurrence current uri position
    requireOccurrences current rest

/-- `removed_items.sort_by_key(|(_, position)| *position)`. -/
def sortByPosition (removed : List (String × Nat)) : List (String × Nat) :=
  removed.insertionSort fun first second => first.2 ≤ second.2

section

variable (provider : VersionedProvider) (topology : ProviderTopology)
  {playlists : PlaylistTable}
  (resolved : ResolvedPlaylist provider topology playlists)
  (entries : PlaylistEntries provider resolved.playlist)

def liftRejection {Failure Result : Type}
    (wrap : Failure → PlaylistUndoFailure) :
    Except Failure Result → Except PlaylistRemoveFailure Result
  | .ok result => .ok result
  | .error failure => .error (.rejected (wrap failure))

/-- A provider with version tokens must have sent one. -/
def requireVersionToken : Except PlaylistRemoveFailure Unit :=
  if resolved.playlist.versionToken.isSome then .ok ()
  else .error (.versionTokenOmitted resolved.playlist.uri)

/-- `build_playlist_remove_plan`, without the capability probe. -/
def buildPlaylistRemovePlan (uris : List String) :
    Except PlaylistRemoveFailure PlaylistRemovePlan :=
  if uris.isEmpty then
    .error (.rejected .noTrackUris)
  else do
    let itemUris ← liftRejection id (preflightPlaylistAddItems provider uris)
    requireVersionToken provider topology resolved
    let (mutationItems, removedItems) ← liftRejection .provider
      (selectPlaylistRemoveItems itemUris entries.items)
    return { mutationItems := mutationItems,
             removedItems := sortByPosition removedItems }

/-- The references of a request in the provider's own form. -/
def preflightOccurrences : List PlaylistItemOccurrenceRef →
    Except PlaylistUndoFailure (List PlaylistItemRef)
  | [] => .ok []
  | item :: rest => do
    let uri ← preflightPlaylistItemUri provider item.uri.asUri
    return { uri := uri, positions := item.positions } ::
      (← preflightOccurrences rest)

/-- `build_playlist_remove_occurrences_plan`, without the capability probe. -/
def buildPlaylistRemoveOccurrencesPlan
    (requested : List PlaylistItemOccurrenceRef) :
    Except PlaylistRemoveFailure PlaylistRemovePlan :=
  if requested.isEmpty then
    .error (.rejected (.provider
      (.invalidInput "items" "no playlist occurrences to remove")))
  else do
    liftRejection .provider (requireDistinct []
      (requested.flatMap PlaylistItemOccurrenceRef.positions))
    let mutationItems ← liftRejection id
      (preflightOccurrences provider requested)
    requireVersionToken provider topology resolved
    liftRejection .provider (requireOccurrences entries.items
      (positionedReferences mutationItems))
    return { mutationItems := mutationItems,
             removedItems := sortByPosition
              ((positionedReferences mutationItems).map
                fun (position, uri) => (uri.asUri, position)) }

def buildRemovePlan :
    PlaylistRemoveRequest → Except PlaylistRemoveFailure PlaylistRemovePlan
  | .items uris => buildPlaylistRemovePlan provider topology resolved entries
      uris
  | .occurrences items =>
    buildPlaylistRemoveOccurrencesPlan provider topology resolved entries items

/-- `execute_playlist_remove_plan`: the provider after the write and the
finalized row, whose plan is guarded by the token the write left. -/
def executePlaylistRemovePlan (plan : PlaylistRemovePlan)
    (subjectUris : List String) (row : Operation) :
    Except PlaylistRemoveFailure (PlaylistTable × Operation) :=
  let playlistId := resolved.playlist.uri.asUri
  let mutation := Mutation.playlistRemove resolved.playlist.uri
    plan.mutationItems resolved.playlist.versionToken
  match provider.applyPlaylistMutation playlists mutation with
  | none =>
    .error (.rejected (.notAPlaylistMutation (.mutation mutation)))
  | some (.error error) => .error (.rejected (.provider error))
  | some (.ok (_, none)) =>
    .error (.versionTokenOmitted resolved.playlist.uri)
  | some (.ok (written, some postVersion)) =>
    .ok (written,
      { row with
        kind := .playlistRemove,
        subjectUris := subjectUris,
        reversible := true,
        preState := some (.playlistRemove playlistId
          resolved.playlist.versionToken plan.removedItems),
        reversalPlan := some (.playlistAddAtPositions playlistId
          plan.removedItems (some postVersion)),
        status := .succeeded })

/-- `PlaylistRemoveItems` and `PlaylistRemoveOccurrences`. -/
def playlistRemove (request : PlaylistRemoveRequest) (row : Operation) :
    Except PlaylistRemoveFailure (PlaylistTable × Operation) := do
  let plan ← buildRemovePlan provider topology resolved entries request
  let subjectUris :=
    match request with
    | .items uris => uris
    | .occurrences _ => plan.removedItems.map Prod.fst
  executePlaylistRemovePlan provider topology resolved plan subjectUris row

end

/-- The positions an item occurs at, in order. -/
def occurrencesOf (items : List ResourceUri) (uri : ResourceUri) : List Nat :=
  (items.zipIdx.filter fun entry => entry.1 = uri).map Prod.snd

namespace PlaylistRemoveRequest

/-- A URI that is requested several times selects as many of its first
occurrences; an occurrence selects itself. -/
def Selects (items : List ResourceUri) (uri : ResourceUri) (position : Nat) :
    PlaylistRemoveRequest → Prop
  | .items uris =>
    position ∈ (occurrencesOf items uri).take (uris.count uri.asUri)
  | .occurrences references =>
    ∃ reference ∈ references, reference.uri = uri ∧
      position ∈ reference.positions

/-- How many occurrences a request names. -/
def selectedCount : PlaylistRemoveRequest → Nat
  | .items uris => uris.length
  | .occurrences references =>
    (references.flatMap PlaylistItemOccurrenceRef.positions).length

end PlaylistRemoveRequest

/-- The items of a list that are not at one of the positions. -/
def keepOutside {Item : Type*} (positions : List Nat) (items : List Item) :
    List Item :=
  (items.zipIdx.filter fun entry => entry.2 ∉ positions).map Prod.fst

section

variable {Item Key : Type*} [LinearOrder Key] (key : Item → Key)

theorem pairwise_lt_insertionSort {items : List Item}
    (distinct : (items.map key).Nodup) :
    (items.insertionSort fun first second => key first ≤ key second).Pairwise
      fun first second => key first < key second := by
  have total : Std.Total fun first second : Item => key first ≤ key second :=
    ⟨fun first second => le_total (key first) (key second)⟩
  have transitive : IsTrans Item fun first second => key first ≤ key second :=
    ⟨fun _ _ _ => le_trans⟩
  have sorted := List.pairwise_insertionSort
    (fun first second => key first ≤ key second) items
  have apart : (items.insertionSort
      fun first second => key first ≤ key second).Pairwise
        fun first second => key first ≠ key second := by
    rw [← List.pairwise_map (f := key)]
    exact ((List.perm_insertionSort _ items).map key).nodup_iff.mpr distinct
  exact (sorted.and apart).imp fun both => lt_of_le_of_ne both.1 both.2

/-- Two strictly sorted arrangements of the same items agree. -/
theorem eq_of_pairwise_lt {first second : List Item}
    (firstSorted : first.Pairwise fun a b => key a < key b)
    (secondSorted : second.Pairwise fun a b => key a < key b)
    (same : first.Perm second) : first = second :=
  same.eq_of_pairwise (fun _ _ _ _ less more => absurd more less.not_gt)
    firstSorted secondSorted

end

section

variable {Item : Type*}

private theorem filter_outside_of_before {positions : List Nat}
    (items : List Item) {start : Nat}
    (before : ∀ position ∈ positions, position < start) :
    ((items.zipIdx start).filter fun entry => entry.2 ∉ positions).map
      Prod.fst = items := by
  induction items generalizing start with
  | nil => rfl
  | cons item rest inductionHypothesis =>
    have kept : start ∉ positions := by
      intro member
      exact Nat.lt_irrefl _ (before start member)
    rw [List.zipIdx_cons, List.filter_cons_of_pos (by simpa using kept),
      List.map_cons, inductionHypothesis fun position member =>
        Nat.lt_succ_of_lt (before position member)]

private theorem filter_outside_eraseIdx {positions : List Nat}
    (items : List Item) (start : Nat) {offset : Nat}
    (inRange : offset < items.length)
    (before : ∀ position ∈ positions, position < start + offset) :
    (((items.eraseIdx offset).zipIdx start).filter
        fun entry => entry.2 ∉ positions).map Prod.fst =
      ((items.zipIdx start).filter
        fun entry => entry.2 ∉ (start + offset) :: positions).map
          Prod.fst := by
  induction items generalizing start offset with
  | nil => cases inRange
  | cons item rest inductionHypothesis =>
    cases offset with
    | zero =>
      rw [Nat.add_zero] at before ⊢
      have later : ∀ position ∈ start :: positions,
          position < start + 1 := by
        intro position member
        rcases List.mem_cons.mp member with rfl | old
        · exact Nat.lt_succ_self _
        · exact Nat.lt_succ_of_lt (before position old)
      rw [List.eraseIdx_cons_zero, filter_outside_of_before rest before,
        List.zipIdx_cons, List.filter_cons_of_neg (by simp),
        filter_outside_of_before rest later]
    | succ offset =>
      have shifted : ∀ position ∈ positions, position < start + 1 + offset := by
        intro position member
        have := before position member
        omega
      have tailEq := inductionHypothesis (start + 1)
        (Nat.lt_of_succ_lt_succ inRange) shifted
      have same : start + (offset + 1) = start + 1 + offset := by omega
      rw [List.eraseIdx_cons_succ, List.zipIdx_cons, List.zipIdx_cons, same]
      by_cases kept : start ∈ positions
      · rw [List.filter_cons_of_neg (by simpa using kept),
          List.filter_cons_of_neg (by simp [kept]), tailEq]
      · have keptToo : start ∉ (start + 1 + offset) :: positions := by
          simp only [List.mem_cons, kept, or_false]
          omega
        rw [List.filter_cons_of_pos (by simpa using kept),
          List.filter_cons_of_pos (by simpa using keptToo), List.map_cons,
          List.map_cons, tailEq]

/-- Erasing the highest of the positions first keeps what is outside all of
them. -/
theorem keepOutside_eraseIdx {positions : List Nat} {items : List Item}
    {highest : Nat} (inRange : highest < items.length)
    (descending : ∀ position ∈ positions, position < highest) :
    keepOutside positions (items.eraseIdx highest) =
      keepOutside (highest :: positions) items := by
  have erased := filter_outside_eraseIdx items 0 inRange
    (by simpa using descending)
  simpa [keepOutside] using erased

@[simp]
theorem keepOutside_nil (items : List Item) : keepOutside [] items = items := by
  have all : items.zipIdx.filter
      (fun entry => decide (entry.2 ∉ ([] : List Nat))) = items.zipIdx := by
    simp
  rw [keepOutside, all, List.zipIdx_map_fst]

end

/-- Positioned items by descending position that a list really holds. -/
structure HoldsDescending (items : List ResourceUri)
    (entries : List (Nat × ResourceUri)) : Prop where
  holds : ∀ entry ∈ entries, items[entry.1]? = some entry.2
  descending : entries.Pairwise fun first second => second.1 < first.1

theorem HoldsDescending.tail {items : List ResourceUri}
    {position : Nat} {uri : ResourceUri} {rest : List (Nat × ResourceUri)}
    (valid : HoldsDescending items ((position, uri) :: rest)) :
    HoldsDescending (items.eraseIdx position) rest := by
  obtain ⟨holds, descending⟩ := valid
  rw [List.pairwise_cons] at descending
  refine ⟨?_, descending.2⟩
  intro entry member
  rw [List.getElem?_eraseIdx_of_lt (descending.1 entry member)]
  exact holds entry (List.mem_cons_of_mem _ member)

/-- The provider's descending removal keeps the items outside the positions. -/
theorem removePositioned_descending {items : List ResourceUri}
    {entries : List (Nat × ResourceUri)}
    (valid : HoldsDescending items entries) :
    removePositioned items entries =
      .ok (keepOutside (entries.map Prod.fst) items) := by
  induction entries generalizing items with
  | nil => rw [removePositioned, List.map_nil, keepOutside_nil]
  | cons entry rest inductionHypothesis =>
    obtain ⟨position, uri⟩ := entry
    have held := valid.holds (position, uri) List.mem_cons_self
    have inRange : position < items.length :=
      (List.getElem?_eq_some_iff.mp held).1
    have descending := (List.pairwise_cons.mp valid.descending).1
    rw [removePositioned, if_neg (not_not_intro held),
      inductionHypothesis valid.tail, List.map_cons,
      keepOutside_eraseIdx inRange]
    intro earlier member
    obtain ⟨entry, inRest, rfl⟩ := List.mem_map.mp member
    exact descending entry inRest

private theorem ite_error_bind {Failure First Second : Type}
    (refused : Prop) [Decidable refused] (failure : Failure)
    (attempt : Except Failure First)
    (continue_ : First → Except Failure Second) :
    (if refused then .error failure else attempt.bind continue_) =
      (if refused then .error failure else attempt).bind continue_ := by
  split <;> rfl

/-- Inserting one more item at a position of its own comes last. -/
theorem insertPositioned_append {items : List ResourceUri}
    {group : Option (Nat × Nat)} {entries : List (Nat × ResourceUri)}
    {position : Nat} {uri : ResourceUri}
    (apartGroup : ∀ current inserted, group = some (current, inserted) →
      current ≠ position)
    (apart : ∀ entry ∈ entries, entry.1 ≠ position) :
    insertPositioned items group (entries ++ [(position, uri)]) =
      (insertPositioned items group entries).bind fun updated =>
        if position > updated.length then
          .error (invalidPosition position updated.length)
        else .ok (updated.insertIdx position uri) := by
  induction entries generalizing items group with
  | nil =>
    cases group with
    | none => simp [insertPositioned, Except.bind]
    | some running =>
      obtain ⟨current, inserted⟩ := running
      simp [insertPositioned, Except.bind,
        apartGroup current inserted rfl]
  | cons entry rest inductionHypothesis =>
    obtain ⟨first, firstUri⟩ := entry
    have firstApart := apart (first, firstUri) List.mem_cons_self
    have restApart : ∀ entry ∈ rest, entry.1 ≠ position := by
      intro entry member
      exact apart entry (List.mem_cons_of_mem _ member)
    -- The running group only decides the offset of the first insertion.
    have tailEq : ∀ offset,
        insertPositioned (items.insertIdx (first + offset) firstUri)
            (some (first, offset + 1)) (rest ++ [(position, uri)]) =
          (insertPositioned (items.insertIdx (first + offset) firstUri)
            (some (first, offset + 1)) rest).bind fun updated =>
              if position > updated.length then
                .error (invalidPosition position updated.length)
              else .ok (updated.insertIdx position uri) := by
      intro offset
      apply inductionHypothesis _ restApart
      rintro current inserted ⟨rfl, rfl⟩
      exact firstApart
    simp only [List.cons_append, insertPositioned]
    split <;>
    · rw [tailEq]
      exact ite_error_bind _ _ _ _

/-- Putting the removed items back by ascending position restores the list. -/
theorem insertPositioned_ascending {items : List ResourceUri}
    {entries : List (Nat × ResourceUri)}
    (valid : HoldsDescending items entries) :
    insertPositioned (keepOutside (entries.map Prod.fst) items) none
      entries.reverse = .ok items := by
  induction entries generalizing items with
  | nil => rw [List.reverse_nil, insertPositioned, List.map_nil, keepOutside_nil]
  | cons entry rest inductionHypothesis =>
    obtain ⟨position, uri⟩ := entry
    have held : items[position]? = some uri :=
      valid.holds (position, uri) List.mem_cons_self
    obtain ⟨inRange, isUri⟩ := List.getElem?_eq_some_iff.mp held
    have descending := (List.pairwise_cons.mp valid.descending).1
    have erased : keepOutside (((position, uri) :: rest).map Prod.fst) items =
        keepOutside (rest.map Prod.fst) (items.eraseIdx position) := by
      rw [keepOutside_eraseIdx inRange, List.map_cons]
      intro earlier member
      obtain ⟨entry, inRest, rfl⟩ := List.mem_map.mp member
      exact descending entry inRest
    have fits : ¬ position > (items.eraseIdx position).length := by
      rw [List.length_eraseIdx_of_lt inRange]
      omega
    rw [List.reverse_cons, erased, insertPositioned_append (by simp),
      inductionHypothesis valid.tail]
    · simp only [Except.bind, if_neg fits]
      rw [← isUri, List.insertIdx_eraseIdx_getElem inRange]
    · intro entry member
      have := descending entry (List.mem_reverse.mp member)
      omega

/-- A plan whose references are distinct occurrences of the list, exactly the
ones the request selects, and whose removed items are these by position. -/
structure PlaylistRemovePlan.Sound (items : List ResourceUri)
    (request : PlaylistRemoveRequest) (plan : PlaylistRemovePlan) : Prop where
  holds : ∀ entry ∈ positionedReferences plan.mutationItems,
    items[entry.1]? = some entry.2
  distinct : ((positionedReferences plan.mutationItems).map Prod.fst).Nodup
  positioned : ∀ item ∈ plan.mutationItems, item.positions ≠ []
  removed : plan.removedItems = sortByPosition
    ((positionedReferences plan.mutationItems).map
      fun (position, uri) => (uri.asUri, position))
  selected : ∀ uri position,
    (position, uri) ∈ positionedReferences plan.mutationItems ↔
      request.Selects items uri position
  counted : (positionedReferences plan.mutationItems).length =
    request.selectedCount

private theorem nodup_positions {Item : Type*} (items : List Item)
    (selects : Item × Nat → Bool) :
    ((items.zipIdx.filter selects).map Prod.snd).Nodup := by
  have sublist : ((items.zipIdx.filter selects).map Prod.snd).Sublist
      (items.zipIdx.map Prod.snd) :=
    List.filter_sublist.map _
  apply sublist.nodup
  rw [List.zipIdx_map_snd]
  exact List.nodup_range'

theorem mem_occurrencesOf {items : List ResourceUri} {uri : ResourceUri}
    {position : Nat} :
    position ∈ occurrencesOf items uri ↔ items[position]? = some uri := by
  simp [occurrencesOf, List.mem_zipIdx_iff_getElem?]

/-- Every URI gets the first positions that are left for it. -/
theorem takePositions_eq_ok {available : String → List Nat} {index : Nat}
    {requested : List ResourceUri} {items : List PlaylistItemRef}
    {removed : List (String × Nat)}
    (taken : takePositions available index requested = .ok (items, removed))
    (distinct : ∀ uri, (available uri).Nodup)
    (apart : ∀ first second, first ≠ second →
      List.Disjoint (available first) (available second)) :
    ∃ entries : List (Nat × ResourceUri),
      items = entries.map (fun (position, uri) =>
        { uri := uri, positions := [position] }) ∧
      removed = entries.map (fun (position, uri) =>
        (uri.asUri, position)) ∧
      entries.length = requested.length ∧
      (entries.map Prod.fst).Nodup ∧
      ∀ uri position, (position, uri) ∈ entries ↔
        position ∈ (available uri.asUri).take (requested.count uri) := by
  induction requested generalizing available index items removed with
  | nil =>
    cases taken
    exact ⟨[], rfl, rfl, rfl, List.nodup_nil, by simp⟩
  | cons uri rest inductionHypothesis =>
    rw [takePositions] at taken
    cases free : available uri.asUri with
    | nil => simp [free] at taken
    | cons position others =>
      simp only [free] at taken
      obtain ⟨⟨restItems, restRemoved⟩, takenRest, result⟩ :=
        Except.bind_eq_ok.mp taken
      cases result
      have freeDistinct := distinct uri.asUri
      rw [free, List.nodup_cons] at freeDistinct
      -- What is left for a URI was left for it before.
      have left : ∀ other, ∀ later ∈
          Function.update available uri.asUri others other,
          later ∈ available other ∧ later ≠ position := by
        intro other later member
        by_cases same : other = uri.asUri
        · subst same
          rw [Function.update_self] at member
          refine ⟨free ▸ List.mem_cons_of_mem _ member, ?_⟩
          rintro rfl
          exact freeDistinct.1 member
        · rw [Function.update_of_ne same] at member
          refine ⟨member, ?_⟩
          rintro rfl
          exact apart other uri.asUri same member
            (free ▸ List.mem_cons_self)
      obtain ⟨entries, itemsEq, removedEq, lengthEq, entriesNodup,
          mem_entries⟩ := inductionHypothesis takenRest
        (by
          intro other
          by_cases same : other = uri.asUri
          · subst same
            rw [Function.update_self]
            exact freeDistinct.2
          · rw [Function.update_of_ne same]
            exact distinct other)
        (by
          intro first second different later inFirst inSecond
          exact apart first second different (left _ _ inFirst).1
            (left _ _ inSecond).1)
      refine ⟨(position, uri) :: entries, by rw [itemsEq]; rfl,
        by rw [removedEq]; rfl, by simp [lengthEq], ?_, ?_⟩
      · rw [List.map_cons, List.nodup_cons]
        refine ⟨?_, entriesNodup⟩
        intro again
        obtain ⟨⟨_, other⟩, member, rfl⟩ := List.mem_map.mp again
        have inLeft := List.mem_of_mem_take ((mem_entries _ _).mp member)
        exact (left _ _ inLeft).2 rfl
      · intro other later
        rw [List.mem_cons, mem_entries]
        by_cases same : other = uri
        · subst same
          simp [free]
        · have differs : other.asUri ≠ uri.asUri := fun equal =>
            same (ResourceUri.asUri_injective equal)
          rw [Function.update_of_ne differs,
            List.count_cons_of_ne (Ne.symm same)]
          simp [same]

section

variable {provider : VersionedProvider} {topology : ProviderTopology}
  {playlists : PlaylistTable}
  {resolved : ResolvedPlaylist provider topology playlists}
  {entries : PlaylistEntries provider resolved.playlist}

/-- The positions the daemon sees are those of the provider's list. -/
theorem availablePositions_items (uri : ResourceUri) :
    availablePositions entries.items uri.asUri =
      occurrencesOf resolved.playlist.items uri := by
  have sameFilter :
      (fun entry : MediaItem × Nat => decide (entry.1.uri = uri.asUri)) ∘
          Prod.map entries.media id =
        fun entry => decide (entry.1 = uri) := by
    funext entry
    apply decide_eq_decide.mpr
    change (entries.media entry.1).uri = uri.asUri ↔ entry.1 = uri
    rw [entries.named, ResourceUri.asUri_injective.eq_iff]
  have samePosition :
      (Prod.snd : MediaItem × Nat → Nat) ∘ Prod.map entries.media id =
        Prod.snd := rfl
  rw [availablePositions, PlaylistEntries.items, List.zipIdx_map,
    List.filter_map, List.map_map, sameFilter, samePosition, occurrencesOf]

theorem getElem?_items {position : Nat} {item : MediaItem}
    (found : entries.items[position]? = some item) {uri : ResourceUri}
    (isUri : item.uri = uri.asUri) :
    resolved.playlist.items[position]? = some uri := by
  rw [PlaylistEntries.items, List.getElem?_map, Option.map_eq_some_iff]
    at found
  obtain ⟨other, foundOther, rfl⟩ := found
  rw [entries.named] at isUri
  rw [foundOther, ResourceUri.asUri_injective isUri]

theorem liftRejection_eq_ok {Failure Result : Type}
    {wrap : Failure → PlaylistUndoFailure}
    {attempt : Except Failure Result} {result : Result} :
    liftRejection wrap attempt = .ok result ↔ attempt = .ok result := by
  cases attempt <;> simp [liftRejection]

/-- Accepted texts are the canonical texts of what they were parsed to. -/
theorem map_asUri_of_parseUris {uris : List String}
    {items : List ResourceUri} (parsed : parseUris uris = .ok items) :
    items.map ResourceUri.asUri = uris := by
  induction uris generalizing items with
  | nil =>
    cases parsed
    rfl
  | cons value rest inductionHypothesis =>
    obtain ⟨uri, parsedFirst, parsedTail⟩ := Except.bind_eq_ok.mp parsed
    obtain ⟨others, parsedRest, result⟩ := Except.bind_eq_ok.mp parsedTail
    cases result
    have canonical : ResourceUri.parse value = .ok uri := by
      unfold parseUri at parsedFirst
      split at parsedFirst
      · rename_i found isFound
        cases parsedFirst
        exact isFound
      · cases parsedFirst
    rw [List.map_cons, ResourceUri.asUri_of_parse canonical,
      inductionHypothesis parsedRest]

/-- The canonical text of a list parses back to it. -/
theorem parseUris_map_asUri (items : List ResourceUri) :
    parseUris (items.map ResourceUri.asUri) = .ok items := by
  induction items with
  | nil => rfl
  | cons uri rest inductionHypothesis =>
    simp only [List.map_cons, parseUris, parseUri, ResourceUri.parse_asUri,
      inductionHypothesis]
    rfl

theorem buildPlaylistRemovePlan_sound {uris : List String}
    {plan : PlaylistRemovePlan}
    (built : buildPlaylistRemovePlan provider topology resolved entries uris =
      .ok plan) :
    plan.Sound resolved.playlist.items (.items uris) := by
  unfold buildPlaylistRemovePlan at built
  split at built
  · cases built
  · obtain ⟨itemUris, accepted, built⟩ := Except.bind_eq_ok.mp built
    obtain ⟨_, _, built⟩ := Except.bind_eq_ok.mp built
    obtain ⟨⟨items, removed⟩, selects, result⟩ := Except.bind_eq_ok.mp built
    rw [liftRejection_eq_ok] at accepted selects
    have canonical := map_asUri_of_parseUris
      (preflightPlaylistAddItems_eq_ok accepted).1
    have taken : takePositions (availablePositions entries.items) 0
        itemUris = .ok (items, removed) := by
      unfold selectPlaylistRemoveItems at selects
      split at selects
      · cases selects
      · exact selects
    obtain ⟨selected, rfl, rfl, length, distinct, mem_selected⟩ :=
      takePositions_eq_ok taken (fun _ => nodup_positions _ _) (by
        intro first second different position inFirst inSecond
        simp only [availablePositions, List.mem_map, List.mem_filter,
          decide_eq_true_eq] at inFirst inSecond
        obtain ⟨⟨item, at_⟩, ⟨isItem, firstUri⟩, rfl⟩ := inFirst
        obtain ⟨⟨other, at_⟩, ⟨isOther, secondUri⟩, rfl⟩ := inSecond
        rw [List.mem_zipIdx_iff_getElem?] at isItem isOther
        rw [isItem] at isOther
        cases isOther
        exact different (firstUri.symm.trans secondUri))
    cases result
    have references : positionedReferences (selected.map
        fun (position, uri) => { uri := uri, positions := [position] }) =
          selected := by
      simp [positionedReferences, List.flatMap_map]
    have requestedCount : ∀ uri,
        uris.count (ResourceUri.asUri uri) = itemUris.count uri := by
      intro uri
      rw [← canonical]
      exact List.count_map_of_injective itemUris _
        ResourceUri.asUri_injective uri
    constructor
    · rw [references]
      rintro ⟨position, uri⟩ member
      have taken := List.mem_of_mem_take ((mem_selected _ _).mp member)
      rw [availablePositions_items] at taken
      exact mem_occurrencesOf.mp taken
    · rw [references]
      exact distinct
    · intro item member
      obtain ⟨entry, _, rfl⟩ := List.mem_map.mp member
      simp
    · rw [references]
    · intro uri position
      rw [references, mem_selected, availablePositions_items]
      simp only [PlaylistRemoveRequest.Selects, requestedCount]
    · rw [references, length]
      simp [PlaylistRemoveRequest.selectedCount, ← canonical]

theorem requireDistinct_eq_ok {seen positions : List Nat}
    (accepted : requireDistinct seen positions = .ok ()) :
    positions.Nodup ∧ ∀ position ∈ positions, position ∉ seen := by
  induction positions generalizing seen with
  | nil => exact ⟨List.nodup_nil, by simp⟩
  | cons position rest inductionHypothesis =>
    rw [requireDistinct] at accepted
    split at accepted
    · cases accepted
    · rename_i fresh
      obtain ⟨distinct, apart⟩ := inductionHypothesis accepted
      refine ⟨List.nodup_cons.mpr ⟨?_, distinct⟩, ?_⟩
      · intro again
        exact apart position again List.mem_cons_self
      · intro other member
        rcases List.mem_cons.mp member with rfl | inRest
        · exact fresh
        · exact fun old => apart other inRest (List.mem_cons_of_mem _ old)

theorem preflightOccurrences_eq_ok
    {requested : List PlaylistItemOccurrenceRef}
    {items : List PlaylistItemRef}
    (accepted : preflightOccurrences provider requested = .ok items) :
    items = requested.map fun item =>
      { uri := item.uri, positions := item.positions } := by
  induction requested generalizing items with
  | nil =>
    cases accepted
    rfl
  | cons item rest inductionHypothesis =>
    obtain ⟨uri, acceptedFirst, acceptedTail⟩ :=
      Except.bind_eq_ok.mp accepted
    obtain ⟨restItems, acceptedRest, result⟩ :=
      Except.bind_eq_ok.mp acceptedTail
    cases result
    have same : uri = item.uri := by
      obtain ⟨parsed, parses, checked⟩ := Except.bind_eq_ok.mp acceptedFirst
      simp only [parseUri, ResourceUri.parse_asUri, liftFailure] at parses
      cases parses
      split at checked
      · cases checked
      · split at checked
        · cases checked
        · cases checked
          rfl
    rw [inductionHypothesis acceptedRest, same, List.map_cons]

/-- Checked occurrences are there. -/
theorem requireOccurrences_eq_ok {references : List (Nat × ResourceUri)}
    (accepted : requireOccurrences entries.items references = .ok ()) :
    ∀ entry ∈ references,
      resolved.playlist.items[entry.1]? = some entry.2 := by
  induction references with
  | nil => simp
  | cons entry rest inductionHypothesis =>
    obtain ⟨position, uri⟩ := entry
    obtain ⟨_, acceptedFirst, acceptedRest⟩ :=
      Except.bind_eq_ok.mp accepted
    rw [List.forall_mem_cons]
    refine ⟨?_, inductionHypothesis acceptedRest⟩
    unfold requireOccurrence at acceptedFirst
    split at acceptedFirst
    · cases acceptedFirst
    · rename_i item found
      split at acceptedFirst
      · cases acceptedFirst
      · rename_i sameUri
        exact getElem?_items found (not_not.mp sameUri)

theorem buildPlaylistRemoveOccurrencesPlan_sound
    {requested : List PlaylistItemOccurrenceRef}
    {plan : PlaylistRemovePlan}
    (built : buildPlaylistRemoveOccurrencesPlan provider topology resolved
      entries requested = .ok plan) :
    plan.Sound resolved.playlist.items (.occurrences requested) := by
  unfold buildPlaylistRemoveOccurrencesPlan at built
  split at built
  · cases built
  · obtain ⟨_, distinct, built⟩ := Except.bind_eq_ok.mp built
    obtain ⟨items, accepted, built⟩ := Except.bind_eq_ok.mp built
    obtain ⟨_, _, built⟩ := Except.bind_eq_ok.mp built
    obtain ⟨_, present, result⟩ := Except.bind_eq_ok.mp built
    rw [liftRejection_eq_ok] at distinct accepted present
    cases preflightOccurrences_eq_ok accepted
    cases result
    have positions : (positionedReferences (requested.map fun item =>
        { uri := item.uri, positions := item.positions })).map Prod.fst =
          requested.flatMap PlaylistItemOccurrenceRef.positions := by
      simp [positionedReferences, List.flatMap_map, List.map_flatMap,
        Function.comp_def]
    constructor
    · exact requireOccurrences_eq_ok present
    · rw [positions]
      exact (requireDistinct_eq_ok distinct).1
    · intro item member
      obtain ⟨reference, _, rfl⟩ := List.mem_map.mp member
      exact reference.positionsNonempty
    · rfl
    · intro uri position
      simp only [PlaylistRemoveRequest.Selects, positionedReferences,
        List.mem_flatMap, List.mem_map, Prod.mk.injEq,
        exists_exists_and_eq_and]
      constructor
      · rintro ⟨reference, member, _, inPositions, rfl, rfl⟩
        exact ⟨reference, member, rfl, inPositions⟩
      · rintro ⟨reference, member, rfl, inPositions⟩
        exact ⟨reference, member, position, inPositions, rfl, rfl⟩
    · rw [PlaylistRemoveRequest.selectedCount, ← positions, List.length_map]

theorem buildRemovePlan_sound {request : PlaylistRemoveRequest}
    {plan : PlaylistRemovePlan}
    (built : buildRemovePlan provider topology resolved entries request =
      .ok plan) :
    plan.Sound resolved.playlist.items request := by
  cases request with
  | items uris => exact buildPlaylistRemovePlan_sound built
  | occurrences requested =>
    exact buildPlaylistRemoveOccurrencesPlan_sound built

end

namespace PlaylistRemovePlan

variable {items : List ResourceUri} {request : PlaylistRemoveRequest}
  {plan : PlaylistRemovePlan}

/-- The references in the order the provider removes them. -/
def descending (plan : PlaylistRemovePlan) : List (Nat × ResourceUri) :=
  (positionedReferences plan.mutationItems).insertionSort
    fun first second => second.1 ≤ first.1

theorem descending_perm (plan : PlaylistRemovePlan) :
    plan.descending.Perm (positionedReferences plan.mutationItems) :=
  List.perm_insertionSort _ _

theorem Sound.holdsDescending (sound : plan.Sound items request) :
    HoldsDescending items plan.descending := by
  constructor
  · intro entry member
    exact sound.holds entry (plan.descending_perm.mem_iff.mp member)
  · exact pairwise_lt_insertionSort
      (fun entry : Nat × ResourceUri => OrderDual.toDual entry.1)
      sound.distinct

/-- The positions a sound plan removes. -/
theorem Sound.mem_positions (sound : plan.Sound items request)
    {position : Nat} :
    position ∈ plan.descending.map Prod.fst ↔
      ∃ uri, request.Selects items uri position := by
  simp only [List.mem_map, plan.descending_perm.mem_iff, Prod.exists,
    exists_and_right, exists_eq_right, sound.selected]

/-- The provider removes exactly the selected positions. -/
theorem Sound.removedItems (sound : plan.Sound items request) :
    Spotuify.removedItems items plan.mutationItems =
      .ok (keepOutside (plan.descending.map Prod.fst) items) := by
  have allPositioned : plan.mutationItems.filter
      (fun reference => reference.positions.isEmpty) = [] := by
    rw [List.filter_eq_nil_iff]
    intro item member
    simpa using sound.positioned item member
  have removed := removePositioned_descending sound.holdsDescending
  unfold Spotuify.removedItems
  rw [allPositioned]
  change (removePositioned items plan.descending).bind _ = _
  rw [removed]
  simp [Except.bind, pure, Except.pure]

/-- The stored items are the removed ones by ascending position. -/
theorem Sound.removed_eq (sound : plan.Sound items request) :
    plan.removedItems = plan.descending.reverse.map
      fun (position, uri) => (uri.asUri, position) := by
  rw [sound.removed]
  apply eq_of_pairwise_lt Prod.snd
  · apply pairwise_lt_insertionSort
    rw [List.map_map]
    exact sound.distinct
  · rw [List.pairwise_map, List.pairwise_reverse]
    exact sound.holdsDescending.descending
  · refine (List.perm_insertionSort _ _).trans (List.Perm.map _ ?_)
    exact plan.descending_perm.symm.trans (List.reverse_perm _).symm

/-- The insertions a sound plan's undo asks for. -/
def insertions (plan : PlaylistRemovePlan) : List PlaylistInsertion :=
  plan.descending.reverse.map fun (position, uri) =>
    { uri := uri, position := some position }

theorem Sound.addedItems (sound : plan.Sound items request) :
    Spotuify.addedItems (keepOutside (plan.descending.map Prod.fst) items)
      plan.insertions = .ok items := by
  have ascending : plan.descending.reverse.Pairwise
      fun first second => first.1 ≤ second.1 := by
    rw [List.pairwise_reverse]
    exact sound.holdsDescending.descending.imp fun less => less.le
  have positioned : positionedInsertions plan.insertions =
      plan.descending.reverse := by
    rw [positionedInsertions, insertions, List.filterMap_map]
    simpa [Function.comp_def] using ascending.insertionSort_eq
  have appended : plan.insertions.filter
      (fun item => item.position.isNone) = [] := by
    simp [insertions, List.filter_map, Function.comp_def]
  unfold Spotuify.addedItems
  rw [positioned, appended, insertPositioned_ascending sound.holdsDescending]
  simp [bind, Except.bind, pure, Except.pure]

end PlaylistRemovePlan

section

variable {provider : VersionedProvider} {topology : ProviderTopology}
  {playlists : PlaylistTable}

theorem ensureBatch_eq_ok {count : Nat} :
    VersionedProvider.ensureBatch count = .ok () ↔ count ≤ maximumBatch := by
  unfold VersionedProvider.ensureBatch
  split
  · simp only [reduceCtorEq, false_iff]
    omega
  · simp only [true_iff]
    omega

theorem ensureKnownMedia_eq_ok {uris : List ResourceUri}
    (known : ∀ uri ∈ uris,
      uri.scheme = provider.scheme ∧ provider.knowsMedia uri = true) :
    provider.ensureKnownMedia uris = .ok () := by
  induction uris with
  | nil => rfl
  | cons uri rest inductionHypothesis =>
    rw [List.forall_mem_cons] at known
    obtain ⟨⟨own, knows⟩, knownRest⟩ := known
    simp only [VersionedProvider.ensureKnownMedia,
      VersionedProvider.ensureOwnUri, own, knows, if_true]
    exact inductionHypothesis knownRest

/-- What a provider that accepted a removal did. -/
theorem applyPlaylistMutation_remove {playlist : ProviderPlaylist}
    {references : List PlaylistItemRef} {expectedVersion : Option String}
    {written : PlaylistTable} {token : Option String}
    (stored : playlists.get? playlist.uri = some playlist)
    (applied : provider.applyPlaylistMutation playlists
      (.playlistRemove playlist.uri references expectedVersion) =
        some (.ok (written, token))) :
    (∀ reference ∈ references, reference.uri.scheme = provider.scheme) ∧
      ∃ items, removedItems playlist.items references = .ok items ∧
        written = provider.writeItems playlists playlist items ∧
        token = (provider.writtenPlaylist playlist items).versionToken := by
  simp only [VersionedProvider.applyPlaylistMutation, Option.some.injEq]
    at applied
  obtain ⟨_, _, applied⟩ := Except.bind_eq_ok.mp applied
  obtain ⟨_, _, applied⟩ := Except.bind_eq_ok.mp applied
  obtain ⟨_, own, applied⟩ := Except.bind_eq_ok.mp applied
  obtain ⟨selected, selects, applied⟩ := Except.bind_eq_ok.mp applied
  obtain ⟨items, itemsEq, result⟩ := Except.bind_eq_ok.mp applied
  have selectedEq : selected = playlist := by
    simp only [VersionedProvider.playlistMut, stored] at selects
    split at selects
    · cases selects
    · cases selects
      rfl
  subst selectedEq
  cases result
  refine ⟨?_, items, itemsEq, rfl, rfl⟩
  intro reference member
  exact provider.ensureOwnUris_eq_ok.mp own _ (List.mem_map_of_mem member)

/-- A removal that succeeded wrote the list without the planned positions and
finalized a row whose plan puts them back under the new token. -/
theorem executePlaylistRemovePlan_eq_ok
    {resolved : ResolvedPlaylist provider topology playlists}
    {request : PlaylistRemoveRequest} {plan : PlaylistRemovePlan}
    {subjectUris : List String} {row removed : Operation}
    {written : PlaylistTable}
    (sound : plan.Sound resolved.playlist.items request)
    (executed : executePlaylistRemovePlan provider topology resolved plan
      subjectUris row = .ok (written, removed)) :
    ∃ shrunk token,
      shrunk.uri = resolved.playlist.uri ∧
      shrunk.items = keepOutside (plan.descending.map Prod.fst)
        resolved.playlist.items ∧
      shrunk.versionToken = some token ∧
      written = provider.writeItems playlists resolved.playlist shrunk.items ∧
      written.get? shrunk.uri = some shrunk ∧
      (∀ entry ∈ plan.descending, entry.2.scheme = provider.scheme) ∧
      validateUndoable removed = .ok () ∧
      removed.reversalPlan = some (.playlistAddAtPositions
        resolved.playlist.uri.asUri plan.removedItems (some token)) := by
  unfold executePlaylistRemovePlan at executed
  dsimp only at executed
  split at executed
  · cases executed
  · cases executed
  · cases executed
  · rename_i table token applied
    obtain ⟨own, items, itemsEq, writtenEq, tokenEq⟩ :=
      applyPlaylistMutation_remove resolved.stored applied
    rw [sound.removedItems] at itemsEq
    cases itemsEq
    cases executed
    refine ⟨provider.writtenPlaylist resolved.playlist _, token, rfl, rfl,
      tokenEq.symm, writtenEq, ?_, ?_, ?_, rfl⟩
    · rw [writtenEq]
      exact get?_writeItems resolved.stored _
    · intro entry member
      have planned := plan.descending_perm.mem_iff.mp member
      obtain ⟨reference, isReference, inReference⟩ :=
        List.mem_flatMap.mp planned
      obtain ⟨_, _, rfl⟩ := List.mem_map.mp inReference
      exact own reference isReference
    · rw [validateUndoable_eq_ok, Operation.isOffered_eq_true]
      exact ⟨⟨rfl, rfl⟩, rfl, rfl⟩

theorem zip_insertions (entries : List (Nat × ResourceUri)) :
    ((entries.map Prod.snd).zip (entries.map Prod.fst)).map
        (fun (uri, position) =>
          ({ uri := uri, position := some position } : PlaylistInsertion)) =
      entries.map fun entry => ⟨entry.2, some entry.1⟩ := by
  rw [List.zip_map', List.map_map]
  rfl

/-- The call of a removal's undo. -/
theorem reversalCall_insertions
    {resolved : ResolvedPlaylist provider topology playlists}
    {request : PlaylistRemoveRequest} {plan : PlaylistRemovePlan}
    (sound : plan.Sound resolved.playlist.items request) (token : String) :
    reversalCall topology (.playlistAddAtPositions
        resolved.playlist.uri.asUri plan.removedItems (some token)) =
      .ok (.mutation (.playlistAdd resolved.playlist.uri plan.insertions
        (some token))) := by
  have uris : parseUris (plan.removedItems.map Prod.fst) =
      .ok (plan.descending.reverse.map Prod.snd) := by
    rw [sound.removed_eq, List.map_map, ← parseUris_map_asUri, List.map_map]
    rfl
  have positions : plan.removedItems.map Prod.snd =
      plan.descending.reverse.map Prod.fst := by
    rw [sound.removed_eq, List.map_map]
    rfl
  simp only [reversalCall, providerPlaylistResource_asUri resolved, uris,
    positions, bind, Except.bind, zip_insertions]
  rfl

/-- The provider accepts the insertions exactly up to its batch size, and they
restore the list. -/
theorem applyProviderMutation_insertions {items : List ResourceUri}
    {request : PlaylistRemoveRequest} {plan : PlaylistRemovePlan}
    (sound : plan.Sound items request) {shrunk : ProviderPlaylist}
    {token : String} {written : PlaylistTable}
    (stored : written.get? shrunk.uri = some shrunk)
    (shrunkItems : shrunk.items =
      keepOutside (plan.descending.map Prod.fst) items)
    (current : shrunk.versionToken = some token)
    (ownPlaylist : shrunk.uri.scheme = provider.scheme)
    (known : ∀ entry ∈ plan.descending, entry.2.scheme = provider.scheme ∧
      provider.knowsMedia entry.2 = true) :
    (request.selectedCount ≤ maximumBatch →
      applyProviderMutation provider written
          (.playlistAdd shrunk.uri plan.insertions (some token)) =
        .ok (provider.writeItems written shrunk items)) ∧
    (¬ request.selectedCount ≤ maximumBatch → ∀ restored,
      applyProviderMutation provider written
          (.playlistAdd shrunk.uri plan.insertions (some token)) ≠
        .ok restored) := by
  have count : plan.insertions.length = request.selectedCount := by
    rw [PlaylistRemovePlan.insertions, List.length_map, List.length_reverse,
      plan.descending_perm.length_eq, sound.counted]
  constructor
  · intro batch
    have batchOk := ensureBatch_eq_ok.mpr (count ▸ batch)
    have ownOk : provider.ensureOwnUri shrunk.uri = .ok () := by
      simp [VersionedProvider.ensureOwnUri, ownPlaylist]
    have knownOk : provider.ensureKnownMedia
        (plan.insertions.map PlaylistInsertion.uri) = .ok () := by
      apply ensureKnownMedia_eq_ok
      intro uri member
      simp only [PlaylistRemovePlan.insertions, List.map_map, List.mem_map,
        List.mem_reverse] at member
      obtain ⟨entry, isEntry, rfl⟩ := member
      exact known entry isEntry
    have selected : VersionedProvider.playlistMut written shrunk.uri
        (some token) = .ok shrunk := by
      simp [VersionedProvider.playlistMut, stored, current]
    have restored := sound.addedItems
    rw [← shrunkItems] at restored
    simp only [applyProviderMutation,
      VersionedProvider.applyPlaylistMutation, batchOk, ownOk, knownOk,
      selected, bind, Except.bind, restored]
    rfl
  · intro tooMany restored applied
    apply tooMany
    simp only [applyProviderMutation,
      VersionedProvider.applyPlaylistMutation] at applied
    split at applied
    · cases applied
    · rename_i result
      simp only [Option.some.injEq] at result
      obtain ⟨_, batch, _⟩ := Except.bind_eq_ok.mp result
      exact count ▸ ensureBatch_eq_ok.mp batch
    · cases applied

/-- What a successful removal leaves, and the provider call its undo makes. -/
theorem playlistRemove_eq_ok
    {resolved : ResolvedPlaylist provider topology playlists}
    {entries : PlaylistEntries provider resolved.playlist}
    {request : PlaylistRemoveRequest} {row removed : Operation}
    {written : PlaylistTable}
    (succeeded : playlistRemove provider topology resolved entries request
      row = .ok (written, removed)) :
    ∃ (plan : PlaylistRemovePlan) (shrunk : ProviderPlaylist)
      (token : String),
      plan.Sound resolved.playlist.items request ∧
      shrunk.uri = resolved.playlist.uri ∧
      shrunk.items = keepOutside (plan.descending.map Prod.fst)
        resolved.playlist.items ∧
      shrunk.versionToken = some token ∧
      written = provider.writeItems playlists resolved.playlist shrunk.items ∧
      written.get? shrunk.uri = some shrunk ∧
      (∀ entry ∈ plan.descending, entry.2.scheme = provider.scheme ∧
        provider.knowsMedia entry.2 = true) ∧
      removed.reversalPlan = some (.playlistAddAtPositions
        resolved.playlist.uri.asUri plan.removedItems (some token)) ∧
      ∀ force, undoSingle provider topology written removed force =
        applyProviderMutation provider written
          (.playlistAdd shrunk.uri plan.insertions (some token)) := by
  obtain ⟨plan, built, executed⟩ := Except.bind_eq_ok.mp succeeded
  have sound := buildRemovePlan_sound built
  obtain ⟨shrunk, token, sameUri, shrunkItems, current, writtenEq, stored, own,
    valid, planned⟩ := executePlaylistRemovePlan_eq_ok sound executed
  refine ⟨plan, shrunk, token, sound, sameUri, shrunkItems, current, writtenEq,
    stored, ?_, planned, ?_⟩
  · intro entry member
    have held := sound.holdsDescending.holds entry member
    exact ⟨own entry member, entries.known _ (List.mem_of_getElem? held)⟩
  · have read : currentVersionToken topology written
        (.playlistAddAtPositions resolved.playlist.uri.asUri
          plan.removedItems (some token)) = some token := by
      simp only [currentVersionToken, versionTokenCheckTarget,
        providerPlaylistResource_asUri resolved]
      rw [← sameUri, stored, Option.bind_some, current]
    intro force
    simp only [undoSingle, valid, planned, checkVersionToken, read,
      versionTokenCheckTarget, reversalCall_insertions sound, liftFailure,
      sameUri]
    simp [bind, Except.bind]

/-- More occurrences than a batch holds are not put back. -/
theorem undo_playlistRemove_refused
    {resolved : ResolvedPlaylist provider topology playlists}
    {entries : PlaylistEntries provider resolved.playlist}
    {request : PlaylistRemoveRequest} {row removed : Operation}
    {written : PlaylistTable}
    (succeeded : playlistRemove provider topology resolved entries request
      row = .ok (written, removed))
    (tooMany : ¬ request.selectedCount ≤ maximumBatch)
    (final : PlaylistTable) :
    undoSingle provider topology written removed false ≠ .ok final := by
  obtain ⟨plan, shrunk, token, sound, sameUri, shrunkItems, current, _, stored,
    known, _, undoes⟩ := playlistRemove_eq_ok succeeded
  rw [undoes false]
  exact (applyProviderMutation_insertions sound stored shrunkItems current
    (sameUri ▸ resolved.ownScheme) known).2 tooMany final

/-- A removal deletes exactly the selected occurrences, and undoing it restores
the list exactly when it selected no more of them than one batch holds. -/
theorem undo_playlistRemove_restores_iff
    (resolved : ResolvedPlaylist provider topology playlists)
    (entries : PlaylistEntries provider resolved.playlist)
    (request : PlaylistRemoveRequest) (row removed : Operation)
    (written : PlaylistTable)
    (succeeded : playlistRemove provider topology resolved entries request
      row = .ok (written, removed)) :
    (∃ positions,
      (∀ position, position ∈ positions ↔
        ∃ uri, request.Selects resolved.playlist.items uri position) ∧
      (written.get? resolved.playlist.uri).map ProviderPlaylist.items =
        some (keepOutside positions resolved.playlist.items)) ∧
    ((∃ final, undoSingle provider topology written removed false =
          .ok final ∧
        (final.get? resolved.playlist.uri).map ProviderPlaylist.items =
          some resolved.playlist.items) ↔
      request.selectedCount ≤ maximumBatch) := by
  obtain ⟨plan, shrunk, token, sound, sameUri, shrunkItems, current, _, stored,
    known, _, undoes⟩ := playlistRemove_eq_ok succeeded
  refine ⟨⟨_, fun position => sound.mem_positions, ?_⟩, ?_⟩
  · rw [← sameUri, stored, Option.map_some, shrunkItems]
  · constructor
    · rintro ⟨final, undone, _⟩
      by_contra tooMany
      exact undo_playlistRemove_refused succeeded tooMany final undone
    · intro batch
      have restores := (applyProviderMutation_insertions sound stored
        shrunkItems current (sameUri ▸ resolved.ownScheme) known).1 batch
      refine ⟨_, (undoes false).trans restores, ?_⟩
      rw [← sameUri, get?_writeItems stored, Option.map_some]
      rfl

end

theorem named_stub (uri : ResourceUri) :
    (MediaItem.stub uri.asUri).uri = uri.asUri := rfl

/-- The entries of a playlist of available tracks. -/
def fakeEntries (playlist : ProviderPlaylist) :
    PlaylistEntries fakeProvider playlist where
  media uri := MediaItem.stub uri.asUri
  named := named_stub
  known _ _ := rfl

/-- Both occurrences of a repeated track are removed and put back around the
other one. -/
theorem undo_playlistRemove_restores_repeated :
    ∃ written removed, playlistRemove fakeProvider fakeTopology
        (resolvedFakePlaylist
          [fakeTrack "one" (by decide), fakeTrack "two" (by decide),
            fakeTrack "one" (by decide)] (some "v1"))
        (fakeEntries _) (.items ["fake:track:one", "fake:track:one"])
        fakeAddRow = .ok (written, removed) ∧
      (written.get? (fakePlaylist [] none).uri).map ProviderPlaylist.items =
        some [fakeTrack "two" (by decide)] ∧
      ∃ final,
        undoSingle fakeProvider fakeTopology written removed false =
          .ok final ∧
        (final.get? (fakePlaylist [] none).uri).map ProviderPlaylist.items =
          some [fakeTrack "one" (by decide), fakeTrack "two" (by decide),
            fakeTrack "one" (by decide)] := by
  refine ⟨_, _, rfl, rfl, ?_⟩
  exact (undo_playlistRemove_restores_iff
    (resolvedFakePlaylist
      [fakeTrack "one" (by decide), fakeTrack "two" (by decide),
        fakeTrack "one" (by decide)] (some "v1"))
    (fakeEntries _) (.items ["fake:track:one", "fake:track:one"]) fakeAddRow
    _ _ rfl).2.mpr (by decide)

/-- One reference to a hundred and one occurrences of a track. -/
def manyOccurrences : PlaylistRemoveRequest :=
  .occurrences
    [{ uri := fakeTrack "one" (by decide), positions := List.range 101,
       positionsNonempty := by decide }]

/-- The provider accepts the removal of a reference to more occurrences than a
batch holds, and then refuses to put them back. -/
theorem manyOccurrences_not_restored :
    ∃ written removed, playlistRemove fakeProvider fakeTopology
        (resolvedFakePlaylist
          (List.replicate 101 (fakeTrack "one" (by decide))) (some "v1"))
        (fakeEntries _) manyOccurrences fakeAddRow = .ok (written, removed) ∧
      ∀ final, undoSingle fakeProvider fakeTopology written removed false ≠
        .ok final := by
  have accepted : (playlistRemove fakeProvider fakeTopology
      (resolvedFakePlaylist
        (List.replicate 101 (fakeTrack "one" (by decide))) (some "v1"))
      (fakeEntries _) manyOccurrences fakeAddRow).isOk = true := by
    decide +kernel
  cases removes : playlistRemove fakeProvider fakeTopology
      (resolvedFakePlaylist
        (List.replicate 101 (fakeTrack "one" (by decide))) (some "v1"))
      (fakeEntries _) manyOccurrences fakeAddRow with
  | error failure =>
    rw [removes] at accepted
    cases accepted
  | ok result =>
    obtain ⟨written, removed⟩ := result
    refine ⟨written, removed, rfl, ?_⟩
    exact undo_playlistRemove_refused removes (by decide)

end Spotuify
