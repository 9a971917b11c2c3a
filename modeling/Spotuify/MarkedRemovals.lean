import Spotuify.PlaylistMarks

/-!
# What is removed is what was marked

The marks of a reachable view are rows of the open playlist, so the counts that
the user is shown add up.  A removal that is sent was asked for before, and
names the rows that were marked then by position and by URI.  The daemon
removes exactly these rows, or refuses where one of them no longer holds what
was shown.
-/

namespace Spotuify

open Receipts (groupsOf pushGroup)

theorem occurrencesAt_eq_some {tracks : List MediaItem} {positions : List Nat}
    {occurrences : List (ResourceUri × Nat)}
    (found : occurrencesAt tracks positions = some occurrences) :
    occurrences.map Prod.snd = positions ∧
      ∀ occurrence ∈ occurrences, ∃ item,
        tracks[occurrence.2]? = some item ∧
          item.uri = occurrence.1.asUri := by
  induction positions generalizing occurrences with
  | nil =>
    cases found
    simp
  | cons position rest inductionHypothesis =>
    rw [occurrencesAt] at found
    split at found
    · cases found
    · next item isItem =>
      split at found
      · cases found
      · next uri parsed =>
        split at found
        · obtain ⟨others, foundRest, rfl⟩ := Option.map_eq_some_iff.mp found
          obtain ⟨positionsRest, shownRest⟩ := inductionHypothesis foundRest
          refine ⟨by rw [List.map_cons, positionsRest], ?_⟩
          rw [List.forall_mem_cons]
          exact ⟨⟨item, isItem, (ResourceUri.asUri_of_parse parsed).symm⟩,
            shownRest⟩
        · cases found

theorem occurrenceRefs_eq_some
    {groups : List (ResourceUri × List (ResourceUri × Nat))}
    {items : List PlaylistItemOccurrenceRef}
    (made : occurrenceRefs groups = some items) :
    items.map (fun item => (item.uri, item.positions)) =
      groups.map fun group => (group.1, group.2.map Prod.snd) := by
  induction groups generalizing items with
  | nil =>
    cases made
    rfl
  | cons group rest inductionHypothesis =>
    obtain ⟨uri, occurrences⟩ := group
    rw [occurrenceRefs] at made
    obtain ⟨reference, isNew, madeRest⟩ := Option.bind_eq_some_iff.mp made
    obtain ⟨others, isRest, rfl⟩ := Option.map_eq_some_iff.mp madeRest
    unfold PlaylistItemOccurrenceRef.new at isNew
    split at isNew
    · cases isNew
      rw [List.map_cons, List.map_cons, inductionHypothesis isRest]
    · cases isNew

section

variable {Key Value : Type} [DecidableEq Key]

theorem pushGroup_key {keyOf : Value → Key} {value : Value}
    {groups : List (Key × List Value)}
    (keyed : ∀ group ∈ groups, ∀ held ∈ group.2, keyOf held = group.1) :
    ∀ group ∈ pushGroup (keyOf value) value groups, ∀ held ∈ group.2,
      keyOf held = group.1 := by
  induction groups with
  | nil => simp [pushGroup]
  | cons first rest inductionHypothesis =>
    obtain ⟨present, values⟩ := first
    obtain ⟨keyedFirst, keyedRest⟩ := List.forall_mem_cons.mp keyed
    rw [pushGroup]
    split
    · next same =>
      rw [List.forall_mem_cons]
      refine ⟨?_, keyedRest⟩
      intro held isHeld
      rcases List.mem_append.mp isHeld with earlier | last
      · exact keyedFirst held earlier
      · rw [List.mem_singleton.mp last]
        exact same.symm
    · rw [List.forall_mem_cons]
      exact ⟨keyedFirst, inductionHypothesis keyedRest⟩

/-- What is grouped under a key has that key. -/
theorem groupsOf_key (keyOf : Value → Key) (values : List Value) :
    ∀ group ∈ groupsOf keyOf values, ∀ held ∈ group.2,
      keyOf held = group.1 := by
  have run (groups : List (Key × List Value))
      (keyed : ∀ group ∈ groups, ∀ held ∈ group.2, keyOf held = group.1) :
      ∀ group ∈ values.foldl
        (fun groups value => pushGroup (keyOf value) value groups) groups,
        ∀ held ∈ group.2, keyOf held = group.1 := by
    induction values generalizing groups with
    | nil => exact keyed
    | cons value rest inductionHypothesis =>
      exact inductionHypothesis _ (pushGroup_key keyed)
  exact run [] (by simp)

end

namespace PlaylistView

variable {view : PlaylistView} {modal : RemovalModal}

/-- A row of the view shows a resource. -/
def Shows (view : PlaylistView) (position : Nat) (uri : ResourceUri) : Prop :=
  ∃ item, view.playlistTracks[position]? = some item ∧ item.uri = uri.asUri

/-- The references name the selected rows, each once and by what it shows. -/
structure AsksFor (view : PlaylistView)
    (items : List PlaylistItemOccurrenceRef) : Prop where
  positions : (items.flatMap PlaylistItemOccurrenceRef.positions).Perm
    view.selectedPlaylistOccurrencePositions
  shown : ∀ item ∈ items, ∀ position ∈ item.positions,
    view.Shows position item.uri

/-- The question names the playlist and how many rows it is about. -/
def Announces (view : PlaylistView) (modal : RemovalModal) (count : Nat) :
    Prop :=
  ∃ playlistName, view.selectedPlaylistName = some playlistName ∧
    modal.title = "Remove " ++ toString count ++ " " ++ tracksLabel count ++
      " from " ++ playlistName ++ "?"

theorem selectedPlaylistOccurrenceRefs_eq_some
    {items : List PlaylistItemOccurrenceRef}
    (named : view.selectedPlaylistOccurrenceRefs = some items) :
    view.AsksFor items := by
  obtain ⟨occurrences, found, made⟩ := Option.bind_eq_some_iff.mp named
  obtain ⟨positions, shown⟩ := occurrencesAt_eq_some found
  have groups := occurrenceRefs_eq_some made
  constructor
  · have flat : items.flatMap PlaylistItemOccurrenceRef.positions =
        ((groupsOf Prod.fst occurrences).flatMap Prod.snd).map Prod.snd := by
      have pairs : items.flatMap PlaylistItemOccurrenceRef.positions =
          (items.map fun item => (item.uri, item.positions)).flatMap
            Prod.snd := by
        rw [List.flatMap_map]
      rw [pairs, groups, List.flatMap_map, List.map_flatMap]
    rw [flat, ← positions]
    exact (Receipts.groupsOf_perm Prod.fst occurrences).map Prod.snd
  · intro item member position isPosition
    have inGroups : (item.uri, item.positions) ∈
        (groupsOf Prod.fst occurrences).map
          fun group => (group.1, group.2.map Prod.snd) := by
      rw [← groups]
      exact List.mem_map_of_mem member
    obtain ⟨group, isGroup, sameGroup⟩ := List.mem_map.mp inGroups
    rw [Prod.mk.injEq] at sameGroup
    obtain ⟨sameUri, samePositions⟩ := sameGroup
    rw [← samePositions] at isPosition
    obtain ⟨occurrence, inGroup, rfl⟩ := List.mem_map.mp isPosition
    have isOccurrence : occurrence ∈ occurrences :=
      (Receipts.groupsOf_perm Prod.fst occurrences).mem_iff.mp
        (List.mem_flatMap.mpr ⟨group, isGroup, inGroup⟩)
    rw [← sameUri, ← groupsOf_key Prod.fst occurrences group isGroup
      occurrence inGroup]
    exact shown occurrence isOccurrence

theorem deleteConfirm_eq_some (asks : view.deleteConfirm = some modal) :
    view.selectedPlaylistId = some modal.playlist ∧
      view.AsksFor modal.items ∧
      view.selectedPlaylistOccurrencePositions ≠ [] ∧
      view.Announces modal
        (modal.items.flatMap PlaylistItemOccurrenceRef.positions).length := by
  obtain ⟨playlist, isOpen, asks⟩ := Option.bind_eq_some_iff.mp asks
  obtain ⟨playlistUri, _, asks⟩ := Option.bind_eq_some_iff.mp asks
  split at asks
  · obtain ⟨playlistName, isName, asks⟩ := Option.bind_eq_some_iff.mp asks
    obtain ⟨items, named, asks⟩ := Option.bind_eq_some_iff.mp asks
    dsimp only at asks
    split at asks
    · cases asks
    · next some_ =>
      cases asks
      have asksFor := selectedPlaylistOccurrenceRefs_eq_some named
      refine ⟨isOpen, asksFor, fun none_ => some_ ?_,
        playlistName, isName, ?_⟩
      · rw [← List.length_flatMap]
        exact asksFor.positions.length_eq.trans
          (List.length_eq_zero_iff.mpr none_)
      · rw [List.length_flatMap]
  · cases asks

/-- Marks are rows of the open playlist. -/
structure MarksSound (view : PlaylistView) : Prop where
  here : view.playlistMarkedPositions ≠ ∅ →
    view.playlistMarksPlaylistId = view.selectedPlaylistId
  inRange : ∀ position ∈ view.playlistMarkedPositions,
    position < view.playlistTracks.length

theorem marksSound_of_empty (unmarked : view.playlistMarkedPositions = ∅) :
    view.MarksSound :=
  ⟨fun marked => absurd unmarked marked, by simp [unmarked]⟩

theorem MarksSound.of_marks_eq {other : PlaylistView} (sound : view.MarksSound)
    (marks : other.playlistMarkedPositions = view.playlistMarkedPositions)
    (owner : other.playlistMarksPlaylistId = view.playlistMarksPlaylistId)
    (selected : other.selectedPlaylistId = view.selectedPlaylistId)
    (tracks : other.playlistTracks = view.playlistTracks) :
    other.MarksSound := by
  constructor
  · rw [marks, owner, selected]
    exact sound.here
  · rw [marks, tracks]
    exact sound.inRange

theorem marksHere_subset : view.marksHere ⊆ view.playlistMarkedPositions := by
  unfold marksHere
  split
  · exact Finset.empty_subset _
  · exact Finset.Subset.refl _

/-- A visible row is a row. -/
theorem lt_of_mem_visible {position : Nat} {item : MediaItem}
    (isVisible : (position, item) ∈ view.visiblePlaylistOccurrences) :
    position < view.playlistTracks.length := by
  obtain ⟨row, member, isRow⟩ := List.mem_map.mp isVisible
  cases isRow
  have indexed := List.mem_zipIdx_iff_getElem?.mp (List.mem_filter.mp member).1
  exact (List.getElem?_eq_some_iff.mp indexed).1

theorem MarksSound.toggleMarkSelected (sound : view.MarksSound) :
    view.toggleMarkSelected.MarksSound := by
  unfold PlaylistView.toggleMarkSelected
  split
  · exact sound
  · next position item isVisible =>
    have isRow := lt_of_mem_visible (List.mem_of_getElem? isVisible)
    split
    · refine ⟨fun _ => rfl, fun other isMarked => ?_⟩
      exact sound.inRange other
        (marksHere_subset (Finset.mem_of_mem_erase isMarked))
    · refine ⟨fun _ => rfl, fun other isMarked => ?_⟩
      rcases Finset.mem_insert.mp isMarked with rfl | earlier
      · exact isRow
      · exact sound.inRange other (marksHere_subset earlier)

theorem MarksSound.markRange (sound : view.MarksSound) :
    view.markRange.MarksSound := by
  unfold PlaylistView.markRange
  dsimp only
  split
  · exact sound
  · refine ⟨fun _ => rfl, fun other isMarked => ?_⟩
    rcases Finset.mem_union.mp isMarked with earlier | inRange
    · exact sound.inRange other (marksHere_subset earlier)
    · obtain ⟨row, member, rfl⟩ := List.mem_map.mp (List.mem_toFinset.mp inRange)
      exact lt_of_mem_visible
        (List.mem_of_mem_drop (List.mem_of_mem_take member))

theorem MarksSound.back (sound : view.MarksSound) : view.back.MarksSound := by
  unfold PlaylistView.back
  split
  · exact marksSound_of_empty rfl
  · exact sound

/-- The rows that a removal would take are in ascending order. -/
theorem pairwise_positions (view : PlaylistView) :
    view.selectedPlaylistOccurrencePositions.Pairwise (· < ·) := by
  unfold selectedPlaylistOccurrencePositions
  split
  · exact List.Pairwise.nil
  split
  · exact List.pairwise_lt_range.filter _
  · cases view.visiblePlaylistOccurrences[view.selected]? with
    | none => exact List.Pairwise.nil
    | some row => exact List.pairwise_singleton _ _

theorem nodup_visible_positions (view : PlaylistView) :
    (view.visiblePlaylistOccurrences.map Prod.fst).Nodup := by
  have swapped : (view.visiblePlaylistOccurrences.map Prod.fst).Sublist
      (view.playlistTracks.zipIdx.map Prod.snd) := by
    rw [visiblePlaylistOccurrences, List.map_map]
    exact List.filter_sublist.map _
  apply swapped.nodup
  rw [List.zipIdx_map_snd]
  exact List.nodup_range'

/-- The marked rows are those that the filter shows and the hidden ones. -/
theorem MarksSound.selectedCount (sound : view.MarksSound) :
    view.selectedCount =
      (view.visiblePlaylistOccurrences.filter fun row =>
        row.1 ∈ view.playlistMarkedPositions).length +
          view.hiddenMarkedPlaylistOccurrenceCount := by
  unfold PlaylistView.selectedCount hiddenMarkedPlaylistOccurrenceCount
  by_cases here : view.playlistMarksPlaylistId = view.selectedPlaylistId
  · rw [if_pos here, if_neg (not_not_intro here)]
    let visible := view.visiblePlaylistOccurrences.map Prod.fst
    have shown : (view.visiblePlaylistOccurrences.filter fun row =>
        row.1 ∈ view.playlistMarkedPositions).length =
          (view.playlistMarkedPositions.filter (· ∈ visible)).card := by
      have sameLength : (view.visiblePlaylistOccurrences.filter fun row =>
          row.1 ∈ view.playlistMarkedPositions).length =
            (visible.filter (· ∈ view.playlistMarkedPositions)).length := by
        rw [List.filter_map, List.length_map]
        rfl
      rw [sameLength, ← List.toFinset_card_of_nodup
        ((nodup_visible_positions view).filter _)]
      congr 1
      ext position
      rw [List.mem_toFinset, List.mem_filter, Finset.mem_filter,
        decide_eq_true_iff]
      exact and_comm
    have hidden : (view.playlistMarkedPositions.filter fun position =>
        position < view.playlistTracks.length ∧ position ∉ visible) =
          view.playlistMarkedPositions.filter (· ∉ visible) := by
      apply Finset.filter_congr
      intro position isMarked
      exact and_iff_right (sound.inRange position isMarked)
    rw [shown, hidden, Finset.card_filter_add_card_filter_not]
  · have unmarked : view.playlistMarkedPositions = ∅ := by
      by_contra marked
      exact here (sound.here marked)
    simp [here, unmarked]

/-- A removal takes the marked rows, or one row if none is marked. -/
theorem MarksSound.length_positions (sound : view.MarksSound)
    (isOpen : view.selectedPlaylistId ≠ none)
    (named : view.selectedPlaylistOccurrencePositions ≠ []) :
    view.selectedPlaylistOccurrencePositions.length =
      max 1 view.selectedCount := by
  unfold selectedPlaylistOccurrencePositions at named ⊢
  rw [if_neg isOpen] at named ⊢
  unfold PlaylistView.selectedCount
  by_cases marked : view.playlistMarkedPositions = ∅
  · rw [if_neg fun both => both.2 marked] at named ⊢
    have alone : ∀ row : Option Nat, row.toList ≠ [] →
        row.toList.length = 1 := by
      intro row nonempty
      cases row with
      | none => exact absurd rfl nonempty
      | some position => rfl
    rw [alone _ named]
    simp [marked]
  · have here := sound.here marked
    have all : ((List.range view.playlistTracks.length).filter fun position =>
        position ∈ view.playlistMarkedPositions).toFinset =
          view.playlistMarkedPositions := by
      ext position
      rw [List.mem_toFinset, List.mem_filter, List.mem_range,
        decide_eq_true_iff]
      exact and_iff_right_of_imp (sound.inRange position)
    have positive := Finset.card_pos.mpr
      (Finset.nonempty_iff_ne_empty.mpr marked)
    rw [if_pos ⟨here, marked⟩, if_pos here,
      ← List.toFinset_card_of_nodup (List.nodup_range.filter _), all]
    omega

end PlaylistView

namespace MarkSession

variable {session next final : MarkSession} {action : MarkAction}
  {actions : List MarkAction}

theorem press_eq_some {view : PlaylistView}
    (pressed : session.press view = some next) :
    session.view.confirmModal = none ∧ next = { session with view := view } := by
  unfold press at pressed
  split at pressed
  · next isFree =>
    cases pressed
    exact ⟨Option.isNone_iff_eq_none.mp isFree, rfl⟩
  · cases pressed

/-- A key that is only bound in some views. -/
theorem guarded_press_eq_some {guard : Prop} [Decidable guard]
    {view : PlaylistView}
    (pressed : (if guard then session.press view else none) = some next) :
    guard ∧ session.view.confirmModal = none ∧
      next = { session with view := view } := by
  rw [Option.ite_none_right_eq_some] at pressed
  exact ⟨pressed.1, press_eq_some pressed.2⟩

theorem step_marksSound (sound : session.view.MarksSound)
    (steps : session.step action = some next) : next.view.MarksSound := by
  cases action with
  | toggleMark =>
    obtain ⟨_, _, rfl⟩ := guarded_press_eq_some steps
    exact sound.toggleMarkSelected
  | markRange =>
    obtain ⟨_, _, rfl⟩ := guarded_press_eq_some steps
    exact sound.markRange
  | clearMarks =>
    rw [(press_eq_some steps).2]
    exact PlaylistView.marksSound_of_empty rfl
  | markElsewhere anchor =>
    rw [step, Option.ite_none_left_eq_some] at steps
    rw [(press_eq_some steps.2).2]
    exact sound.of_marks_eq rfl rfl rfl rfl
  | back =>
    rw [(press_eq_some steps).2]
    exact sound.back
  | openLikedSongs =>
    obtain ⟨_, _, rfl⟩ := guarded_press_eq_some steps
    exact PlaylistView.marksSound_of_empty rfl
  | «begin» =>
    rw [step, Option.ite_none_left_eq_some] at steps
    cases steps.2
    exact sound.of_marks_eq rfl rfl rfl rfl
  | delete =>
    obtain ⟨_, _, rfl⟩ := guarded_press_eq_some steps
    exact sound.of_marks_eq rfl rfl rfl rfl
  | confirm =>
    obtain ⟨modal, _, answered⟩ := Option.map_eq_some_iff.mp steps
    dsimp only at answered
    split at answered <;>
    · rw [← answered]
      exact PlaylistView.marksSound_of_empty rfl
  | cancel =>
    rw [step, Option.ite_none_right_eq_some] at steps
    cases steps.2
    exact sound.of_marks_eq rfl rfl rfl rfl
  | tracksLoaded playlistId playlistName tracks =>
    cases steps
    exact PlaylistView.marksSound_of_empty rfl
  | showScreen | steer | filter | applyCatalog | answered =>
    cases steps
    exact sound.of_marks_eq rfl rfl rfl rfl

theorem marksSound_of_reachable
    (reachable : machine.Reachable (· = initial) session) :
    session.view.MarksSound := by
  apply @GuardedMachine.Reachable.induction _ _ machine (· = initial)
    (fun session => session.view.MarksSound) _ _ _ reachable
  · rintro _ rfl
    exact PlaylistView.marksSound_of_empty rfl
  · intro session action next sound steps
    exact step_marksSound sound steps

/-- In every reachable session with a playlist open, the number of marks is
what the filter shows of them and what it is said to hide.  A question is
about as many rows, each named once by what it shows. -/
theorem marks_accounted
    (reachable : machine.Reachable (· = initial) session)
    (isOpen : session.view.isNormalPlaylistOpen = true) :
    session.view.selectedCount =
        (session.view.visiblePlaylistOccurrences.filter fun row =>
          row.1 ∈ session.view.playlistMarkedPositions).length +
            session.view.hiddenMarkedPlaylistOccurrenceCount ∧
      ∀ modal, session.view.deleteConfirm = some modal →
        session.view.Announces modal (max 1 session.view.selectedCount) ∧
        (modal.items.flatMap PlaylistItemOccurrenceRef.positions).length =
          max 1 session.view.selectedCount ∧
        (modal.items.flatMap PlaylistItemOccurrenceRef.positions).Nodup ∧
        ∀ item ∈ modal.items, ∀ position ∈ item.positions,
          session.view.Shows position item.uri := by
  have sound := marksSound_of_reachable reachable
  refine ⟨sound.selectedCount, fun modal asks => ?_⟩
  obtain ⟨_, asksFor, named, announces⟩ :=
    PlaylistView.deleteConfirm_eq_some asks
  have hasPlaylist : session.view.selectedPlaylistId ≠ none := by
    intro closed
    simp [PlaylistView.isNormalPlaylistOpen, closed] at isOpen
  have length : (modal.items.flatMap
      PlaylistItemOccurrenceRef.positions).length =
        max 1 session.view.selectedCount :=
    asksFor.positions.length_eq.trans
      (sound.length_positions hasPlaylist named)
  have distinct : session.view.selectedPlaylistOccurrencePositions.Nodup :=
    session.view.pairwise_positions.imp Nat.ne_of_lt
  rw [length] at announces
  exact ⟨announces, length, asksFor.positions.nodup_iff.mpr distinct,
    asksFor.shown⟩

/-- Two rows of a playlist are marked, and the filter then hides both. -/
def markedRun : List MarkAction :=
  [.showScreen .playlists,
    .tracksLoaded "fake:playlist:mix" "Mix"
      [MediaItem.stub "fake:track:one", MediaItem.stub "fake:track:two",
        MediaItem.stub "fake:track:one"],
    .toggleMark, .steer 2, .toggleMark, .filter "two"]

/-- Both hidden rows are counted, and the question is about both. -/
theorem marks_accounted_hidden :
    ∃ session modal, machine.Reachable (· = initial) session ∧
      session.view.deleteConfirm = some modal ∧
      session.view.selectedCount = 2 ∧
      session.view.hiddenMarkedPlaylistOccurrenceCount = 2 ∧
      session.view.Announces modal 2 := by
  have reached : (machine.run initial markedRun).any (fun session =>
      session.view.isNormalPlaylistOpen &&
        session.view.deleteConfirm.isSome &&
        decide (session.view.selectedCount = 2) &&
        decide (session.view.hiddenMarkedPlaylistOccurrenceCount = 2)) =
          true := by
    decide +kernel
  obtain ⟨session, runs, facts⟩ := (Option.any_eq_true _ _).mp reached
  simp only [Bool.and_eq_true, decide_eq_true_eq] at facts
  obtain ⟨⟨⟨isOpen, asks⟩, two⟩, hidden⟩ := facts
  obtain ⟨modal, asks⟩ := Option.isSome_iff_exists.mp asks
  have reachable : machine.Reachable (· = initial) session :=
    ⟨initial, markedRun, rfl, runs⟩
  have announces := ((marks_accounted reachable isOpen).2 modal asks).1
  rw [two] at announces
  exact ⟨session, modal, reachable, asks, two, hidden, announces⟩

/-- What is sent when a question is confirmed. -/
def requestOf (modal : RemovalModal) : Request :=
  .playlistRemoveOccurrences modal.playlist modal.items none

/-- The view in which the delete key raises a question. -/
def asks (session : MarkSession) :
    MarkAction → List (PlaylistView × RemovalModal)
  | .delete =>
    (session.view.deleteConfirm.map fun modal => (session.view, modal)).toList
  | _ => []

/-- The questions of a run, each with the view it was raised in. -/
def asked : MarkSession → List MarkAction → List (PlaylistView × RemovalModal)
  | _, [] => []
  | session, action :: rest =>
    session.asks action ++
      (session.step action).elim [] fun next => asked next rest

/-- What was sent and what may still be, in order. -/
def removals (session : MarkSession) : List Request :=
  session.sent.reverse ++ (session.view.confirmModal.map requestOf).toList

theorem removals_eq {other : MarkSession}
    (sent : other.sent = session.sent)
    (modal : other.view.confirmModal = session.view.confirmModal) :
    other.removals = session.removals := by
  rw [removals, sent, modal, removals]

theorem removals_sublist {other : MarkSession}
    (sent : other.sent = session.sent)
    (modal : other.view.confirmModal = none) :
    other.removals.Sublist session.removals := by
  rw [removals, sent, modal, Option.map_none, Option.toList_none,
    List.append_nil]
  exact List.sublist_append_left _ _

theorem confirmModal_back (view : PlaylistView) :
    view.back.confirmModal = view.confirmModal := by
  unfold PlaylistView.back
  split <;> rfl

theorem confirmModal_toggleMarkSelected (view : PlaylistView) :
    view.toggleMarkSelected.confirmModal = view.confirmModal := by
  unfold PlaylistView.toggleMarkSelected
  split
  · rfl
  · split <;> rfl

theorem confirmModal_markRange (view : PlaylistView) :
    view.markRange.confirmModal = view.confirmModal := by
  unfold PlaylistView.markRange
  dsimp only
  split <;> rfl

/-- A step sends what was asked, or asks, or forgets what was asked. -/
theorem step_removals (steps : session.step action = some next) :
    next.removals.Sublist
      (session.removals ++
        (session.asks action).map fun question => requestOf question.2) := by
  have unasked {other : MarkSession} (sent : other.sent = session.sent)
      (modal : other.view.confirmModal = session.view.confirmModal) :
      other.removals.Sublist (session.removals ++ []) := by
    rw [removals_eq sent modal, List.append_nil]
  cases action with
  | toggleMark =>
    obtain ⟨_, _, rfl⟩ := guarded_press_eq_some steps
    exact unasked rfl (confirmModal_toggleMarkSelected _)
  | markRange =>
    obtain ⟨_, _, rfl⟩ := guarded_press_eq_some steps
    exact unasked rfl (confirmModal_markRange _)
  | clearMarks =>
    rw [(press_eq_some steps).2]
    exact unasked rfl rfl
  | markElsewhere anchor =>
    rw [step, Option.ite_none_left_eq_some] at steps
    rw [(press_eq_some steps.2).2]
    exact unasked rfl rfl
  | back =>
    rw [(press_eq_some steps).2]
    exact unasked rfl (confirmModal_back _)
  | openLikedSongs =>
    obtain ⟨_, _, rfl⟩ := guarded_press_eq_some steps
    exact unasked rfl rfl
  | «begin» =>
    rw [step, Option.ite_none_left_eq_some] at steps
    cases steps.2
    exact unasked rfl rfl
  | delete =>
    obtain ⟨_, isFree, rfl⟩ := guarded_press_eq_some steps
    rw [removals, removals, isFree, asks]
    cases asks : session.view.deleteConfirm <;> simp
  | confirm =>
    obtain ⟨modal, isModal, answered⟩ := Option.map_eq_some_iff.mp steps
    dsimp only at answered
    change next.removals.Sublist (session.removals ++ [])
    rw [List.append_nil]
    split at answered
    · rw [← answered]
      exact removals_sublist rfl rfl
    · rw [← answered, removals, removals, isModal]
      simp [requestOf]
  | cancel =>
    rw [step, Option.ite_none_right_eq_some] at steps
    change next.removals.Sublist (session.removals ++ [])
    rw [List.append_nil]
    cases steps.2
    exact removals_sublist rfl rfl
  | tracksLoaded | showScreen | steer | filter | applyCatalog | answered =>
    cases steps
    exact unasked rfl rfl

theorem run_removals (runs : machine.run session actions = some final) :
    final.removals.Sublist
      (session.removals ++
        (asked session actions).map fun question =>
          requestOf question.2) := by
  induction actions generalizing session with
  | nil =>
    cases runs
    exact List.sublist_append_left _ _
  | cons action rest inductionHypothesis =>
    obtain ⟨next, steps, runsRest⟩ := machine.run_cons_eq_some.mp runs
    have isStep : session.step action = some next := steps
    have later := inductionHypothesis runsRest
    rw [asked, isStep, Option.elim_some, List.map_append, ← List.append_assoc]
    exact later.trans ((step_removals isStep).append_right _)

/-- A question is raised while a playlist is open. -/
theorem of_mem_asked (sound : session.view.MarksSound)
    (runs : machine.run session actions = some final)
    {question : PlaylistView × RemovalModal}
    (isAsked : question ∈ asked session actions) :
    question.1.MarksSound ∧ question.1.isNormalPlaylistOpen = true ∧
      question.1.deleteConfirm = some question.2 := by
  induction actions generalizing session with
  | nil => cases isAsked
  | cons action rest inductionHypothesis =>
    obtain ⟨next, steps, runsRest⟩ := machine.run_cons_eq_some.mp runs
    have isStep : session.step action = some next := steps
    rw [asked, isStep, Option.elim_some] at isAsked
    rcases List.mem_append.mp isAsked with now | later
    · cases action with
      | delete =>
        obtain ⟨modal, asks, rfl⟩ :=
          Option.map_eq_some_iff.mp (Option.mem_toList.mp now)
        exact ⟨sound, (guarded_press_eq_some isStep).1, asks⟩
      | _ => cases now
    · exact inductionHypothesis (step_marksSound sound isStep) runsRest later

end MarkSession

theorem keepOutside_congr {Item : Type} {first second : List Nat}
    (same : ∀ position, position ∈ first ↔ position ∈ second)
    (items : List Item) :
    keepOutside first items = keepOutside second items := by
  rw [keepOutside, keepOutside]
  congr 2
  funext entry
  rw [decide_eq_decide, same]

theorem PlaylistRemoveRequest.selects_occurrences
    {references : List PlaylistItemOccurrenceRef} {items : List ResourceUri}
    {position : Nat} :
    (∃ uri, (occurrences references).Selects items uri position) ↔
      position ∈ references.flatMap PlaylistItemOccurrenceRef.positions := by
  rw [List.mem_flatMap]
  constructor
  · rintro ⟨uri, reference, member, rfl, isPosition⟩
    exact ⟨reference, member, isPosition⟩
  · rintro ⟨reference, member, isPosition⟩
    exact ⟨reference.uri, reference, member, rfl, isPosition⟩

section

variable {provider : VersionedProvider} {topology : ProviderTopology}
  {playlists written : PlaylistTable}
  {resolved : ResolvedPlaylist provider topology playlists}
  {entries : PlaylistEntries provider resolved.playlist}
  {items : List PlaylistItemOccurrenceRef} {row removed : Operation}

/-- Rows that were removed held what they were named by. -/
theorem playlistRemove_occurrences
    (succeeded : playlistRemove provider topology resolved entries
      (.occurrences items) row = .ok (written, removed)) :
    (∀ item ∈ items, ∀ position ∈ item.positions,
        resolved.playlist.items[position]? = some item.uri) ∧
      (written.get? resolved.playlist.uri).map ProviderPlaylist.items =
        some (keepOutside
          (items.flatMap PlaylistItemOccurrenceRef.positions)
          resolved.playlist.items) := by
  obtain ⟨plan, shrunk, _, sound, sameUri, shrunkItems, _, _, stored, _⟩ :=
    playlistRemove_eq_ok succeeded
  constructor
  · intro item member position isPosition
    have selects := (sound.selected item.uri position).mpr
      ⟨item, member, rfl, isPosition⟩
    exact sound.holds (position, item.uri) selects
  · have samePositions : ∀ position,
        position ∈ plan.descending.map Prod.fst ↔
          position ∈ items.flatMap PlaylistItemOccurrenceRef.positions := by
      intro position
      rw [sound.mem_positions, PlaylistRemoveRequest.selects_occurrences]
    rw [← sameUri, stored, Option.map_some, shrunkItems,
      keepOutside_congr samePositions]

/-- Rows that a question was about held what it was asked in the view of. -/
theorem PlaylistView.AsksFor.removesExactly {view : PlaylistView}
    (asksFor : view.AsksFor items)
    (succeeded : playlistRemove provider topology resolved entries
      (.occurrences items) row = .ok (written, removed)) :
    (∀ position ∈ view.selectedPlaylistOccurrencePositions, ∃ uri,
        view.Shows position uri ∧
          resolved.playlist.items[position]? = some uri) ∧
      (written.get? resolved.playlist.uri).map ProviderPlaylist.items =
        some (keepOutside view.selectedPlaylistOccurrencePositions
          resolved.playlist.items) := by
  obtain ⟨held, kept⟩ := playlistRemove_occurrences succeeded
  constructor
  · intro position isSelected
    obtain ⟨item, member, isPosition⟩ := List.mem_flatMap.mp
      (asksFor.positions.mem_iff.mpr isSelected)
    exact ⟨item.uri, asksFor.shown item member position isPosition,
      held item member position isPosition⟩
  · rw [kept, keepOutside_congr fun _ => asksFor.positions.mem_iff]

end

/-- In every run, each removal that is sent was asked for by a press of the
delete key of its own, in this order, while a playlist was open.  If the daemon
carries it out, whatever happened in between, then every row that was selected
in the view of the question still held what the view showed there, and exactly
these rows are gone. -/
theorem sent_removals_exact {session : MarkSession}
    {actions : List MarkAction}
    (runs : MarkSession.machine.run MarkSession.initial actions =
      some session) :
    session.sent.reverse.Sublist
        ((MarkSession.asked MarkSession.initial actions).map
          fun question => MarkSession.requestOf question.2) ∧
      ∀ question ∈ MarkSession.asked MarkSession.initial actions,
        question.1.isNormalPlaylistOpen = true ∧
        question.1.selectedPlaylistId = some question.2.playlist ∧
        ∀ {provider : VersionedProvider} {topology : ProviderTopology}
          {playlists written : PlaylistTable}
          {resolved : ResolvedPlaylist provider topology playlists}
          {entries : PlaylistEntries provider resolved.playlist}
          {row removed : Operation},
          playlistRemove provider topology resolved entries
              (.occurrences question.2.items) row = .ok (written, removed) →
            (∀ position ∈ question.1.selectedPlaylistOccurrencePositions,
              ∃ uri, question.1.Shows position uri ∧
                resolved.playlist.items[position]? = some uri) ∧
            (written.get? resolved.playlist.uri).map ProviderPlaylist.items =
              some (keepOutside
                question.1.selectedPlaylistOccurrencePositions
                resolved.playlist.items) := by
  have sound : MarkSession.initial.view.MarksSound :=
    PlaylistView.marksSound_of_empty rfl
  refine ⟨?_, fun question isAsked => ?_⟩
  · have sentOrPending := MarkSession.run_removals runs
    exact (List.sublist_append_left _ _).trans sentOrPending
  · obtain ⟨_, isOpen, asks⟩ := MarkSession.of_mem_asked sound runs isAsked
    obtain ⟨sameId, asksFor, _⟩ := PlaylistView.deleteConfirm_eq_some asks
    refine ⟨isOpen, sameId, ?_⟩
    intro provider topology playlists written resolved entries row removed
      succeeded
    exact asksFor.removesExactly succeeded

/-- The rows are loaded again, in another order, before the question about the
hidden marks is answered; the provider still has them in the old one. -/
theorem sent_removals_exact_reloaded :
    ∃ session, ∃ question : PlaylistView × RemovalModal, ∃ written removed,
      MarkSession.machine.run MarkSession.initial
          (MarkSession.markedRun ++
            [.delete, .tracksLoaded "fake:playlist:mix" "Mix"
              [MediaItem.stub "fake:track:two"], .confirm]) =
        some session ∧
      session.sent = [MarkSession.requestOf question.2] ∧
      playlistRemove fakeProvider fakeTopology
          (resolvedFakePlaylist
            [fakeTrack "one" (by decide), fakeTrack "two" (by decide),
              fakeTrack "one" (by decide)] (some "v1"))
          (fakeEntries _) (.occurrences question.2.items) fakeAddRow =
        .ok (written, removed) ∧
      (written.get? (fakePlaylist [] none).uri).map ProviderPlaylist.items =
        some [fakeTrack "two" (by decide)] := by
  let actions := MarkSession.markedRun ++
    [.delete, .tracksLoaded "fake:playlist:mix" "Mix"
      [MediaItem.stub "fake:track:two"], .confirm]
  let rows := [fakeTrack "one" (by decide), fakeTrack "two" (by decide),
    fakeTrack "one" (by decide)]
  have reached : (MarkSession.machine.run MarkSession.initial actions).any
      (fun session => decide (session.sent.length = 1)) = true := by
    decide +kernel
  have isAlone : (MarkSession.asked MarkSession.initial actions).length = 1 :=
    by decide +kernel
  have removable : (MarkSession.asked MarkSession.initial actions).all
      (fun question =>
        decide (question.1.selectedPlaylistOccurrencePositions = [0, 2]) &&
          (playlistRemove fakeProvider fakeTopology
            (resolvedFakePlaylist rows (some "v1")) (fakeEntries _)
            (.occurrences question.2.items) fakeAddRow).isOk) = true := by
    decide +kernel
  obtain ⟨session, runs, isSent⟩ := (Option.any_eq_true _ _).mp reached
  obtain ⟨question, alone⟩ := List.length_eq_one_iff.mp isAlone
  obtain ⟨sublist, exactly⟩ := sent_removals_exact runs
  rw [alone] at sublist exactly removable
  simp only [List.all_cons, List.all_nil, Bool.and_true, Bool.and_eq_true,
    decide_eq_true_eq] at removable isSent
  have sent : session.sent.reverse = [MarkSession.requestOf question.2] :=
    sublist.eq_of_length (by rw [List.length_reverse, isSent]; rfl)
  cases removes : playlistRemove fakeProvider fakeTopology
      (resolvedFakePlaylist rows (some "v1")) (fakeEntries _)
      (.occurrences question.2.items) fakeAddRow with
  | error failure =>
    rw [removes] at removable
    cases removable.2
  | ok result =>
    have kept := ((exactly question List.mem_cons_self).2.2 removes).2
    rw [removable.1] at kept
    exact ⟨session, question, result.1, result.2, runs,
      List.reverse_injective sent, removes, kept⟩

end Spotuify
