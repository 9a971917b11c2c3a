import Spotuify.UndoSelection

/-!
# The steps of an undo

An undo of one operation or of many records what it acts on, and then takes
the same steps for one member after another.  The updates of the log are
inverted here for rows that are no longer pending, as the members of an undo
are.
-/

namespace Spotuify

theorem Store.pairwise_bulkUndoCandidatesFrom (outer : OperationId)
    (position : Nat) (members : List Operation) :
    (bulkUndoCandidatesFrom outer position members).Pairwise
        (fun first second => first.position ≤ second.position) ∧
      ∀ candidate ∈ bulkUndoCandidatesFrom outer position members,
        candidate.outerOperationId = outer ∧
          position ≤ candidate.position := by
  induction members generalizing position with
  | nil => exact ⟨.nil, List.forall_mem_nil _⟩
  | cons member rest inductionHypothesis =>
    obtain ⟨ordered, later⟩ := inductionHypothesis (position + 1)
    rw [bulkUndoCandidatesFrom, List.pairwise_cons, List.forall_mem_cons]
    refine ⟨⟨?_, ordered⟩, ⟨rfl, Nat.le_refl _⟩, ?_⟩
    · intro candidate isLater
      exact Nat.le_of_succ_le (later candidate isLater).2
    · intro candidate isLater
      exact ⟨(later candidate isLater).1,
        Nat.le_of_succ_le (later candidate isLater).2⟩

theorem Store.map_bulkUndoCandidatesFrom (outer : OperationId)
    (position : Nat) (members : List Operation) :
    (bulkUndoCandidatesFrom outer position members).map
        BulkUndoCandidate.memberOperationId =
      members.map Operation.operationId := by
  induction members generalizing position with
  | nil => rfl
  | cons member rest inductionHypothesis =>
    rw [bulkUndoCandidatesFrom, List.map_cons, inductionHypothesis,
      List.map_cons]

/-- The recorded members of a bulk undo, in position order. -/
def bulkMembers (candidates : List BulkUndoCandidate)
    (outer : OperationId) : List OperationId :=
  ((candidates.filter fun candidate =>
      candidate.outerOperationId = outer).insertionSort
    fun first second => first.position ≤ second.position).map
      BulkUndoCandidate.memberOperationId

theorem Store.operationsForBulkUndoRecovery_eq (store : Store)
    (outer : OperationId) :
    store.operationsForBulkUndoRecovery outer =
      (bulkMembers store.bulkUndoCandidates outer).filterMap
        store.operations.get? := by
  rw [operationsForBulkUndoRecovery, bulkMembers, List.filterMap_map]
  rfl

namespace BodyStep

variable {issuer outer : OperationId} {candidates : List BulkUndoCandidate}

theorem bulkMembers_recordCandidates (members : List Operation) :
    bulkMembers ((recordCandidates members).candidatesAfter issuer candidates)
        issuer =
      members.map Operation.operationId := by
  obtain ⟨ordered, own⟩ :=
    Store.pairwise_bulkUndoCandidatesFrom issuer 0 members
  have others : (candidates.filter fun candidate =>
      candidate.outerOperationId ≠ issuer).filter (fun candidate =>
        candidate.outerOperationId = issuer) = [] := by
    simp [List.filter_filter]
  have all : (Store.bulkUndoCandidatesFrom issuer 0 members).filter
      (fun candidate => candidate.outerOperationId = issuer) =
        Store.bulkUndoCandidatesFrom issuer 0 members := by
    simpa using fun candidate member => (own candidate member).1
  rw [bulkMembers, candidatesAfter, List.filter_append, others, all,
    List.nil_append, ordered.insertionSort_eq,
    Store.map_bulkUndoCandidatesFrom]

theorem bulkMembers_candidatesAfter_of_ne (step : BodyStep)
    (different : outer ≠ issuer) :
    bulkMembers (step.candidatesAfter issuer candidates) outer =
      bulkMembers candidates outer := by
  cases step with
  | recordCandidates members =>
    have others : (Store.bulkUndoCandidatesFrom issuer 0 members).filter
        (fun candidate => candidate.outerOperationId = outer) = [] := by
      obtain ⟨-, own⟩ :=
        Store.pairwise_bulkUndoCandidatesFrom issuer 0 members
      rw [List.filter_eq_nil_iff]
      intro candidate member
      rw [(own candidate member).1]
      simpa using different.symm
    have kept : (candidates.filter fun candidate =>
        candidate.outerOperationId ≠ issuer).filter (fun candidate =>
          candidate.outerOperationId = outer) =
        candidates.filter fun candidate =>
          candidate.outerOperationId = outer := by
      rw [List.filter_filter]
      apply List.filter_congr
      intro candidate _
      by_cases same : candidate.outerOperationId = outer
      · simp [same, different]
      · simp [same]
    rw [bulkMembers, candidatesAfter, List.filter_append, others, kept,
      List.append_nil, bulkMembers]
  | _ => rfl

theorem bulkMembers_candidatesAfter_of_plain {step : BodyStep}
    (plain : ∀ members, step ≠ .recordCandidates members) :
    step.candidatesAfter issuer candidates = candidates := by
  cases step with
  | recordCandidates members => exact absurd rfl (plain members)
  | _ => rfl

end BodyStep

/-- An undo reverses its members one after another, once they were linked to
it. -/
structure RecordedMutation.Reverses (recorded : RecordedMutation)
    (header : BodyStep) (members : List Operation) : Prop where
  lane : mutationLaneKind recorded.request = some .operation
  body : recorded.body = header :: members.flatMap undoSingleSteps
  links : (header = .recordCandidates members ∧
      ∀ member ∈ members, member.isOffered = true) ∨
    ∃ selected, members = [selected] ∧
      header = .linkSubject selected.operationId ∧
        recorded.initialReversalPlan = some (.redo selected.operationId)

/-- A step that belongs to no undo. -/
def BodyStep.isForward : BodyStep → Bool
  | .recordCandidates _ | .checkReversal _ | .sendReversal _
  | .awaitReversal _ | .markUndone _ | .linkSubject _ => false
  | _ => true

/-- Forward handlers record their request, and take forward steps only. -/
theorem HandlerReads.forward_of_recordForward {reads : HandlerReads}
    {topology : ProviderTopology} {request : Request}
    {recorded : RecordedMutation}
    (records : reads.recordForward topology request = some recorded) :
    recorded.request = request ∧
      recorded.body.all BodyStep.isForward = true := by
  cases request with
  | playlistAddItems playlist uris provider =>
    simp only [recordForward, Option.ite_none_right_eq_some] at records
    cases records.2
    exact ⟨rfl, rfl⟩
  | playlistRemoveItems playlist uris provider =>
    simp only [recordForward, Option.ite_none_right_eq_some] at records
    cases records.2
    unfold playlistRemove
    cases reads.postVersion <;> exact ⟨rfl, rfl⟩
  | playlistRemoveOccurrences playlist items provider =>
    simp only [recordForward, Option.ite_none_right_eq_some] at records
    cases records.2
    unfold playlistRemove
    cases reads.postVersion <;> exact ⟨rfl, rfl⟩
  | playlistCreate name description uris provider =>
    cases records
    unfold playlistCreate
    cases uris.isEmpty <;> exact ⟨rfl, rfl⟩
  | librarySave uri current =>
    cases records
    unfold librarySave
    cases reads.resolvedSave uri current <;> exact ⟨rfl, rfl⟩
  | radioStart seedUri dryRun =>
    cases dryRun with
    | true => cases records
    | false =>
      cases records
      exact ⟨rfl, rfl⟩
  | opsUndo => cases records
  | opsRedo => cases records
  | _ =>
    cases records
    exact ⟨rfl, rfl⟩

/-- What is recorded is an undo of some members, or takes no step of an undo
but the link of a redo. -/
theorem Store.Records.reverses {store : Store} {topology : ProviderTopology}
    {reads : HandlerReads} {request : Request} {recorded : RecordedMutation}
    (records : store.Records topology reads request recorded) :
    (∃ header members, recorded.Reverses header members ∧
        members.Nodup ∧ ∀ member ∈ members,
          store.operations.get? member.operationId = some member) ∨
      ∀ step ∈ recorded.body, step.isForward = true ∨
        (∃ subject, step = .linkSubject subject) ∧
          recordedKind recorded.request ≠ .undo := by
  cases records with
  | undo found selects =>
    exact Or.inl ⟨_, _, ⟨rfl, rfl, Or.inr ⟨_, rfl, rfl, rfl⟩⟩,
      List.nodup_singleton _, by simpa using found⟩
  | bulkUndo found window =>
    refine Or.inl ⟨_, _, ⟨rfl, rfl, Or.inl ⟨rfl, ?_⟩⟩, window.1, found⟩
    intro member isMember
    exact ((window.2.1 member).mp isMember).2.1
  | redo found selects =>
    right
    intro step member
    simp only [recordRedo, List.mem_cons, List.not_mem_nil, or_false] at member
    rcases member with rfl | rfl | rfl | rfl
    · exact Or.inl rfl
    · exact Or.inr ⟨⟨_, rfl⟩, by simp [recordRedo, recordedKind]⟩
    · exact Or.inl rfl
    · exact Or.inl rfl
  | forward records =>
    right
    intro step member
    exact Or.inl (List.all_eq_true.mp
      (HandlerReads.forward_of_recordForward records).2 step member)

theorem flatMap_eq_append_cons {Member Step : Type} {members : List Member}
    {steps : Member → List Step} {before after : List Step} {step : Step}
    (split : members.flatMap steps = before ++ step :: after) :
    ∃ earlier member later inner rest,
      members = earlier ++ member :: later ∧
        steps member = inner ++ step :: rest ∧
          before = earlier.flatMap steps ++ inner := by
  induction members generalizing before with
  | nil => simp at split
  | cons first others inductionHypothesis =>
    rw [List.flatMap_cons, List.append_eq_append_iff] at split
    rcases split with ⟨later, rfl, split⟩ | ⟨inner, isFirst, split⟩
    · obtain ⟨earlier, member, last, inner, rest, rfl, isStep, rfl⟩ :=
        inductionHypothesis split
      exact ⟨first :: earlier, member, last, inner, rest, rfl, isStep,
        by simp⟩
    · cases inner with
      | nil =>
        obtain ⟨earlier, member, last, inner, rest, rfl, isStep, nothing⟩ :=
          @inductionHypothesis [] split.symm
        refine ⟨first :: earlier, member, last, inner, rest, rfl, isStep, ?_⟩
        rw [List.flatMap_cons, List.append_assoc, ← nothing, isFirst,
          List.append_nil, List.append_nil]
      | cons head tail =>
        rw [List.cons_append, List.cons.injEq] at split
        obtain ⟨rfl, -⟩ := split
        exact ⟨[], first, others, before, tail, rfl, isFirst, rfl⟩

/-- The steps that undo one member, each after the ones before. -/
theorem undoSingleSteps_eq_append_cons {member : Operation}
    {inner rest : List BodyStep} {step : BodyStep}
    (split : undoSingleSteps member = inner ++ step :: rest) :
    (inner = [] ∧ step = .checkReversal member) ∨
      (inner = [.checkReversal member] ∧
        step = .sendReversal member.operationId) ∨
      (inner = [.checkReversal member, .sendReversal member.operationId] ∧
        step = .awaitReversal member.operationId) ∨
      (inner = [.checkReversal member, .sendReversal member.operationId,
          .awaitReversal member.operationId] ∧
        step = .markUndone member.operationId) := by
  rcases inner with _ | ⟨first, _ | ⟨second, _ | ⟨third, _ | ⟨fourth, inner⟩⟩⟩⟩
  all_goals simp_all [undoSingleSteps]

/-- The next step of an undo is the link of its members, or a step that
undoes one of them after those before were undone. -/
theorem RecordedMutation.Reverses.next {recorded : RecordedMutation}
    {header step : BodyStep} {members : List Operation}
    {before rest : List BodyStep} (reverses : recorded.Reverses header members)
    (ran : recorded.body = before ++ step :: rest) :
    (before = [] ∧ step = header) ∨
      ∃ earlier member later inner last,
        members = earlier ++ member :: later ∧
          undoSingleSteps member = inner ++ step :: last ∧
            before = header :: (earlier.flatMap undoSingleSteps ++ inner) := by
  rw [reverses.body] at ran
  cases before with
  | nil =>
    rw [List.nil_append, List.cons.injEq] at ran
    exact Or.inl ⟨rfl, ran.1.symm⟩
  | cons first others =>
    rw [List.cons_append, List.cons.injEq] at ran
    obtain ⟨rfl, split⟩ := ran
    obtain ⟨earlier, member, later, inner, last, all, isStep, rfl⟩ :=
      flatMap_eq_append_cons split
    exact Or.inr ⟨earlier, member, later, inner, last, all, isStep, rfl⟩

namespace LogUpdate

variable {issuer : OperationId} {update : LogUpdate} {row : Operation}

/-- What an update can make of a row that is not pending. -/
theorem rowAfter_of_ended (ended : row.status ≠ .pending) :
    update.rowAfter issuer row = row ∨
      (update = .undone row.operationId ∧ row.status = .succeeded ∧
        update.rowAfter issuer row =
          { row with status := .undone, undoneByOpId := some issuer }) ∨
      (update = .redone row.operationId ∧ row.status = .undone ∧
        update.rowAfter issuer row =
          { row with status := .redone, redoneByOpId := some issuer }) ∨
      (update = .disable row.operationId ∧
        update.rowAfter issuer row =
          { row with
            reversible := false,
            reversalPlan :=
              some (.notReversible Store.partialReversalReason) }) := by
  have refused : row.isPending = false := by
    simp [Operation.isPending, ended]
  unfold rowAfter
  split
  · rename_i selected
    obtain ⟨own, guarded⟩ := selected
    right
    cases update with
    | undone original =>
      exact Or.inl ⟨congrArg _ own.symm, by simpa [guard] using guarded, rfl⟩
    | redone original =>
      exact Or.inr (Or.inl ⟨congrArg _ own.symm,
        by simpa [guard] using guarded, rfl⟩)
    | disable original => exact Or.inr (Or.inr ⟨congrArg _ own.symm, rfl⟩)
    | _ => simp [guard, refused] at guarded
  · exact Or.inl rfl

/-- A row that succeeded stays so until it is undone. -/
theorem succeeded_rowAfterAll {updates : List LogUpdate}
    (succeeded : row.status = .succeeded)
    (notUndone : .undone row.operationId ∉ updates) :
    (rowAfterAll issuer row updates).status = .succeeded := by
  have kept := @rowAfterAll_induction issuer
    (fun after => after.operationId = row.operationId ∧
      after.status = .succeeded) updates ?_ row ⟨rfl, succeeded⟩
  · exact kept.2
  · rintro update member after ⟨own, succeeded⟩
    rw [rowAfter_operationId]
    refine ⟨own, ?_⟩
    rcases @rowAfter_of_ended issuer update after (by simp [succeeded]) with
      same | ⟨rfl, -, -⟩ | ⟨-, undone, -⟩ | ⟨-, after⟩
    · rw [same, succeeded]
    · rw [own] at member
      exact absurd member notUndone
    · rw [succeeded] at undone
      cases undone
    · rw [after, succeeded]

theorem ended_rowAfterAll {updates : List LogUpdate}
    (ended : row.status ≠ .pending) :
    (rowAfterAll issuer row updates).status ≠ .pending :=
  fun pending => ended (pending_of_rowAfterAll pending)

/-- A row is marked as undone by the update that does it, or it was
before. -/
theorem undoneByOpId_rowAfter {other : OperationId}
    (marked : (update.rowAfter issuer row).undoneByOpId = some other) :
    row.undoneByOpId = some other ∨
      (update = .undone row.operationId ∧ other = issuer ∧
        (update.rowAfter issuer row).status = .undone) := by
  unfold rowAfter at marked ⊢
  split
  · rename_i selected
    rw [if_pos selected] at marked
    cases update with
    | undone original =>
      right
      exact ⟨congrArg _ selected.1.symm, (Option.some.inj marked).symm, rfl⟩
    | _ => exact Or.inl marked
  · rename_i unselected
    rw [if_neg unselected] at marked
    exact Or.inl marked

/-- A row is linked by the update that does it, or it was before. -/
theorem subjectOpId_rowAfterAll {updates : List LogUpdate}
    {subject : OperationId}
    (linked : (rowAfterAll issuer row updates).subjectOpId = some subject) :
    row.subjectOpId = some subject ∨
      (.subject subject ∈ updates ∧ row.operationId = issuer) := by
  induction updates generalizing row with
  | nil => exact Or.inl linked
  | cons update rest inductionHypothesis =>
    rcases inductionHypothesis linked with later | ⟨member, own⟩
    · unfold rowAfter at later
      split at later
      · rename_i selected
        cases update with
        | subject original =>
          cases later
          exact Or.inr ⟨List.mem_cons_self, selected.1⟩
        | _ => exact Or.inl later
      · exact Or.inl later
    · rw [rowAfter_operationId] at own
      exact Or.inr ⟨List.mem_cons_of_mem _ member, own⟩

section Endings

variable {recovery : Option PartialOperationRecovery}
  {status : OperationStatus} {finishedAtMs : Int} {error : Option String}
  {guard : Option PostWriteOperationGuard} {target : OperationId}

theorem undone_notMem_ending :
    .undone target ∉ ending recovery status finishedAtMs error guard := by
  cases recovery <;> rcases guard with _ | _ | _ <;> simp [ending, ofGuard]

theorem subject_notMem_ending :
    .subject target ∉ ending recovery status finishedAtMs error guard := by
  cases recovery <;> rcases guard with _ | _ | _ <;> simp [ending, ofGuard]

theorem disable_mem_ending :
    .disable target ∈ ending recovery status finishedAtMs error guard ↔
      guard = some (.disableUndo target) := by
  cases recovery <;> rcases guard with _ | _ | _ <;>
    simp [ending, ofGuard, eq_comm]

/-- An operation that was ended is over. -/
theorem ended_rowAfterAll_ending (terminal : status ≠ .pending)
    (own : row.operationId = issuer) :
    (rowAfterAll issuer row
      (ending recovery status finishedAtMs error guard)).status ≠
        .pending := by
  rw [ending, rowAfterAll_append, rowAfterAll]
  apply ended_rowAfterAll
  have sameId := rowAfterAll_operationId issuer
    (recovery.map LogUpdate.retain).toList row
  unfold rowAfter
  split
  · exact terminal
  · rename_i unselected
    intro pending
    exact unselected ⟨sameId.trans own,
      Operation.isPending_eq_true.mpr pending⟩

end Endings

end LogUpdate

end Spotuify
