import Spotuify.ClaimLinks
import Spotuify.SeedMerges
import Spotuify.UndoSelection

/-!
# Recovery ends every claim but a refused redo

A claim that is still processing after its body is gone is ended with what can
be derived from its rows: the seeds of the domains it may have left stale and
the guard of the operation that it acted on.  The rows always suffice, but the
guard of a redo is refused when the operation to be redone is not undone.
-/

namespace Spotuify

/-- Some text of a list names a resource. -/
def NamesResource (values : List String) : Prop :=
  ∃ value ∈ values, ∃ uri, ResourceUri.parse value = .ok uri

theorem namesResource_iff {values : List String} :
    NamesResource values ↔ (firstResource values).isSome = true := by
  induction values with
  | nil => simp [NamesResource, firstResource]
  | cons value rest inductionHypothesis =>
    unfold NamesResource at inductionHypothesis ⊢
    simp only [List.mem_cons, exists_eq_or_imp, inductionHypothesis,
      firstResource]
    cases ResourceUri.parse value with
    | ok uri => simp
    | error failure => simp

theorem NamesResource.mono {values more : List String}
    (names : NamesResource values) (subset : values ⊆ more) :
    NamesResource more := by
  obtain ⟨value, member, parses⟩ := names
  exact ⟨value, subset member, parses⟩

/-- The items of a playlist's provider name a resource. -/
theorem ProviderTopology.namesResource_of_arePlaylistItems
    {topology : ProviderTopology} {provider : ProviderId}
    {values : List String}
    (items : topology.arePlaylistItems provider values = true) :
    NamesResource values := by
  obtain ⟨filled, all⟩ := Bool.and_eq_true_iff.mp items
  cases values with
  | nil => cases filled
  | cons value rest =>
    have item := List.all_eq_true.mp all value List.mem_cons_self
    unfold isPlaylistItem at item
    split at item
    · rename_i uri parses
      exact ⟨value, List.mem_cons_self, uri, parses⟩
    · cases item

/-- The kinds whose request names a playlist of items. -/
def OperationKind.changesItems (kind : OperationKind) : Bool :=
  kind == .playlistAdd || kind == .playlistRemove

/-- A change of a playlist's items keeps the items that it was recorded
with. -/
theorem Store.Records.of_changesItems {store : Store}
    {topology : ProviderTopology} {reads : HandlerReads} {request : Request}
    {recorded : RecordedMutation}
    (records : store.Records topology reads request recorded)
    (changes : (recordedKind recorded.request).changesItems = true) :
    NamesResource recorded.subjectUris ∧ recorded.retained = none ∧
      ∀ uris, BodyStep.updateSubjectUris uris ∉ recorded.body := by
  cases records with
  | undo found selects => cases changes
  | bulkUndo found window => cases changes
  | redo found selects => cases changes
  | forward records =>
    cases request with
    | playlistAddItems playlist uris provider =>
      simp only [HandlerReads.recordForward,
        Option.ite_none_right_eq_some] at records
      obtain ⟨items, isRecorded⟩ := records
      cases isRecorded
      refine ⟨ProviderTopology.namesResource_of_arePlaylistItems items, rfl, ?_⟩
      simp [HandlerReads.playlistAdd]
    | playlistRemoveItems playlist uris provider =>
      simp only [HandlerReads.recordForward,
        Option.ite_none_right_eq_some] at records
      obtain ⟨items, isRecorded⟩ := records
      cases isRecorded
      refine ⟨ProviderTopology.namesResource_of_arePlaylistItems items, rfl, ?_⟩
      intro uris
      unfold HandlerReads.playlistRemove
      cases reads.postVersion <;> simp
    | playlistRemoveOccurrences playlist items provider =>
      simp only [HandlerReads.recordForward,
        Option.ite_none_right_eq_some] at records
      obtain ⟨items, isRecorded⟩ := records
      cases isRecorded
      refine ⟨ProviderTopology.namesResource_of_arePlaylistItems items, rfl, ?_⟩
      intro uris
      unfold HandlerReads.playlistRemove
      cases reads.postVersion <;> simp
    | playbackCommand command =>
      cases records
      cases command <;> cases changes
    | radioStart seedUri dryRun =>
      cases dryRun <;> cases records
      cases changes
    | opsUndo => cases records
    | opsRedo => cases records
    | _ =>
      cases records
      cases changes

/-- The operation a request asks for by its id is in the log. -/
def Request.Names (operations : OperationTable) : Request → Prop
  | .opsUndo (some requested) _ _ _ | .opsRedo (some requested) =>
    (operations.get? requested).isSome = true
  | _ => True

theorem Request.Names.mono {operations next : OperationTable}
    {request : Request} (names : request.Names operations)
    (keeps : ∀ target, (operations.get? target).isSome = true →
      (next.get? target).isSome = true) : request.Names next := by
  unfold Names at names ⊢
  split
  · exact keeps _ names
  · exact keeps _ names
  · trivial

/-- What is recorded names operations of the log. -/
theorem Store.Records.names {store : Store} {topology : ProviderTopology}
    {reads : HandlerReads} {request : Request} {recorded : RecordedMutation}
    (records : store.Records topology reads request recorded) :
    recorded.request.Names store.operations := by
  have selectsOwn : ∀ {requested : OperationId} {selected : Operation},
      store.operations.get? selected.operationId = some selected →
        selected.operationId = requested →
          (store.operations.get? requested).isSome = true := by
    intro requested selected found same
    rw [← same, found]
    rfl
  cases records with
  | @undo operationId force selected found selects =>
    cases operationId with
    | none => trivial
    | some requested => exact selectsOwn found (of_decide_eq_true selects)
  | bulkUndo found window => trivial
  | @redo operationId selected found selects =>
    cases operationId with
    | none => trivial
    | some requested =>
      simp only [Store.redoSelects, Bool.and_eq_true] at selects
      exact selectsOwn found (of_decide_eq_true selects.1.1)
  | forward records =>
    cases request with
    | opsUndo => cases records
    | opsRedo => cases records
    | playlistAddItems playlist uris provider =>
      simp only [HandlerReads.recordForward,
        Option.ite_none_right_eq_some] at records
      cases records.2
      trivial
    | playlistRemoveItems playlist uris provider =>
      simp only [HandlerReads.recordForward,
        Option.ite_none_right_eq_some] at records
      cases records.2
      trivial
    | playlistRemoveOccurrences playlist items provider =>
      simp only [HandlerReads.recordForward,
        Option.ite_none_right_eq_some] at records
      cases records.2
      trivial
    | radioStart seedUri dryRun =>
      cases dryRun <;> cases records
      trivial
    | _ =>
      cases records
      trivial

namespace LogUpdate

/-- The updates that replace the subjects of a row. -/
def replacesSubjects : LogUpdate → Bool
  | .subjectUris _ | .retain _ => true
  | _ => false

theorem subjectUris_rowAfterAll {issuer : OperationId}
    {updates : List LogUpdate} {row : Operation}
    (keeps : row.operationId = issuer →
      ∀ update ∈ updates, update.replacesSubjects = false) :
    (rowAfterAll issuer row updates).subjectUris = row.subjectUris := by
  induction updates generalizing row with
  | nil => rfl
  | cons update rest inductionHypothesis =>
    have first : (update.rowAfter issuer row).subjectUris =
        row.subjectUris := by
      unfold rowAfter
      split
      · rename_i selected
        cases update with
        | subjectUris uris =>
          exact absurd (keeps selected.1 _ List.mem_cons_self) nofun
        | retain recovery =>
          exact absurd (keeps selected.1 _ List.mem_cons_self) nofun
        | _ => rfl
      · rfl
    rw [rowAfterAll, inductionHypothesis, first]
    intro own update member
    rw [rowAfter_operationId] at own
    exact keeps own update (List.mem_cons_of_mem _ member)

theorem ending_keepsSubjects {status : OperationStatus} {finishedAtMs : Int}
    {error : Option String} {guard : Option PostWriteOperationGuard} :
    ∀ update ∈ ending none status finishedAtMs error guard,
      update.replacesSubjects = false := by
  intro update member
  rcases List.mem_cons.mp member with rfl | member
  · rfl
  · cases guard with
    | none => cases member
    | some guard =>
      cases List.mem_singleton.mp member
      cases guard <;> rfl

end LogUpdate

/-- The rows that a recovery reads hold what it needs. -/
structure MutationSystem.Recoverable (topology : ProviderTopology)
    (system : MutationSystem) : Prop where
  linked : system.Linked topology
  kinds : ∀ mutationId row, system.store.mutationDedup.get? mutationId =
    some row → ∀ issuer, row.operationId = some issuer →
      ∀ operation, system.store.operations.get? issuer = some operation →
        operation.kind = recordedKind row.request
  taskKinds : ∀ task ∈ system.tasks, ∀ operation,
    system.store.operations.get? task.operationId = some operation →
      operation.kind = recordedKind task.recorded.request
  names : ∀ mutationId row, system.store.mutationDedup.get? mutationId =
    some row → row.request.Names system.store.operations
  items : ∀ target operation,
    system.store.operations.get? target = some operation →
      operation.kind.changesItems = true →
        NamesResource operation.subjectUris

namespace MutationSystem

variable {topology : ProviderTopology} {system next : MutationSystem}

/-- The updates of one operation keep what recoveries read, when they keep the
items of a playlist's change. -/
theorem Recoverable.of_updates (recoverable : system.Recoverable topology)
    (linked : next.Linked topology)
    (bindings : ∀ mutationId,
      (next.store.mutationDedup.get? mutationId).map
          MutationDedupRow.claimBinding =
        (system.store.mutationDedup.get? mutationId).map
          MutationDedupRow.claimBinding)
    (tasks : ∀ task ∈ next.tasks, ∃ before ∈ system.tasks,
      task.operationId = before.operationId ∧ task.recorded = before.recorded)
    {issuer : OperationId} {updates : List LogUpdate}
    (applied : next.store.operations =
      LogUpdate.applyAll issuer system.store.operations updates)
    (keeps : ∀ operation,
      system.store.operations.get? issuer = some operation →
        operation.kind.changesItems = true →
          ∀ update ∈ updates, update.replacesSubjects = false) :
    next.Recoverable topology := by
  have before : ∀ target operation,
      next.store.operations.get? target = some operation →
        ∃ row, system.store.operations.get? target = some row ∧
          LogUpdate.rowAfterAll issuer row updates = operation := by
    intro target operation found
    rw [applied] at found
    exact (LogUpdate.get?_applyAll_eq_some issuer).mp found
  have claimBefore : ∀ mutationId row,
      next.store.mutationDedup.get? mutationId = some row →
        ∃ before, system.store.mutationDedup.get? mutationId = some before ∧
          before.claimBinding = row.claimBinding := by
    intro mutationId row found
    have same := bindings mutationId
    rw [found, Option.map_some, eq_comm, Option.map_eq_some_iff] at same
    exact same
  refine ⟨linked, ?_, ?_, ?_, ?_⟩
  · intro mutationId row found issuer operationEq operation isOperation
    obtain ⟨claim, isClaim, same⟩ := claimBefore mutationId row found
    simp only [MutationDedupRow.claimBinding, Prod.mk.injEq] at same
    obtain ⟨old, isOld, rfl⟩ := before issuer operation isOperation
    rw [LogUpdate.rowAfterAll_kind, ← same.1]
    exact recoverable.kinds mutationId claim isClaim issuer
      (same.2.2.trans operationEq) old isOld
  · intro task live operation isOperation
    obtain ⟨wasTask, wasLive, sameOperation, sameRecorded⟩ := tasks task live
    obtain ⟨old, isOld, rfl⟩ := before _ operation isOperation
    rw [LogUpdate.rowAfterAll_kind, sameRecorded]
    rw [sameOperation] at isOld
    exact recoverable.taskKinds wasTask wasLive old isOld
  · intro mutationId row found
    obtain ⟨claim, isClaim, same⟩ := claimBefore mutationId row found
    simp only [MutationDedupRow.claimBinding, Prod.mk.injEq] at same
    rw [← same.1]
    apply (recoverable.names mutationId claim isClaim).mono
    intro target present
    rw [applied, LogUpdate.get?_applyAll_isSome]
    exact present
  · intro target operation isOperation changes
    obtain ⟨old, isOld, rfl⟩ := before target operation isOperation
    rw [LogUpdate.rowAfterAll_kind] at changes
    rw [LogUpdate.subjectUris_rowAfterAll]
    · exact recoverable.items target old isOld changes
    · intro own
      apply keeps old _ changes
      rw [← own, SqlTable.key_of_get? isOld]
      exact isOld

/-- Recoveries read nothing of the tasks. -/
theorem Recoverable.of_store (recoverable : system.Recoverable topology)
    (linked : next.Linked topology) (same : next.store = system.store)
    (tasks : ∀ task ∈ next.tasks, ∃ before ∈ system.tasks,
      task.operationId = before.operationId ∧
        task.recorded = before.recorded) : next.Recoverable topology :=
  @Recoverable.of_updates topology system next recoverable linked
    (fun _ => by rw [same]) tasks ⟨0⟩ [] (by rw [same]; rfl)
    (fun _ _ _ _ member => absurd member List.not_mem_nil)

theorem Recoverable.initial : Recoverable topology MutationSystem.initial where
  linked := Linked.initial
  kinds mutationId row found := by
    rw [MutationSystem.initial] at found
    cases found
  taskKinds _ live := absurd live List.not_mem_nil
  names mutationId row found := by
    rw [MutationSystem.initial] at found
    cases found
  items target operation found := by
    rw [MutationSystem.initial] at found
    cases found

/-- The steps of a change of a playlist's items keep the items. -/
theorem Recoverable.keeps_items (recoverable : system.Recoverable topology)
    {task : MutationTask} (live : task ∈ system.tasks) {operation : Operation}
    (found : system.store.operations.get? task.operationId = some operation)
    (changes : operation.kind.changesItems = true) :
    task.recorded.retained = none ∧
      ∀ uris, BodyStep.updateSubjectUris uris ∉ task.recorded.body := by
  rw [recoverable.taskKinds task live operation found] at changes
  obtain ⟨store, reads, request, records⟩ :=
    (recoverable.linked.apart.wellRun task live).recorded
  exact (records.of_changesItems changes).2

theorem Recoverable.starts (recoverable : system.Recoverable topology)
    {mutationId : Option MutationId} {fingerprint : String}
    {request : Request} {reads : HandlerReads}
    {recorded : RecordedMutation} {source : OperationSource} {nowMs : Int}
    {store : Store}
    (linked : (system.started mutationId recorded store).Linked topology)
    (free : mutationId.bind system.store.mutationDedup.get? = none)
    (records : system.store.Records topology reads request recorded)
    (pending : system.store.recordPending mutationId fingerprint
      recorded.request (recorded.pendingReceipt ⟨system.minted⟩ nowMs)
      (recorded.pendingOperation ⟨system.minted⟩ ⟨system.minted⟩ source
        nowMs) nowMs = .ok store) :
    (system.started mutationId recorded store).Recoverable topology := by
  obtain ⟨receipts, operations, mutationDedup, rfl, -, inserted, reads⟩ :=
    Store.recordPending_eq_ok free pending
  have isNew := SqlTable.get?_insert inserted
  have keepsOld : ∀ target, (system.store.operations.get? target).isSome =
      true → (operations.get? target).isSome = true := by
    intro target present
    rw [isNew]
    split
    · rfl
    · exact present
  refine ⟨linked, ?_, ?_, ?_, ?_⟩
  · intro other row found issuer operationEq operation isOperation
    have found := (reads other).symm.trans found
    have isOperation := (isNew issuer).symm.trans isOperation
    split at found
    · cases found
      cases operationEq
      rw [if_pos rfl] at isOperation
      cases isOperation
      rfl
    · rw [if_neg] at isOperation
      · exact recoverable.kinds other row found issuer operationEq operation
          isOperation
      · rintro rfl
        obtain ⟨number, bound, -, numberEq⟩ :=
          recoverable.linked.claims other row found
        cases operationEq.symm.trans numberEq
        exact Nat.lt_irrefl _ bound
  · intro task live operation isOperation
    have isOperation := (isNew task.operationId).symm.trans isOperation
    rcases List.mem_append.mp live with old | isStarted
    · rw [if_neg] at isOperation
      · exact recoverable.taskKinds task old operation isOperation
      · intro same
        have bound := (recoverable.linked.apart.wellRun task old).minted
        rw [same] at bound
        exact Nat.lt_irrefl _ bound
    · cases List.mem_singleton.mp isStarted
      rw [if_pos] at isOperation
      · cases isOperation
        rfl
      · rfl
  · intro other row found
    have found := (reads other).symm.trans found
    split at found
    · cases found
      exact records.names.mono keepsOld
    · exact (recoverable.names other row found).mono keepsOld
  · intro target operation isOperation changes
    have isOperation := (isNew target).symm.trans isOperation
    split at isOperation
    · cases isOperation
      exact (records.of_changesItems changes).1
    · exact recoverable.items target operation isOperation changes

theorem Recoverable.step (recoverable : system.Recoverable topology)
    (steps : Steps topology system next) : next.Recoverable topology := by
  have linked := recoverable.linked.step steps
  cases steps with
  | starts lane free records pending =>
    exact recoverable.starts linked free (Store.record_records records) pending
  | @performs task step rest store live running isNext maySucceed performs =>
    obtain ⟨rfl, -⟩ := BodyStep.perform_eq_ok performs
    refine recoverable.of_updates linked (fun _ => rfl) ?_ rfl ?_
    · intro updated member
      rcases recoverable.linked.apart.of_mem_updateTask live member with
        rfl | ⟨old, -⟩
      · exact ⟨_, live, rfl, rfl⟩
      · exact ⟨_, old, rfl, rfl⟩
    · intro operation found changes update member
      obtain ⟨-, never⟩ := recoverable.keeps_items live found changes
      have inBody : step ∈ task.recorded.body := by
        rw [(recoverable.linked.apart.wellRun task live).ran, isNext]
        exact List.mem_append_right _ List.mem_cons_self
      cases step with
      | updateSubjectUris uris => exact absurd inBody (never uris)
      | _ => simp_all [BodyStep.updates, LogUpdate.replacesSubjects]
  | fails live running isNext carries =>
    apply recoverable.of_store linked rfl
    intro updated member
    rcases recoverable.linked.apart.of_mem_updateTask live member with
      rfl | ⟨old, -⟩
    · exact ⟨_, live, rfl, rfl⟩
    · exact ⟨_, old, rfl, rfl⟩
  | @finalizes task data persists currentItem nowMs store minted live finished
      finalized =>
    have tasks : ∀ other ∈ system.otherTasks task.operationId,
        ∃ before ∈ system.tasks, other.operationId = before.operationId ∧
          other.recorded = before.recorded :=
      fun other member => ⟨other, (mem_otherTasks.mp member).1, rfl, rfl⟩
    rcases finalizedStore_endsOperation recoverable.linked live finalized with
      rfl | ⟨recovery, status, error, guard, endsAs, ends⟩
    · exact recoverable.of_store linked rfl tasks
    · refine recoverable.of_updates linked ends.claims tasks ends.operations ?_
      intro operation found changes
      obtain ⟨nothing, -⟩ := recoverable.keeps_items live found changes
      have noRecovery : recovery = none := by
        cases endsAs with
        | finalized isOwn =>
          have retains := (recoverable.linked.apart.wellRun task live).retains
          rw [nothing] at retains
          exact Option.eq_none_iff_forall_not_mem.mpr fun kept member =>
            Option.not_mem_none kept (retains kept member)
        | indeterminate intent => rfl
      rw [noRecovery]
      exact LogUpdate.ending_keepsSubjects
  | drops operationId =>
    exact recoverable.of_store linked rfl fun other member =>
      ⟨other, (mem_otherTasks.mp member).1, rfl, rfl⟩
  | crashes =>
    exact recoverable.of_store linked rfl fun _ live =>
      absurd live List.not_mem_nil
  | recovers found isClaim notLive recovered =>
    obtain ⟨seeds, guard, -, ends⟩ :=
      recoverProcessingMutationClaim_endsOperation found isClaim recovered
    exact recoverable.of_updates linked ends.claims
      (fun task live => ⟨task, live, rfl, rfl⟩) ends.operations
      fun _ _ _ => LogUpdate.ending_keepsSubjects

theorem Recoverable.of_reachable (reachable : Reachable topology system) :
    system.Recoverable topology :=
  reachable.invariant Recoverable.initial fun _ _ recoverable steps =>
    recoverable.step steps

end MutationSystem

namespace Store

variable {store : Store} {topology : ProviderTopology}

/-- The guard that a recovery derives: of a redo, the redo of its subject; of
an undo, that an operation of the log is not offered again. -/
def DerivesGuard (store : Store) (outer : OperationId)
    (guard : Option PostWriteOperationGuard) : Request → Prop
  | .opsRedo requested => ∃ subject,
      store.recoverySubject outer requested = .ok subject ∧
        guard = subject.map fun subject => .markRedone subject.operationId
  | _ => ∀ derived ∈ guard, ∃ original,
      derived = .disableUndo original ∧
        (store.operations.get? original).isSome = true

theorem get?_of_recoverySubject {outer : OperationId}
    {requested : Option OperationId} {subject : Operation}
    (found : store.recoverySubject outer requested = .ok (some subject)) :
    store.operations.get? subject.operationId = some subject := by
  have isRow : ∃ target, store.operations.get? target = some subject := by
    unfold recoverySubject at found
    split at found
    · rename_i linked isLinked
      cases found
      obtain ⟨row, -, link⟩ := Option.bind_eq_some_iff.mp isLinked
      obtain ⟨target, -, isSubject⟩ := Option.bind_eq_some_iff.mp link
      exact ⟨target, isSubject⟩
    · split at found
      · cases found
      · rename_i requested
        obtain ⟨row, read, result⟩ := Except.bind_eq_ok.mp found
        cases result
        unfold getOperation at read
        split at read
        · rename_i isSubject
          cases read
          exact ⟨_, isSubject⟩
        · cases read
  obtain ⟨target, isSubject⟩ := isRow
  rw [SqlTable.key_of_get? isSubject]
  exact isSubject

theorem recoverySubject_ok {outer : OperationId}
    {requested : Option OperationId}
    (named : ∀ target ∈ requested,
      (store.operations.get? target).isSome = true) :
    ∃ subject, store.recoverySubject outer requested = .ok subject := by
  unfold recoverySubject
  cases store.getSubjectOperation outer with
  | some subject => exact ⟨_, rfl⟩
  | none =>
    cases requested with
    | none => exact ⟨_, rfl⟩
    | some target =>
      obtain ⟨row, found⟩ := Option.isSome_iff_exists.mp (named target rfl)
      refine ⟨some row, ?_⟩
      simp [getOperation, found, bind, Except.bind, pure, Except.pure]

/-- The recovery of an undo or a redo of one operation derives its guard from
the subject. -/
theorem subjectRecovery_ok
    {guard : OperationId → PostWriteOperationGuard} {outer : OperationId}
    {requested : Option OperationId} {subject : Option Operation}
    (configured : ∀ row ∈ store.operations.rows, topology.RoutesOperation row)
    (isSubject : store.recoverySubject outer requested = .ok subject) :
    ∃ seeds, store.subjectRecovery topology guard outer requested =
      .ok (seeds, subject.map fun subject => guard subject.operationId) := by
  unfold subjectRecovery
  rw [isSubject]
  cases subject with
  | none => exact ⟨[], rfl⟩
  | some subject =>
    have inLog := (SqlTable.get?_eq_some.mp
      (get?_of_recoverySubject isSubject)).1
    obtain ⟨seeds, derived⟩ :=
      (@ProviderTopology.operationSeeds_ok_iff topology [] [subject]).mpr
        (by simpa using configured subject inLog)
    refine ⟨seeds, ?_⟩
    simp [derived, bind, Except.bind, pure, Except.pure]

/-- Only a change of a playlist's items names the playlist in its seed. -/
theorem changesItems_of_requestReconciliationTarget {request : Request}
    {target : SyncTarget} {scope : ReconciliationScope} {playlist : String}
    (named : requestReconciliationTarget request =
      some (target, scope, some playlist)) :
    (recordedKind request).changesItems = true := by
  cases request <;> first | rfl | cases named

/-- A change of a playlist's items has a seed of its own. -/
theorem operationSeeds_ne_nil {operation : Operation}
    {seeds : List ReconciliationSeed}
    (changes : operation.kind.changesItems = true)
    (names : NamesResource operation.subjectUris)
    (derived : topology.operationSeeds [] [operation] = .ok seeds) :
    seeds ≠ [] := by
  have target : ∃ both, operationReconciliationTarget operation.kind =
      some both := by
    rcases Bool.or_eq_true_iff.mp changes with kind | kind
    · rw [beq_iff_eq.mp kind]
      exact ⟨_, rfl⟩
    · rw [beq_iff_eq.mp kind]
      exact ⟨_, rfl⟩
  obtain ⟨⟨domain, scope⟩, isTarget⟩ := target
  have all : NamesResource operation.reconciliationUris := by
    apply names.mono
    intro value member
    exact mem_sortedResources.mpr (List.mem_append_left _ member)
  obtain ⟨uri, isFirst⟩ :=
    Option.isSome_iff_exists.mp (namesResource_iff.mp all)
  obtain ⟨seed, seeded, rest⟩ := Except.bind_eq_ok.mp derived
  simp only [ProviderTopology.operationReconciliationSeed, isTarget,
    isFirst] at seeded
  split at seeded
  · cases seeded
  · cases seeded
    cases rest
    simp [mergeReconciliationSeed]

/-- A recovery of a forward mutation derives its seeds, and no guard. -/
theorem recoverySeeds_forward_ok {currentItem : Option String}
    {request : Request} {outer : OperationId} {operation : Operation}
    (configured : topology.RoutesOperation operation)
    (found : store.operations.get? outer = some operation)
    (kind : operation.kind = recordedKind request)
    (items : operation.kind.changesItems = true →
      NamesResource operation.subjectUris)
    (notUndo : ∀ requested dryRun force sinceMs,
      request ≠ .opsUndo requested dryRun force sinceMs)
    (notRedo : ∀ requested, request ≠ .opsRedo requested) :
    ∃ seeds, store.recoverySeeds topology currentItem request outer =
      .ok (seeds, none) := by
  have outerRead : store.getOperation outer = .ok operation := by
    rw [getOperation, found]
  obtain ⟨seeds, derived⟩ :=
    (@ProviderTopology.operationSeeds_ok_iff topology [] [operation]).mpr
      (by simpa using configured)
  have noPlaylist : seeds = [] → ∀ target scope playlist,
      requestReconciliationTarget request =
        some (target, scope, playlist) → playlist = none := by
    intro none target scope playlist named
    cases playlist with
    | none => rfl
    | some playlist =>
      have changes := changesItems_of_requestReconciliationTarget named
      rw [← kind] at changes
      exact absurd none
        (operationSeeds_ne_nil changes (items changes) derived)
  unfold recoverySeeds
  rw [outerRead]
  simp only [bind, Except.bind]
  split
  · exact absurd rfl (notUndo _ _ _ _)
  · exact absurd rfl (notUndo _ _ _ _)
  · exact absurd rfl (notRedo _)
  · rw [derived]
    cases seeds with
    | cons seed rest => exact ⟨_, rfl⟩
    | nil =>
      obtain ⟨seed, requested⟩ :=
        @ProviderTopology.requestReconciliationSeed_ok topology currentItem
          request operation (noPlaylist rfl)
      dsimp only
      rw [requested]
      cases seed with
      | none => exact ⟨[], rfl⟩
      | some seed => exact ⟨mergeReconciliationSeed [] seed, rfl⟩

/-- A recovery derives its seeds and its guard from what the log holds. -/
theorem recoverySeeds_ok {currentItem : Option String} {request : Request}
    {outer : OperationId} {operation : Operation}
    (configured : ∀ row ∈ store.operations.rows, topology.RoutesOperation row)
    (found : store.operations.get? outer = some operation)
    (kind : operation.kind = recordedKind request)
    (names : request.Names store.operations)
    (items : operation.kind.changesItems = true →
      NamesResource operation.subjectUris) :
    ∃ seeds guard, store.recoverySeeds topology currentItem request outer =
      .ok (seeds, guard) ∧ store.DerivesGuard outer guard request := by
  have outerRead : store.getOperation outer = .ok operation := by
    rw [getOperation, found]
  have seeded : ∀ operations : List Operation,
      (∀ member ∈ operations, member ∈ store.operations.rows) →
        ∃ seeds, topology.operationSeeds [] operations = .ok seeds :=
    fun operations inLog => ProviderTopology.operationSeeds_ok_iff.mpr
      fun member isMember => configured member (inLog member isMember)
  unfold recoverySeeds
  rw [outerRead]
  cases request with
  | opsUndo requested dryRun force bulkSinceMs =>
    cases bulkSinceMs with
    | none =>
      have named : ∀ target ∈ requested,
          (store.operations.get? target).isSome = true := by
        intro target isRequested
        cases isRequested
        exact names
      obtain ⟨subject, isSubject⟩ := recoverySubject_ok named
      obtain ⟨seeds, derived⟩ := @subjectRecovery_ok store topology
        .disableUndo outer requested subject configured isSubject
      refine ⟨seeds, _, derived, ?_⟩
      intro guard isGuard
      obtain ⟨row, rfl, rfl⟩ := Option.map_eq_some_iff.mp isGuard
      refine ⟨row.operationId, rfl, ?_⟩
      rw [get?_of_recoverySubject isSubject]
      rfl
    | some sinceMs =>
      have recorded : ∀ member ∈ store.operationsForBulkUndoRecovery outer,
          ∃ target, store.operations.get? target = some member := by
        intro member isMember
        obtain ⟨candidate, -, found⟩ := List.mem_filterMap.mp isMember
        exact ⟨_, found⟩
      obtain ⟨seeds, derived⟩ := seeded
        (store.operationsForBulkUndoRecovery outer) fun member isMember => by
          obtain ⟨target, found⟩ := recorded member isMember
          exact (SqlTable.get?_eq_some.mp found).1
      refine ⟨seeds, _, by
        simp [derived, bind, Except.bind, pure, Except.pure]; rfl, ?_⟩
      intro guard isGuard
      obtain ⟨member, isFirst, rfl⟩ := Option.map_eq_some_iff.mp isGuard
      obtain ⟨target, found⟩ := recorded member (List.mem_of_find?_eq_some isFirst)
      refine ⟨member.operationId, rfl, ?_⟩
      rw [SqlTable.key_of_get? found, found]
      rfl
  | opsRedo requested =>
    have named : ∀ target ∈ requested,
        (store.operations.get? target).isSome = true := by
      intro target isRequested
      cases isRequested
      exact names
    obtain ⟨subject, isSubject⟩ := recoverySubject_ok named
    obtain ⟨seeds, derived⟩ := @subjectRecovery_ok store topology
      .markRedone outer requested subject configured isSubject
    exact ⟨seeds, _, derived, subject, isSubject, rfl⟩
  | _ =>
    obtain ⟨seeds, derived⟩ := @recoverySeeds_forward_ok store topology
      currentItem _ outer operation
      (configured operation (SqlTable.get?_eq_some.mp found).1) found kind
      items (by simp) (by simp)
    refine ⟨seeds, none, ?_, ?_⟩
    · rw [← derived, recoverySeeds, outerRead]
    · intro guard isGuard
      cases isGuard

variable {next : Store}

/-- A reconciliation of a receipt and its own operation, under a fresh id, can
be merged. -/
theorem insertProviderReconciliationTx_ok
    {reconciliation : ProviderReconciliation} {minted : Nat} (nowMs : Int)
    (paired : store.ReconciliationsPaired minted)
    (fresh : minted ≤ reconciliation.reconciliationId.value)
    (own : reconciliation.receiptId.value = reconciliation.operationId.value)
    (receipt : (store.receipts.get? reconciliation.receiptId).isSome = true)
    (operation :
      (store.operations.get? reconciliation.operationId).isSome = true) :
    ∃ next, store.insertProviderReconciliationTx reconciliation nowMs =
      .ok next := by
  unfold insertProviderReconciliationTx
  split
  · rename_i existing found
    have member := List.mem_of_find?_eq_some found
    have selected := List.find?_some found
    simp only [decide_eq_true_eq] at selected
    have same := selected.1
    have sameOperation :
        existing.operationId = reconciliation.operationId := by
      have numbers := (paired existing member).2
      rw [same, own] at numbers
      exact congrArg OperationId.mk numbers.symm
    rw [if_neg (not_not.mpr sameOperation)]
    exact ⟨_, rfl⟩
  · have free : store.reconciliations.get?
        reconciliation.reconciliationId = none := by
      rw [SqlTable.get?_eq_none]
      intro row member same
      have bound := (paired row member).1
      rw [same] at bound
      exact Nat.not_lt_of_le fresh bound
    split
    · rename_i refused
      exact absurd refused (SqlTable.insert?_ne_none free)
    · rw [if_pos ⟨receipt, operation⟩]
      exact ⟨_, rfl⟩

/-- The reconciliations of a recovery can be inserted. -/
theorem insertProviderReconciliations_ok {receiptId : ReceiptId}
    {issuer : OperationId} (nowMs : Int)
    (own : receiptId.value = issuer.value)
    (seeds : List ReconciliationSeed) {minted : Nat}
    (paired : store.ReconciliationsPaired minted)
    (receipt : (store.receipts.get? receiptId).isSome = true)
    (operation : (store.operations.get? issuer).isSome = true) :
    ∃ next, insertProviderReconciliations nowMs store
      ((materializeSeeds receiptId issuer minted seeds).map
        ProviderReconciliation.requireStabilityPass) = .ok next := by
  induction seeds generalizing store minted with
  | nil => exact ⟨store, rfl⟩
  | cons seed rest inductionHypothesis =>
    let first := (seed.materialize receiptId issuer
      ⟨minted⟩).requireStabilityPass
    obtain ⟨merged, mergedFirst⟩ := @insertProviderReconciliationTx_ok store
      first minted nowMs paired (Nat.le_refl _) own receipt operation
    have grows := @insertProviderReconciliationTx_grows store merged issuer
      receiptId minted (minted + 1) first nowMs rfl rfl
      ⟨Nat.le_refl _, Nat.lt_succ_self _⟩ mergedFirst
    have later := paired.grow (Nat.le_succ minted) own grows
    obtain ⟨rows, stability, rfl⟩ := insertProviderReconciliationTx_frame mergedFirst
    obtain ⟨last, mergedRest⟩ :=
      inductionHypothesis later receipt operation
    refine ⟨last, ?_⟩
    rw [materializeSeeds, List.map_cons, insertProviderReconciliations]
    exact Except.bind_eq_ok.mpr ⟨_, mergedFirst, mergedRest⟩

/-- The claim, its receipt and its operation are failed. -/
structure ClaimFailed (store : Store) (claim : ProcessingMutationClaim) :
    Prop where
  claimState : (store.mutationDedup.get? claim.mutationId).map
    MutationDedupRow.state = some .failed
  receiptStatus : (store.receipts.get? claim.receiptId).map
    (fun row => row.receipt.status) = some .failed
  operationStatus : (store.operations.get? claim.operationId).map
    Operation.status = some .failed

theorem status_rowAfterAll_ending {issuer : OperationId} {row : Operation}
    (own : row.operationId = issuer) (pending : row.status = .pending)
    (nowMs : Int) (error : Option String)
    (guard : Option PostWriteOperationGuard) :
    (LogUpdate.rowAfterAll issuer row
      (LogUpdate.ending none .failed nowMs error guard)).status =
        .failed := by
  have finished : (LogUpdate.finish .failed nowMs error).rowAfter issuer row =
      { row with
        status := .failed, finishedAtMs := some nowMs,
        errorMessage := error } := by
    simp [LogUpdate.rowAfter, LogUpdate.target, LogUpdate.guard,
      LogUpdate.change, own, pending]
  have split : LogUpdate.rowAfterAll issuer row
      (LogUpdate.ending none .failed nowMs error guard) =
        LogUpdate.rowAfterAll issuer
          ((LogUpdate.finish .failed nowMs error).rowAfter issuer row)
          (guard.map LogUpdate.ofGuard).toList := rfl
  rw [split, finished]
  cases guard with
  | none => rfl
  | some guard =>
    cases guard with
    | disableUndo original =>
      simp only [Option.map_some, Option.toList_some, LogUpdate.ofGuard,
        LogUpdate.rowAfterAll, LogUpdate.rowAfter]
      split <;> rfl
    | markRedone original =>
      simp [LogUpdate.ofGuard, LogUpdate.rowAfterAll, LogUpdate.rowAfter,
        LogUpdate.guard]

/-- When the guard of a recovery applies, the indeterminate end of a claim
fails its three rows. -/
theorem finalizeProcessingClaim_failed {claim : ProcessingMutationClaim}
    {row : MutationDedupRow} {receipt : ReceiptRow} {operation : Operation}
    {message : String} {response : Response}
    {reconciliations : List ProviderReconciliation}
    {guard : Option PostWriteOperationGuard} {nowMs : Int}
    (found : store.mutationDedup.get? claim.mutationId = some row)
    (isClaim : row.processingClaim? = some claim)
    (isReceipt : store.receipts.get? claim.receiptId = some receipt)
    (receiptPending : receipt.receipt.status = .pending)
    (isOperation : store.operations.get? claim.operationId = some operation)
    (operationPending : operation.status = .pending)
    (finalized : store.finalizeProcessingClaim claim.mutationId message
      response reconciliations guard nowMs = .ok next) :
    next.ClaimFailed claim := by
  obtain ⟨processing, -, -, receiptEq, operationEq⟩ :=
    MutationDedupRow.processingClaim?_eq_some.mp isClaim
  simp only [finalizeProcessingClaim, found, processing, Bool.not_true,
    Bool.false_eq_true, if_false, operationEq] at finalized
  obtain ⟨guarded, guardApplied, inserted⟩ := Except.bind_eq_ok.mp finalized
  obtain ⟨-, rfl⟩ := applyPostWriteOperationGuardTx_eq_ok.mp guardApplied
  obtain ⟨rows, stability, rfl⟩ := insertProviderReconciliations_frame inserted
  constructor
  · simp only [failClaimRows, SqlTable.get?_updateKey, found]
    rfl
  · simp only [failClaimRows, receiptEq, finalizeReceipt,
      SqlTable.get?_updateKey, isReceipt]
    simp [receiptPending]
  · have applied := LogUpdate.guardedOperations_finalize_eq claim.operationId
      store none .failed nowMs (some message) guard
    simp only [failClaimRows, operationEq]
    change ((Store.guardedOperations (OperationTable.finalizeOperation
      (store.retainPartialOperationRecoveryTx claim.operationId none)
      claim.operationId .failed nowMs (some message)) claim.operationId
      guard).get? claim.operationId).map Operation.status = some .failed
    rw [applied, LogUpdate.get?_applyAll, isOperation]
    exact congrArg some (status_rowAfterAll_ending
      (SqlTable.key_of_get? isOperation) operationPending nowMs _ guard)

/-- The operation that the redo of a claim acts on is undone, or this redo
has marked it already. -/
def RedoApplies (store : Store) (claim : ProcessingMutationClaim) : Prop :=
  ∀ requested subject, claim.request = .opsRedo requested →
    store.recoverySubject claim.operationId requested = .ok (some subject) →
      subject.status = .undone ∨
        (subject.status = .redone ∧
          subject.redoneByOpId = some claim.operationId)

/-- The rows a failed claim leaves to its guard. -/
theorem get?_failClaimRows {row : MutationDedupRow} {issuer target : OperationId}
    (operationEq : row.operationId = some issuer) (message : String)
    (nowMs : Int) :
    (store.failClaimRows row message nowMs).operations.get? target =
      (store.operations.get? target).map
        ((LogUpdate.finish .failed nowMs (some message)).rowAfter issuer) := by
  have applied : (store.failClaimRows row message nowMs).operations =
      (LogUpdate.finish .failed nowMs (some message)).apply issuer
        store.operations := by
    simp only [failClaimRows, operationEq]
    rfl
  rw [applied, LogUpdate.get?_apply]

/-- The guard that a recovery derives applies, unless it is a redo's that the
log refuses. -/
theorem guardApplies_iff {claim : ProcessingMutationClaim}
    {row : MutationDedupRow} {operation : Operation} {message : String}
    {guard : Option PostWriteOperationGuard} {nowMs : Int}
    (operationEq : row.operationId = some claim.operationId)
    (isOperation : store.operations.get? claim.operationId = some operation)
    (pending : operation.status = .pending)
    (derives : store.DerivesGuard claim.operationId guard claim.request) :
    (store.failClaimRows row message nowMs).GuardApplies claim.operationId
      guard ↔ store.RedoApplies claim := by
  have reads := fun target => @get?_failClaimRows store row
    claim.operationId target operationEq message nowMs
  cases request : claim.request with
  | opsRedo requested =>
    rw [request] at derives
    obtain ⟨subject, isSubject, rfl⟩ := derives
    have applies : store.RedoApplies claim ↔ ∀ row ∈ subject,
        row.status = .undone ∨ (row.status = .redone ∧
          row.redoneByOpId = some claim.operationId) := by
      unfold RedoApplies
      rw [request]
      constructor
      · rintro all row rfl
        exact all requested row rfl isSubject
      · intro all other row same isOther
        cases same
        cases isSubject.symm.trans isOther
        exact all row rfl
    rw [applies]
    cases subject with
    | none => simp [GuardApplies]
    | some subject =>
      have found := get?_of_recoverySubject isSubject
      simp only [Option.map_some, GuardApplies, reads, found, isOperation,
        Option.isSome_some, and_true, Option.some.injEq,
        exists_eq_left', Option.mem_some_iff, forall_eq']
      by_cases own : subject.operationId = claim.operationId
      · rw [own, isOperation, Option.some.injEq] at found
        subst found
        simp [LogUpdate.rowAfter, LogUpdate.target, LogUpdate.guard,
          LogUpdate.change, own, pending]
      · rw [LogUpdate.rowAfter_of_ne _ own]
  | _ =>
    rw [request] at derives
    refine iff_of_true ?_ ?_
    · cases guard with
      | none => trivial
      | some derived =>
        obtain ⟨original, rfl, present⟩ := derives derived rfl
        change ((store.failClaimRows row message nowMs).operations.get?
          original).isSome = true
        rw [reads, Option.isSome_map]
        exact present
    · intro requested subject redo
      rw [request] at redo
      cases redo

/-- A claim that is processing is marked by ending it. -/
theorem markMutationIndeterminate_processing {mutationId : MutationId}
    {row : MutationDedupRow} {reconciliations : List ProviderReconciliation}
    {guard : Option PostWriteOperationGuard} {nowMs : Int}
    (found : store.mutationDedup.get? mutationId = some row)
    (processing : row.isProcessing = true) :
    (∃ response, store.markMutationIndeterminate mutationId reconciliations
        guard nowMs = .ok (next, response)) ↔
      store.finalizeProcessingClaim mutationId indeterminateMessage
        indeterminateResponse reconciliations guard nowMs = .ok next := by
  simp only [markMutationIndeterminate, found, Option.bind_eq_bind,
    Option.bind_some, processing, if_true, Except.bind_eq_ok]
  constructor
  · rintro ⟨response, after, finalized, result⟩
    cases result
    exact finalized
  · intro finalized
    exact ⟨_, next, finalized, rfl⟩

/-- The guard decides whether a claim that is processing can be ended. -/
theorem finalizeProcessingClaim_isOk_iff {claim : ProcessingMutationClaim}
    {row : MutationDedupRow} {message : String} {response : Response}
    {seeds : List ReconciliationSeed} {minted : Nat}
    {guard : Option PostWriteOperationGuard} {nowMs : Int}
    (found : store.mutationDedup.get? claim.mutationId = some row)
    (isClaim : row.processingClaim? = some claim)
    (own : claim.receiptId.value = claim.operationId.value)
    (receipt : (store.receipts.get? claim.receiptId).isSome = true)
    (operation : (store.operations.get? claim.operationId).isSome = true)
    (paired : store.ReconciliationsPaired minted) :
    (∃ next, store.finalizeProcessingClaim claim.mutationId message response
        ((materializeSeeds claim.receiptId claim.operationId minted
          seeds).map ProviderReconciliation.requireStabilityPass) guard
        nowMs = .ok next) ↔
      (store.failClaimRows row message nowMs).GuardApplies claim.operationId
        guard := by
  obtain ⟨processing, -, -, receiptEq, operationEq⟩ :=
    MutationDedupRow.processingClaim?_eq_some.mp isClaim
  simp only [finalizeProcessingClaim, found, processing, Bool.not_true,
    Bool.false_eq_true, if_false, operationEq, Except.bind_eq_ok,
    applyPostWriteOperationGuardTx_eq_ok]
  constructor
  · rintro ⟨next, guarded, ⟨applies, -⟩, -⟩
    exact applies
  · intro applies
    obtain ⟨next, inserted⟩ := @insertProviderReconciliations_ok
      { store with
        receipts := (store.failClaimRows row message nowMs).receipts,
        operations := guardedOperations
          (store.failClaimRows row message nowMs).operations
          claim.operationId guard,
        mutationDedup := store.mutationDedup.updateKey claim.mutationId
          (fun _ => true)
          (fun row =>
            { row with
              state := .failed, response := some response,
              updatedAtMs := nowMs,
              expiresAtMs := nowMs + mutationDedupTtlMs })
          fun _ => rfl }
      claim.receiptId claim.operationId nowMs own seeds minted paired
      (by
        simp only [failClaimRows, receiptEq]
        rw [get?_finalizeReceipt_isSome]
        exact receipt)
      (by
        rw [LogUpdate.guardedOperations_eq, LogUpdate.get?_applyAll_isSome,
          get?_failClaimRows operationEq, Option.isSome_map]
        exact operation)
    exact ⟨next, _, ⟨applies, rfl⟩, inserted⟩

theorem recoverProcessingMutationClaim_eq_ok {currentItem : Option String}
    {claim : ProcessingMutationClaim} {minted : Nat} {nowMs : Int}
    {derived reconciliations : List ProviderReconciliation}
    {guard : Option PostWriteOperationGuard} {response : Response}
    (intent : store.recoveryReconciliationIntent topology currentItem
      claim.request claim.receiptId claim.operationId minted =
        .ok (derived, guard)) :
    store.recoverProcessingMutationClaim topology currentItem claim minted
        nowMs = .ok (next, response, reconciliations) ↔
      store.markMutationIndeterminate claim.mutationId
          (derived.map ProviderReconciliation.requireStabilityPass) guard
          nowMs = .ok (next, response) ∧
        reconciliations =
          derived.map ProviderReconciliation.requireStabilityPass := by
  unfold recoverProcessingMutationClaim
  simp only [intent, bind, Except.bind]
  cases store.markMutationIndeterminate claim.mutationId
      (derived.map ProviderReconciliation.requireStabilityPass) guard nowMs with
  | error failure => simp
  | ok marked =>
    obtain ⟨after, answer⟩ := marked
    simp only [pure, Except.pure, Except.ok.injEq, Prod.mk.injEq, and_assoc,
      eq_comm]

/-- A recovery ends a claim in one transaction that fails its three rows. -/
def Terminalizes (store : Store) (topology : ProviderTopology)
    (currentItem : Option String) (claim : ProcessingMutationClaim)
    (minted : Nat) (nowMs : Int) : Prop :=
  ∃ next response reconciliations,
    store.recoverProcessingMutationClaim topology currentItem claim minted
        nowMs = .ok (next, response, reconciliations) ∧
      next.ClaimFailed claim

end Store

/-- In every reachable system a claim that is processing is ended by its
recovery, exactly when the redo that it may be still applies. -/
theorem MutationSystem.recovery_terminalizes_iff {topology : ProviderTopology}
    {system : MutationSystem} (reachable : Reachable topology system)
    (configured : ∀ operation ∈ system.store.operations.rows,
      topology.RoutesOperation operation)
    {mutationId : MutationId} {row : MutationDedupRow}
    {claim : ProcessingMutationClaim}
    (found : system.store.mutationDedup.get? mutationId = some row)
    (isClaim : row.processingClaim? = some claim)
    (currentItem : Option String) (nowMs : Int) :
    system.store.Terminalizes topology currentItem claim system.minted nowMs ↔
      system.store.RedoApplies claim := by
  have recoverable := Recoverable.of_reachable reachable
  obtain ⟨processing, keyEq, requestEq, receiptEq, operationEq⟩ :=
    MutationDedupRow.processingClaim?_eq_some.mp isClaim
  have isRow : system.store.mutationDedup.get? claim.mutationId = some row := by
    rw [← keyEq, SqlTable.key_of_get? found]
    exact found
  obtain ⟨⟨receiptId, sameReceipt, receiptPending⟩,
    ⟨operationId, sameOperation, operationPending⟩, -⟩ :=
      recoverable.linked.consistent.movesTogether mutationId row found
  cases receiptEq.symm.trans sameReceipt
  cases operationEq.symm.trans sameOperation
  rw [processing] at receiptPending operationPending
  obtain ⟨receipt, isReceipt, receiptPending⟩ :=
    Option.map_eq_some_iff.mp receiptPending
  obtain ⟨operation, isOperation, operationPending⟩ :=
    Option.map_eq_some_iff.mp operationPending
  rw [ReceiptRow.isPending_eq_true] at receiptPending
  rw [Operation.isPending_eq_true] at operationPending
  obtain ⟨seeds, guard, derived, derives⟩ :=
    @Store.recoverySeeds_ok system.store topology currentItem claim.request
      claim.operationId operation configured isOperation
      (requestEq ▸ recoverable.kinds mutationId row found _ operationEq
        operation isOperation)
      (requestEq ▸ recoverable.names mutationId row found)
      (recoverable.items _ operation isOperation)
  have own : claim.receiptId.value = claim.operationId.value := by
    obtain ⟨number, -, receiptNumber, operationNumber⟩ :=
      recoverable.linked.claims mutationId row found
    rw [← Option.some.inj (receiptNumber.symm.trans receiptEq),
      ← Option.some.inj (operationNumber.symm.trans operationEq)]
  have intent := recoveryReconciliationIntent_eq_ok.mpr
    ⟨seeds, derived, @rfl _ (materializeSeeds claim.receiptId
      claim.operationId system.minted seeds)⟩
  rw [← @Store.guardApplies_iff system.store claim row operation
    indeterminateMessage guard nowMs operationEq isOperation operationPending
    derives, ← @Store.finalizeProcessingClaim_isOk_iff system.store claim row
    indeterminateMessage indeterminateResponse seeds system.minted guard nowMs
    isRow isClaim own (by rw [isReceipt]; rfl) (by rw [isOperation]; rfl)
    recoverable.linked.reconciliations]
  constructor
  · rintro ⟨next, response, reconciliations, recovered, -⟩
    obtain ⟨marked, -⟩ :=
      (Store.recoverProcessingMutationClaim_eq_ok intent).mp recovered
    exact ⟨next, (Store.markMutationIndeterminate_processing isRow
      processing).mp ⟨response, marked⟩⟩
  · rintro ⟨next, finalized⟩
    obtain ⟨response, marked⟩ :=
      (Store.markMutationIndeterminate_processing isRow processing).mpr
        finalized
    exact ⟨next, response, _,
      (Store.recoverProcessingMutationClaim_eq_ok intent).mpr ⟨marked, rfl⟩,
      Store.finalizeProcessingClaim_failed isRow isClaim isReceipt
        receiptPending isOperation operationPending finalized⟩

namespace ProviderTopology

variable (topology : ProviderTopology)

/-- Whether the owner of an operation's first resource is configured. -/
def routesOperation (operation : Operation) : Bool :=
  match topology.operationReconciliationSeed operation with
  | .ok _ => true
  | .error _ => false

variable {topology}

theorem routesOperation_eq_true {operation : Operation} :
    topology.routesOperation operation = true ↔
      topology.RoutesOperation operation := by
  rw [← operationReconciliationSeed_ok_iff, routesOperation]
  cases topology.operationReconciliationSeed operation with
  | ok seed => simp
  | error failure => simp

end ProviderTopology

/-- An unsave that crashes before its provider call is ended. -/
theorem MutationSystem.recovery_terminalizes_unsave :
    ∃ system, Reachable fakeTopology system ∧ ∃ claim,
      claim.request = .libraryUnsave "fake:track:one" ∧
        system.store.Terminalizes fakeTopology none claim system.minted 1 := by
  have runs : ((machine fakeTopology).run initial
      [.start (some ⟨0⟩) "" (.libraryUnsave "fake:track:one") idleReads .cli 0,
        .crash]).any (fun system =>
      system.store.operations.rows.all fakeTopology.routesOperation &&
        system.store.mutationDedup.rows.any fun row =>
          row.processingClaim?.any fun claim =>
            claim.request = .libraryUnsave "fake:track:one") = true := by
    decide +kernel
  obtain ⟨system, runs, holds⟩ := (Option.any_eq_true _ _).mp runs
  obtain ⟨routed, claims⟩ := Bool.and_eq_true_iff.mp holds
  obtain ⟨row, member, isClaim⟩ := List.any_eq_true.mp claims
  obtain ⟨claim, isClaim, request⟩ := (Option.any_eq_true _ _).mp isClaim
  have request := of_decide_eq_true request
  have reachable : Reachable fakeTopology system := ⟨initial, _, rfl, runs⟩
  refine ⟨system, reachable, claim, request, ?_⟩
  apply (recovery_terminalizes_iff reachable (fun operation inLog =>
    ProviderTopology.routesOperation_eq_true.mp
      (List.all_eq_true.mp routed operation inLog))
    (SqlTable.get?_eq_some.mpr ⟨member, rfl⟩) isClaim none 1).mpr
  intro requested subject redo
  rw [request] at redo
  cases redo

/-- A redo of an operation that was never undone crashes right after it was
claimed: its recovery is refused by its own guard. -/
theorem MutationSystem.recovery_refuses_redo :
    ∃ system, Reachable fakeTopology system ∧
      (∀ operation ∈ system.store.operations.rows,
        fakeTopology.RoutesOperation operation) ∧
      ∃ row ∈ system.store.mutationDedup.rows, ∃ claim,
        row.processingClaim? = some claim ∧
          claim.request = .opsRedo (some ⟨0⟩) ∧
          system.store.recoverProcessingMutationClaim fakeTopology none claim
              system.minted 3 =
            .error (.store (.redoOriginalNotUndone ⟨0⟩)) := by
  have runs : ((machine fakeTopology).run initial
      (uninterrupted ⟨0⟩ (.libraryUnsave "fake:track:one") idleReads 1 0 ++
        [.start (some ⟨0⟩) "" (.opsRedo (some ⟨0⟩))
          { idleReads with selected := [⟨0⟩] } .cli 2, .crash])).any
      (fun system =>
        system.store.operations.rows.all fakeTopology.routesOperation &&
        system.store.mutationDedup.rows.any fun row =>
          row.processingClaim?.any fun claim =>
            claim.request = .opsRedo (some ⟨0⟩) &&
            match system.store.recoverProcessingMutationClaim fakeTopology none
              claim system.minted 3 with
            | .error failure =>
              failure = .store (.redoOriginalNotUndone ⟨0⟩)
            | .ok _ => false) = true := by
    decide +kernel
  obtain ⟨system, runs, holds⟩ := (Option.any_eq_true _ _).mp runs
  obtain ⟨routed, claims⟩ := Bool.and_eq_true_iff.mp holds
  obtain ⟨row, member, isClaim⟩ := List.any_eq_true.mp claims
  obtain ⟨claim, isClaim, refused⟩ := (Option.any_eq_true _ _).mp isClaim
  obtain ⟨request, refused⟩ := Bool.and_eq_true_iff.mp refused
  refine ⟨system, ⟨initial, _, rfl, runs⟩, fun operation inLog =>
    ProviderTopology.routesOperation_eq_true.mp
      (List.all_eq_true.mp routed operation inLog), row, member, claim, isClaim,
    of_decide_eq_true request, ?_⟩
  split at refused
  · rename_i failure recovered
    rw [recovered, of_decide_eq_true refused]
  · cases refused

end Spotuify
