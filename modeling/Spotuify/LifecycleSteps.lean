import Spotuify.MutationEffects

/-!
# The steps of the lifecycle

Every action that the lifecycle accepts is one of the steps below, with what
it found and what it left.  The tasks of a reachable system act for different
operations, all of them minted before.
-/

namespace Spotuify

namespace Store

variable {store : Store}

/-- How a handler came to record a mutation. -/
inductive Records (store : Store) (topology : ProviderTopology)
    (reads : HandlerReads) : Request → RecordedMutation → Prop
  | undo {operationId : Option OperationId} {force : Bool}
      {selected : Operation}
      (found : store.operations.get? selected.operationId = some selected)
      (selects : store.undoSelects operationId selected = true) :
      Records store topology reads (.opsUndo operationId false force none)
        (recordUndo (.opsUndo operationId false force none) selected)
  | bulkUndo {operationId : Option OperationId} {force : Bool} {sinceMs : Int}
      {members : List Operation}
      (found : ∀ member ∈ members,
        store.operations.get? member.operationId = some member)
      (window :
        store.operations.IsReversibleListSince sinceMs none members) :
      Records store topology reads
        (.opsUndo operationId false force (some sinceMs))
        (recordBulkUndo (.opsUndo none false force (some sinceMs)) members)
  | redo {operationId : Option OperationId} {selected : Operation}
      (found : store.operations.get? selected.operationId = some selected)
      (selects : store.redoSelects topology operationId selected = true) :
      Records store topology reads (.opsRedo operationId)
        (recordRedo (.opsRedo operationId) selected)
  | forward {request : Request} {recorded : RecordedMutation}
      (records : reads.recordForward topology request = some recorded) :
      Records store topology reads request recorded

theorem get?_of_selectedOperations {operationIds : List OperationId}
    {operations : List Operation}
    (selected : store.selectedOperations operationIds = some operations) :
    ∀ operation ∈ operations,
      store.operations.get? operation.operationId = some operation := by
  induction operationIds generalizing operations with
  | nil =>
    cases selected
    exact List.forall_mem_nil _
  | cons operationId rest inductionHypothesis =>
    obtain ⟨first, found, selected⟩ := Option.bind_eq_some_iff.mp selected
    obtain ⟨others, selectedRest, selected⟩ :=
      Option.bind_eq_some_iff.mp selected
    cases selected
    rw [List.forall_mem_cons]
    refine ⟨?_, inductionHypothesis selectedRest⟩
    rw [SqlTable.key_of_get? found]
    exact found

theorem record_records {topology : ProviderTopology} {reads : HandlerReads}
    {request : Request} {recorded : RecordedMutation}
    (records : store.record topology reads request = some recorded) :
    store.Records topology reads request recorded := by
  cases request with
  | opsUndo operationId dryRun force bulkSinceMs =>
    cases dryRun with
    | true => cases bulkSinceMs <;> cases records
    | false =>
      cases bulkSinceMs with
      | none =>
        obtain ⟨operations, found, rest⟩ := Option.bind_eq_some_iff.mp records
        split at rest
        · rename_i selected
          simp only [Option.ite_none_right_eq_some] at rest
          cases rest.2
          exact .undo (get?_of_selectedOperations found selected
            List.mem_cons_self) rest.1
        · cases rest
      | some sinceMs =>
        obtain ⟨members, found, rest⟩ := Option.bind_eq_some_iff.mp records
        simp only [Option.ite_none_right_eq_some] at rest
        cases rest.2
        exact .bulkUndo (get?_of_selectedOperations found) rest.1
  | opsRedo operationId =>
    obtain ⟨operations, found, rest⟩ := Option.bind_eq_some_iff.mp records
    split at rest
    · rename_i selected
      simp only [Option.ite_none_right_eq_some] at rest
      cases rest.2
      exact .redo (get?_of_selectedOperations found selected
        List.mem_cons_self) rest.1
    · cases rest
  | _ => exact .forward records

/-- The claim row of a recorded mutation. -/
def pendingClaim (mutationId : MutationId) (fingerprint : String)
    (request : Request) (receipt : Receipt) (operation : Operation)
    (nowMs : Int) : MutationDedupRow where
  mutationId := mutationId
  fingerprint := fingerprint
  request := request
  state := .processing
  response := none
  receiptId := some receipt.receiptId
  operationId := some operation.operationId
  createdAtMs := nowMs
  updatedAtMs := nowMs
  expiresAtMs := nowMs + mutationDedupTtlMs

/-- Recording a mutation inserts its receipt, its operation and, under a key,
its claim. -/
theorem recordPending_eq_ok {next : Store} {mutationId : Option MutationId}
    {fingerprint : String} {request : Request} {receipt : Receipt}
    {operation : Operation} {nowMs : Int}
    (free : mutationId.bind store.mutationDedup.get? = none)
    (recorded : store.recordPending mutationId fingerprint request receipt
      operation nowMs = .ok next) :
    ∃ receipts operations mutationDedup,
      next = { store with
        receipts := receipts, operations := operations,
        mutationDedup := mutationDedup } ∧
      store.receipts.insert?
        { receipt :=
            { receipt with
              status := .pending, finishedAtMs := none, error := none },
          request := request } = some receipts ∧
      store.operations.insert? operation = some operations ∧
      ∀ other, mutationDedup.get? other =
        if mutationId = some other then
          some (pendingClaim other fingerprint request receipt operation nowMs)
        else store.mutationDedup.get? other := by
  cases mutationId with
  | some mutationId =>
    obtain ⟨⟨claimed, answer⟩, claims, result⟩ :=
      Except.bind_eq_ok.mp recorded
    cases result
    have isFree : store.mutationDedup.get? mutationId = none := free
    simp only [claimMutation, isFree] at claims
    split at claims
    · cases claims
    · rename_i mutationDedup insertedClaim
      obtain ⟨withReceipt, receiptInserted, rest⟩ :=
        Except.bind_eq_ok.mp claims
      obtain ⟨withOperation, operationInserted, result⟩ :=
        Except.bind_eq_ok.mp rest
      cases result
      obtain ⟨receipts, insertedReceipt, rfl⟩ :=
        insertReceipt_eq_ok receiptInserted
      obtain ⟨operations, insertedOperation, rfl, -⟩ :=
        insertOperation_eq_ok operationInserted
      refine ⟨_, _, mutationDedup, rfl, insertedReceipt, insertedOperation, ?_⟩
      intro other
      rw [SqlTable.get?_insert insertedClaim]
      by_cases same : other = mutationId
      · rw [if_pos same, if_pos (congrArg some same.symm), same]
        rfl
      · rw [if_neg same, if_neg fun eq => same (Option.some.inj eq).symm]
  | none =>
    obtain ⟨withReceipt, receiptInserted, operationInserted⟩ :=
      Except.bind_eq_ok.mp recorded
    obtain ⟨receipts, insertedReceipt, rfl⟩ :=
      insertReceipt_eq_ok receiptInserted
    obtain ⟨operations, insertedOperation, rfl, -⟩ :=
      insertOperation_eq_ok operationInserted
    refine ⟨_, _, _, rfl, insertedReceipt, insertedOperation, ?_⟩
    intro other
    rw [if_neg (by simp)]

end Store

namespace MutationSystem

/-- The system after a handler recorded its mutation. -/
def started (system : MutationSystem) (mutationId : Option MutationId)
    (recorded : RecordedMutation) (store : Store) : MutationSystem :=
  { system with
    store := store,
    tasks := system.tasks ++
      [{ operationId := ⟨system.minted⟩,
         receiptId := ⟨system.minted⟩,
         mutationId := mutationId,
         recorded := recorded,
         remaining := recorded.body,
         failure := none }],
    minted := system.minted + 1,
    undoTargets :=
      startTargets recorded ⟨system.minted⟩ ++ system.undoTargets }

/-- The system after a step of a body. -/
def performed (system : MutationSystem) (task : MutationTask)
    (step : BodyStep) (rest : List BodyStep) (store : Store) :
    MutationSystem :=
  { system with
    store := store,
    tasks := system.updateTask task.operationId fun other =>
      { other with remaining := rest },
    reversalsSent := step.sends task.operationId ++ system.reversalsSent,
    undoTargets := step.records task.operationId ++ system.undoTargets }

/-- What an accepted action did. -/
inductive Steps (topology : ProviderTopology) (system : MutationSystem) :
    MutationSystem → Prop
  | starts {mutationId : Option MutationId} {fingerprint : String}
      {request : Request} {reads : HandlerReads} {source : OperationSource}
      {nowMs : Int} {recorded : RecordedMutation} {store : Store}
      (lane : system.laneIsFree request = true)
      (free : mutationId.bind system.store.mutationDedup.get? = none)
      (records : system.store.record topology reads request = some recorded)
      (pending : system.store.recordPending mutationId fingerprint
        recorded.request (recorded.pendingReceipt ⟨system.minted⟩ nowMs)
        (recorded.pendingOperation ⟨system.minted⟩ ⟨system.minted⟩ source
          nowMs) nowMs = .ok store) :
      Steps topology system (system.started mutationId recorded store)
  | performs {task : MutationTask} {step : BodyStep} {rest : List BodyStep}
      {store : Store} (live : task ∈ system.tasks)
      (running : task.failure = none) (isNext : task.remaining = step :: rest)
      (maySucceed : step.maySucceed = true)
      (performs : step.perform task.operationId system.store = .ok store) :
      Steps topology system (system.performed task step rest store)
  | fails {task : MutationTask} {step : BodyStep} {rest : List BodyStep}
      {fate : StepFate} {failure : BodyFailure} (live : task ∈ system.tasks)
      (running : task.failure = none) (isNext : task.remaining = step :: rest)
      (carries : step.failureOf task.recorded.retained fate = some failure) :
      Steps topology system
        { system with
          tasks := system.updateTask task.operationId fun other =>
            { other with failure := some failure } }
  | finalizes {task : MutationTask} {data : String} {persists : Bool}
      {currentItem : Option String} {nowMs : Int} {store : Store}
      {minted : Nat} (live : task ∈ system.tasks)
      (finished : task.isFinished = true)
      (finalized : system.finalizedStore topology task data persists
        currentItem nowMs = (store, minted)) :
      Steps topology system
        { system with
          store := store,
          minted := minted,
          tasks := system.otherTasks task.operationId }
  | drops (operationId : OperationId) :
      Steps topology system
        { system with tasks := system.otherTasks operationId }
  | crashes : Steps topology system { system with tasks := [] }
  | recovers {mutationId : MutationId} {row : MutationDedupRow}
      {claim : ProcessingMutationClaim} {currentItem : Option String}
      {nowMs : Int} {store : Store} {response : Response}
      {reconciliations : List ProviderReconciliation}
      (found : system.store.mutationDedup.get? mutationId = some row)
      (isClaim : row.processingClaim? = some claim)
      (notLive : system.isLive mutationId = false)
      (recovered : system.store.recoverProcessingMutationClaim topology
        currentItem claim system.minted nowMs =
          .ok (store, response, reconciliations)) :
      Steps topology system
        { system with
          store := store,
          minted := system.minted + reconciliations.length }

variable {topology : ProviderTopology} {system next : MutationSystem}

theorem task?_eq_some {operationId : OperationId} {task : MutationTask}
    (found : system.task? operationId = some task) :
    task ∈ system.tasks ∧ task.operationId = operationId := by
  refine ⟨List.mem_of_find?_eq_some found, ?_⟩
  simpa using List.find?_some found

theorem startMutation_steps {mutationId : Option MutationId}
    {fingerprint : String} {request : Request} {reads : HandlerReads}
    {source : OperationSource} {nowMs : Int}
    (starts : system.startMutation topology mutationId fingerprint request
      reads source nowMs = some next) : Steps topology system next := by
  unfold startMutation at starts
  split at starts
  · cases starts
  · rename_i accepted
    rw [not_or, Bool.not_eq_false, Option.not_isSome_iff_eq_none] at accepted
    obtain ⟨recorded, records, rest⟩ := Option.bind_eq_some_iff.mp starts
    dsimp only at rest
    split at rest
    · cases rest
    · rename_i store pending
      cases rest
      exact .starts accepted.1 accepted.2 records pending

theorem advanceTask_steps {operationId : OperationId} {fate : StepFate}
    (advances : system.advanceTask operationId fate = some next) :
    Steps topology system next := by
  obtain ⟨task, found, rest⟩ := Option.bind_eq_some_iff.mp advances
  obtain ⟨live, rfl⟩ := task?_eq_some found
  split at rest
  · cases rest
  · rename_i running
    rw [Option.not_isSome_iff_eq_none] at running
    split at rest
    · cases rest
    · rename_i step later isNext
      split at rest
      · split at rest
        · rename_i maySucceed
          unfold completeStep at rest
          split at rest
          · cases rest
          · rename_i store performs
            cases rest
            exact .performs live running isNext maySucceed performs
        · cases rest
      · obtain ⟨failure, carries, rest⟩ := Option.bind_eq_some_iff.mp rest
        cases rest
        exact .fails live running isNext carries

theorem recoverClaim_steps {mutationId : MutationId}
    {currentItem : Option String} {nowMs : Int}
    (recovers : system.recoverClaim topology mutationId currentItem nowMs =
      some next) : Steps topology system next := by
  obtain ⟨row, found, rest⟩ := Option.bind_eq_some_iff.mp recovers
  obtain ⟨claim, isClaim, rest⟩ := Option.bind_eq_some_iff.mp rest
  split at rest
  · cases rest
  · rename_i notLive
    split at rest
    · cases rest
    · rename_i store response reconciliations recovered
      cases rest
      exact .recovers found isClaim (Bool.not_eq_true _ ▸ notLive) recovered

theorem step_steps {action : SystemAction}
    (steps : (machine topology).step system action = some next) :
    Steps topology system next := by
  cases action with
  | start mutationId fingerprint request reads source nowMs =>
    exact startMutation_steps steps
  | advance operationId fate => exact advanceTask_steps steps
  | finalize operationId data persists currentItem nowMs =>
    obtain ⟨task, found, rest⟩ := Option.bind_eq_some_iff.mp steps
    obtain ⟨live, rfl⟩ := task?_eq_some found
    split at rest
    · rename_i finished
      cases rest
      exact .finalizes live finished rfl
    · cases rest
  | drop operationId =>
    cases steps
    exact .drops operationId
  | crash =>
    cases steps
    exact .crashes
  | recover mutationId currentItem nowMs => exact recoverClaim_steps steps

/-- An invariant of the empty daemon and of every step holds in every
reachable system. -/
theorem Reachable.invariant {holds : MutationSystem → Prop}
    (initially : holds initial)
    (preserved : ∀ system next, holds system → Steps topology system next →
      holds next)
    (reachable : Reachable topology system) : holds system := by
  apply GuardedMachine.Reachable.induction (machine topology) _ _ reachable
  · rintro _ rfl
    exact initially
  · intro state action after before steps
    exact preserved state after before (step_steps steps)

end MutationSystem

namespace MutationTask

/-- The steps that a task took. -/
def done (task : MutationTask) : List BodyStep :=
  task.recorded.body.take (task.recorded.body.length - task.remaining.length)

theorem done_eq {task : MutationTask} {steps : List BodyStep}
    (ran : task.recorded.body = steps ++ task.remaining) :
    task.done = steps := by
  simp [done, ran]

/-- What holds of a live task. -/
structure WellRun (topology : ProviderTopology) (minted : Nat)
    (task : MutationTask) : Prop where
  minted : task.operationId.value < minted
  paired : task.receiptId.value = task.operationId.value
  recorded : ∃ (store : Store) (reads : HandlerReads) (request : Request),
    store.Records topology reads request task.recorded
  ran : task.recorded.body = task.done ++ task.remaining
  maySucceed : task.done.all BodyStep.maySucceed = true
  retains : ∀ recovery ∈ task.recovery, recovery ∈ task.recorded.retained

variable {topology : ProviderTopology} {minted : Nat} {task : MutationTask}

theorem WellRun.mono {later : Nat} (wellRun : task.WellRun topology minted)
    (le : minted ≤ later) : task.WellRun topology later :=
  { wellRun with minted := Nat.lt_of_lt_of_le wellRun.minted le }

theorem WellRun.done_next {step : BodyStep} {rest : List BodyStep}
    (wellRun : task.WellRun topology minted)
    (isNext : task.remaining = step :: rest) :
    done { task with remaining := rest } = task.done ++ [step] := by
  apply done_eq
  have ran := wellRun.ran
  rw [isNext] at ran
  simpa using ran

theorem WellRun.next {step : BodyStep} {rest : List BodyStep}
    (wellRun : task.WellRun topology minted)
    (isNext : task.remaining = step :: rest)
    (maySucceed : step.maySucceed = true) :
    WellRun topology minted { task with remaining := rest } := by
  have done := wellRun.done_next isNext
  have ran := wellRun.ran
  rw [isNext] at ran
  refine ⟨wellRun.minted, wellRun.paired, wellRun.recorded, ?_, ?_,
    wellRun.retains⟩
  · rw [done]
    simpa using ran
  · rw [done, List.all_append, wellRun.maySucceed]
    simpa using maySucceed

end MutationTask

theorem BodyStep.recovery_of_failureOf {step : BodyStep} {fate : StepFate}
    {retained : Option PartialOperationRecovery} {failure : BodyFailure}
    (carries : step.failureOf retained fate = some failure) :
    ∀ recovery ∈ failure.recovery, recovery ∈ retained := by
  intro recovery member
  cases fate with
  | succeeds => cases carries
  | fails report =>
    simp only [failureOf, Option.ite_none_right_eq_some] at carries
    cases carries.2
    dsimp only at member
    split at member
    · exact member
    · cases member
  | uncertain report =>
    obtain ⟨guard, -, rfl⟩ := Option.map_eq_some_iff.mp carries
    cases member

namespace MutationSystem

/-- The live tasks act for different operations. -/
structure TasksApart (topology : ProviderTopology) (system : MutationSystem) :
    Prop where
  distinct : (system.tasks.map MutationTask.operationId).Nodup
  wellRun : ∀ task ∈ system.tasks, task.WellRun topology system.minted

variable {topology : ProviderTopology} {system next : MutationSystem}

theorem mem_updateTask {operationId : OperationId}
    {change : MutationTask → MutationTask} {task : MutationTask} :
    task ∈ system.updateTask operationId change ↔
      ∃ before ∈ system.tasks,
        (if before.operationId = operationId then change before else before) =
          task :=
  List.mem_map

theorem mem_otherTasks {operationId : OperationId} {task : MutationTask} :
    task ∈ system.otherTasks operationId ↔
      task ∈ system.tasks ∧ task.operationId ≠ operationId := by
  simp [otherTasks]

/-- A task that was updated, or another one. -/
theorem TasksApart.of_mem_updateTask (apart : system.TasksApart topology)
    {task updated : MutationTask} {change : MutationTask → MutationTask}
    (live : task ∈ system.tasks)
    (member : updated ∈ system.updateTask task.operationId change) :
    updated = change task ∨
      updated ∈ system.tasks ∧ updated.operationId ≠ task.operationId := by
  obtain ⟨before, old, rfl⟩ := mem_updateTask.mp member
  by_cases same : before.operationId = task.operationId
  · rw [if_pos same,
      List.inj_on_of_nodup_map apart.distinct old live same]
    exact Or.inl rfl
  · rw [if_neg same]
    exact Or.inr ⟨old, same⟩

theorem TasksApart.distinct_updateTask (apart : system.TasksApart topology)
    {operationId : OperationId} {change : MutationTask → MutationTask}
    (keeps : ∀ task, (change task).operationId = task.operationId) :
    ((system.updateTask operationId change).map
      MutationTask.operationId).Nodup := by
  have same : (system.updateTask operationId change).map
      MutationTask.operationId =
        system.tasks.map MutationTask.operationId := by
    rw [updateTask, List.map_map]
    apply List.map_congr_left
    intro task _
    rw [Function.comp_apply]
    split
    · exact keeps task
    · rfl
  rw [same]
  exact apart.distinct

theorem le_finalizedStore_minted {task : MutationTask} {data : String}
    {persists : Bool} {currentItem : Option String} {nowMs : Int}
    {store : Store} {minted : Nat}
    (finalized : system.finalizedStore topology task data persists
      currentItem nowMs = (store, minted)) : system.minted ≤ minted := by
  unfold finalizedStore at finalized
  dsimp only at finalized
  split at finalized
  · split at finalized
    · cases finalized
      exact Nat.le_add_right _ _
    · cases finalized
      exact Nat.le_add_right _ _
  · split at finalized
    · cases finalized
      exact Nat.le_add_right _ _
    · split at finalized
      · cases finalized
        exact (Nat.le_add_right _ _).trans (Nat.le_add_right _ _)
      · cases finalized
        exact (Nat.le_add_right _ _).trans (Nat.le_add_right _ _)

theorem TasksApart.without (apart : system.TasksApart topology)
    (operationId : OperationId) {store : Store} {minted : Nat}
    (le : system.minted ≤ minted) :
    TasksApart topology
      { system with
        store := store, minted := minted,
        tasks := system.otherTasks operationId } where
  distinct := apart.distinct.sublist (List.filter_sublist.map _)
  wellRun task live :=
    (apart.wellRun task (mem_otherTasks.mp live).1).mono le

theorem TasksApart.step (apart : system.TasksApart topology)
    (steps : Steps topology system next) : next.TasksApart topology := by
  cases steps with
  | starts lane free records pending =>
    constructor
    · rw [started, List.map_append, List.nodup_append]
      refine ⟨apart.distinct, List.nodup_singleton _, ?_⟩
      intro taken old fresh isFresh same
      cases List.mem_singleton.mp isFresh
      obtain ⟨task, live, rfl⟩ := List.mem_map.mp old
      have minted := (apart.wellRun task live).minted
      rw [same] at minted
      exact Nat.lt_irrefl _ minted
    · intro task live
      rcases List.mem_append.mp live with old | isNew
      · exact (apart.wellRun task old).mono (Nat.le_succ _)
      · cases List.mem_singleton.mp isNew
        exact ⟨Nat.lt_succ_self _, rfl, ⟨_, _, _, Store.record_records records⟩,
          by simp [MutationTask.done], by simp [MutationTask.done], nofun⟩
  | performs live running isNext maySucceed performs =>
    constructor
    · exact apart.distinct_updateTask fun _ => rfl
    · intro updated member
      rcases apart.of_mem_updateTask live member with rfl | ⟨old, -⟩
      · exact (apart.wellRun _ live).next isNext maySucceed
      · exact apart.wellRun updated old
  | fails live running isNext carries =>
    constructor
    · exact apart.distinct_updateTask fun _ => rfl
    · intro updated member
      rcases apart.of_mem_updateTask live member with rfl | ⟨old, -⟩
      · exact { apart.wellRun _ live with
          retains := BodyStep.recovery_of_failureOf carries }
      · exact apart.wellRun updated old
  | finalizes live finished finalized =>
    exact apart.without _ (le_finalizedStore_minted finalized)
  | drops operationId => exact apart.without operationId (Nat.le_refl _)
  | crashes =>
    exact ⟨List.nodup_nil, fun task live => absurd live List.not_mem_nil⟩
  | recovers found isClaim notLive recovered =>
    exact ⟨apart.distinct, fun task live =>
      (apart.wellRun task live).mono (Nat.le_add_right _ _)⟩

end MutationSystem

end Spotuify
