import Spotuify.MutationClaims
import Spotuify.RecordedMutations

/-!
# The lifecycle of mutations

Handlers, their bodies, their finalizations, crashes and the recovery of
claims interleave on one database.  A live body is a task; a crash drops every
task and keeps the database.  Undo and redo requests hold the operation lane
from the selection to the end of their task, the other lanes only order remote
calls and are not modelled.  Two histories are kept beside the state: which
reversals were sent, and which operations an undo request acts on.
-/

namespace Spotuify

/-- How the remote or the local half of a body step went. -/
structure FailureReport where
  summary : ApiErrorSummary
  error : String
  response : Response
  seeds : List ReconciliationSeed
  retainsArtifact : Bool

inductive StepFate where
  | succeeds
  | fails (report : FailureReport)
  | uncertain (report : FailureReport)

/-- Why a body ended early, with what its error carries. -/
structure BodyFailure where
  report : FailureReport
  guard : Option PostWriteOperationGuard
  recovery : Option PartialOperationRecovery

/-- A live body. -/
structure MutationTask where
  operationId : OperationId
  receiptId : ReceiptId
  mutationId : Option MutationId
  recorded : RecordedMutation
  remaining : List BodyStep
  failure : Option BodyFailure

structure MutationSystem where
  store : Store
  tasks : List MutationTask
  minted : Nat
  reversalsSent : List (OperationId × OperationId)
  undoTargets : List (OperationId × OperationId)

namespace Store

variable (store : Store)

/-- `activate_operation_reversal_plan`. -/
def activateOperationReversalPlan (target : OperationId)
    (preState : PreState) (plan : ReversalPlan) : Except StoreError Store :=
  if store.operations.rowsAffected target
      (fun operation => operation.isPending && !operation.reversible) = 1 then
    .ok { store with
      operations := OperationTable.activateReversalPlan store.operations
        target preState plan }
  else
    .error (.notPendingNonReversible target)

/-- `update_operation_subject`: the subject is a foreign key. -/
def updateOperationSubject (target subject : OperationId) :
    Except StoreError Store := do
  store.requireOperation "operations" subject
  return { store with
    operations :=
      OperationTable.updateOperationSubject store.operations target subject }

/-- `finalize_partial_operation`. -/
def finalizePartialOperation (receiptId : ReceiptId)
    (receiptError : ApiErrorSummary) (operationId : OperationId)
    (status : OperationStatus) (operationError : String)
    (reconciliations : List ProviderReconciliation)
    (guard : Option PostWriteOperationGuard)
    (recovery : Option PartialOperationRecovery) (finishedAtMs : Int) :
    Except StoreError Store :=
  let receiptRows :=
    store.receipts.rowsAffected receiptId ReceiptRow.isPending
  let retained := store.retainPartialOperationRecoveryTx operationId recovery
  let operationRows :=
    retained.rowsAffected operationId Operation.isPending
  if receiptRows ≠ 1 ∨ operationRows ≠ 1 then
    .error (.partialFinalizationLostOwnership receiptRows operationRows)
  else do
    let updated : Store :=
      { store with
        receipts := finalizeReceipt store.receipts receiptId .failed
          receiptError.message finishedAtMs (some receiptError),
        operations := OperationTable.finalizeOperation retained operationId
          status finishedAtMs (some operationError) }
    let guarded ← updated.applyPostWriteOperationGuardTx guard operationId
    insertProviderReconciliations finishedAtMs guarded reconciliations

/-- Write the pending rows of a recorded mutation, under its key if it has
one. -/
def recordPending (mutationId : Option MutationId) (fingerprint : String)
    (request : Request) (receipt : Receipt) (operation : Operation)
    (nowMs : Int) : Except StoreError Store :=
  match mutationId with
  | some mutationId => do
    let (next, _) ← store.claimMutation mutationId fingerprint request receipt
      operation nowMs
    return next
  | none => do
    let withReceipt ← store.insertReceipt receipt request
    withReceipt.insertOperation operation

end Store

namespace BodyStep

/-- The local effect of a step that succeeds. -/
def perform (issuer : OperationId) (store : Store) :
    BodyStep → Except StoreError Store
  | .updatePlan preState plan =>
    .ok { store with
      operations := OperationTable.updateOperationPlan store.operations
        issuer (some preState) (some plan) }
  | .updateSubjectUris subjectUris =>
    .ok { store with
      operations := OperationTable.updateOperationSubjectUris
        store.operations issuer subjectUris }
  | .activatePlan preState plan =>
    store.activateOperationReversalPlan issuer preState plan
  | .linkSubject subject => store.updateOperationSubject issuer subject
  | .recordCandidates members =>
    store.recordBulkUndoCandidates issuer members
  | .markUndone member => store.markOperationUndone member issuer
  | .markRedone subject => store.markOperationRedone subject issuer
  | _ => .ok store

/-- Whether a step may succeed: what it checks of the row it was given, and
the plans the reversal dispatch has an execution for. -/
def maySucceed : BodyStep → Bool
  | .checkReversal member =>
    match validateUndoable member with
    | .ok _ => member.reversalPlan.any ReversalPlan.isExecutable
    | .error _ => false
  | .requireUndone subject => subject.status == .undone
  | .nothingPlaying => false
  | _ => true

/-- The guard a step's error carries when its remote half may have
happened. -/
def uncertainGuard : BodyStep → Option PostWriteOperationGuard
  | .awaitReversal member | .markUndone member => some (.disableUndo member)
  | .replayForward subject | .markRedone subject => some (.markRedone subject)
  | _ => none

/-- Whether a step can fail without a guard.  The bookkeeping of an undo or a
redo follows a confirmed remote call. -/
def mayFailCleanly : BodyStep → Bool
  | .markUndone _ | .markRedone _ => false
  | _ => true

/-- The steps of a creation that follow its remote write. -/
def followsCreation : BodyStep → Bool
  | .updatePlan .. | .updateSubjectUris _ | .populatePlaylist => true
  | _ => false

/-- What the error of a failed step carries; `none` when a step cannot end
so. -/
def failureOf (retained : Option PartialOperationRecovery)
    (step : BodyStep) : StepFate → Option BodyFailure
  | .succeeds => none
  | .fails report =>
    if step.mayFailCleanly then
      some
        { report := report,
          guard := none,
          recovery :=
            if report.retainsArtifact && step.followsCreation then retained
            else none }
    else none
  | .uncertain report =>
    step.uncertainGuard.map fun guard =>
      { report := report, guard := some guard, recovery := none }

/-- The reversal a step sends. -/
def sends (issuer : OperationId) :
    BodyStep → List (OperationId × OperationId)
  | .sendReversal member => [(issuer, member)]
  | _ => []

/-- The operations a step records as the members of an undo. -/
def records (issuer : OperationId) :
    BodyStep → List (OperationId × OperationId)
  | .recordCandidates members =>
    members.map fun member => (issuer, member.operationId)
  | _ => []

end BodyStep

namespace MutationTask

variable (task : MutationTask)

/-- Whether the body of a task has ended. -/
def isFinished : Bool :=
  task.failure.isSome || task.remaining.isEmpty

def guard : Option PostWriteOperationGuard :=
  task.failure.bind BodyFailure.guard

def recovery : Option PartialOperationRecovery :=
  task.failure.bind BodyFailure.recovery

def seeds : List ReconciliationSeed :=
  task.failure.elim [] fun failure => failure.report.seeds

/-- The terminal status of a finished task.  A failed creation that retained
its cleanup plan is kept as succeeded, so that it can be undone. -/
def operationStatus : OperationStatus :=
  match task.failure with
  | none => .succeeded
  | some _ =>
    if task.recovery.isSome ∧
        recordedKind task.recorded.request = .playlistCreate then .succeeded
    else .failed

def operationError : Option String :=
  task.failure.map fun failure => failure.report.error

def receiptError : Option ApiErrorSummary :=
  task.failure.map fun failure => failure.report.summary

def receiptStatus : ReceiptStatus :=
  if task.failure.isSome then .failed else .confirmed

def receiptMessage : String :=
  task.failure.elim (task.recorded.action ++ " confirmed") fun failure =>
    failure.report.summary.message

/-- The intent `record_operation` persists for a keyed task. -/
def finalization (mutationId : MutationId) (data : String)
    (reconciliations : List ProviderReconciliation) (finishedAtMs : Int) :
    ClaimedMutationFinalization where
  mutationId := mutationId
  receiptId := task.receiptId
  receiptStatus := task.receiptStatus
  receiptMessage := task.receiptMessage
  receiptError := task.receiptError
  operationId := task.operationId
  operationStatus := task.operationStatus
  operationError := task.operationError
  response :=
    task.failure.elim (.ok data) fun failure => failure.report.response
  succeeded := task.failure.isNone
  reconciliations := reconciliations
  postWriteGuard := task.guard
  operationRecovery := task.recovery
  finishedAtMs := finishedAtMs

end MutationTask

/-- `persist_claimed_mutation_finalization`: the finalization, and after its
retries the indeterminate fallback.  `persists` is whether the database took
the finalization. -/
def persistClaimedMutationFinalization (store : Store)
    (intent : ClaimedMutationFinalization)
    (fallback : List ProviderReconciliation)
    (fallbackGuard : Option PostWriteOperationGuard) (persists : Bool) :
    Except StoreError Store :=
  let indeterminate : Except StoreError Store := do
    let (next, _) ← store.markMutationIndeterminate intent.mutationId
      (if intent.reconciliations.isEmpty then fallback
        else intent.reconciliations)
      (intent.postWriteGuard.or fallbackGuard) intent.finishedAtMs
    return next
  if persists then
    match store.finalizeClaimedMutation intent with
    | .ok next => .ok next
    | .error _ => indeterminate
  else indeterminate

/-- The finalization of a task without a key. -/
def MutationTask.finalizeUnkeyed (task : MutationTask) (store : Store)
    (reconciliations : List ProviderReconciliation) (finishedAtMs : Int) :
    Except StoreError Store :=
  match task.failure with
  | some failure =>
    if !reconciliations.isEmpty ∨ task.recovery.isSome ∨
        task.guard.isSome then
      store.finalizePartialOperation task.receiptId failure.report.summary
        task.operationId task.operationStatus failure.report.error
        reconciliations task.guard task.recovery finishedAtMs
    else .ok (finalizeBoth store)
  | none => .ok (finalizeBoth store)
where
  finalizeBoth (store : Store) : Store :=
    { store with
      receipts := Store.finalizeReceipt store.receipts task.receiptId
        task.receiptStatus task.receiptMessage finishedAtMs
        task.receiptError,
      operations := OperationTable.finalizeOperation store.operations
        task.operationId task.operationStatus finishedAtMs
        task.operationError }

/-- What can happen to the system. -/
inductive SystemAction where
  | start (mutationId : Option MutationId) (fingerprint : String)
      (request : Request) (reads : HandlerReads) (source : OperationSource)
      (nowMs : Int)
  | advance (operationId : OperationId) (fate : StepFate)
  | finalize (operationId : OperationId) (data : String) (persists : Bool)
      (currentItem : Option String) (nowMs : Int)
  | drop (operationId : OperationId)
  | crash
  | recover (mutationId : MutationId) (currentItem : Option String)
      (nowMs : Int)

namespace MutationSystem

variable (system : MutationSystem)

/-- The daemon on an empty database. -/
def initial : MutationSystem where
  store := .empty
  tasks := []
  minted := 0
  reversalsSent := []
  undoTargets := []

def task? (operationId : OperationId) : Option MutationTask :=
  system.tasks.find? fun task => task.operationId = operationId

/-- Whether a request finds its lane free, as far as the lane is modelled. -/
def laneIsFree (request : Request) : Bool :=
  mutationLaneKind request != some .operation ||
    system.tasks.all fun task =>
      mutationLaneKind task.recorded.request != some .operation

/-- The operation a recorded undo names when it starts. -/
def startTargets (recorded : RecordedMutation) (operationId : OperationId) :
    List (OperationId × OperationId) :=
  match recorded.initialReversalPlan with
  | some (.redo original) => [(operationId, original)]
  | _ => []

/-- A handler records its mutation and its body becomes a task.  A held key is
answered from its claim instead. -/
def startMutation (topology : ProviderTopology)
    (mutationId : Option MutationId) (fingerprint : String)
    (request : Request) (reads : HandlerReads) (source : OperationSource)
    (nowMs : Int) : Option MutationSystem :=
  if system.laneIsFree request = false ∨
      (mutationId.bind system.store.mutationDedup.get?).isSome then
    none
  else do
    let recorded ← system.store.record topology reads request
    let operationId : OperationId := ⟨system.minted⟩
    let receiptId : ReceiptId := ⟨system.minted⟩
    match system.store.recordPending mutationId fingerprint recorded.request
        (recorded.pendingReceipt receiptId nowMs)
        (recorded.pendingOperation operationId receiptId source nowMs)
        nowMs with
    | .error _ => none
    | .ok store =>
      some
        { system with
          store := store,
          tasks := system.tasks ++
            [{ operationId := operationId,
               receiptId := receiptId,
               mutationId := mutationId,
               recorded := recorded,
               remaining := recorded.body,
               failure := none }],
          minted := system.minted + 1,
          undoTargets :=
            startTargets recorded operationId ++ system.undoTargets }

/-- Replace the task of an operation. -/
def updateTask (operationId : OperationId)
    (change : MutationTask → MutationTask) : List MutationTask :=
  system.tasks.map fun task =>
    if task.operationId = operationId then change task else task

/-- The tasks without the one of an operation. -/
def otherTasks (operationId : OperationId) : List MutationTask :=
  system.tasks.filter fun task => task.operationId ≠ operationId

/-- The next step of a body succeeds. -/
def completeStep (task : MutationTask) (step : BodyStep)
    (rest : List BodyStep) : Option MutationSystem :=
  match step.perform task.operationId system.store with
  | .error _ => none
  | .ok store =>
    some
      { system with
        store := store,
        tasks := system.updateTask task.operationId fun other =>
          { other with remaining := rest },
        reversalsSent :=
          step.sends task.operationId ++ system.reversalsSent,
        undoTargets :=
          step.records task.operationId ++ system.undoTargets }

/-- One step of a live body. -/
def advanceTask (operationId : OperationId) (fate : StepFate) :
    Option MutationSystem := do
  let task ← system.task? operationId
  if task.failure.isSome then none
  else
    match task.remaining with
    | [] => none
    | step :: rest =>
      match fate with
      | .succeeds =>
        if step.maySucceed then system.completeStep task step rest else none
      | fate => do
        let failure ← step.failureOf task.recorded.retained fate
        some
          { system with
            tasks := system.updateTask operationId fun other =>
              { other with failure := some failure } }

/-- The store and the minted ids a finalization leaves.  A finalization that
cannot be persisted leaves the claim to recovery. -/
def finalizedStore (topology : ProviderTopology) (task : MutationTask)
    (data : String) (persists : Bool) (currentItem : Option String)
    (nowMs : Int) : Store × Nat :=
  let own := materializeSeeds task.receiptId task.operationId system.minted
    task.seeds
  let minted := system.minted + own.length
  match task.mutationId with
  | none =>
    match task.finalizeUnkeyed system.store own nowMs with
    | .ok store => (store, minted)
    | .error _ => (system.store, minted)
  | some mutationId =>
    match system.store.recoveryReconciliationIntent topology currentItem
        task.recorded.request task.receiptId task.operationId minted with
    | .error _ => (system.store, minted)
    | .ok (fallback, fallbackGuard) =>
      match persistClaimedMutationFinalization system.store
          (task.finalization mutationId data own nowMs) fallback
          fallbackGuard persists with
      | .ok store => (store, minted + fallback.length)
      | .error _ => (system.store, minted + fallback.length)

/-- The end of a task whose body has ended. -/
def finalizeTask (topology : ProviderTopology) (operationId : OperationId)
    (data : String) (persists : Bool) (currentItem : Option String)
    (nowMs : Int) : Option MutationSystem := do
  let task ← system.task? operationId
  if task.isFinished then
    let finalized :=
      system.finalizedStore topology task data persists currentItem nowMs
    some
      { system with
        store := finalized.1,
        minted := finalized.2,
        tasks := system.otherTasks operationId }
  else none

/-- Whether a live body owns a key. -/
def isLive (mutationId : MutationId) : Bool :=
  system.tasks.any fun task => task.mutationId = some mutationId

/-- Recover one claim that no live body owns. -/
def recoverClaim (topology : ProviderTopology) (mutationId : MutationId)
    (currentItem : Option String) (nowMs : Int) : Option MutationSystem := do
  let row ← system.store.mutationDedup.get? mutationId
  let claim ← row.processingClaim?
  if system.isLive mutationId then none
  else
    match system.store.recoverProcessingMutationClaim topology currentItem
        claim system.minted nowMs with
    | .error _ => none
    | .ok (store, _, reconciliations) =>
      some
        { system with
          store := store,
          minted := system.minted + reconciliations.length }

/-- One step of the system. -/
def step (topology : ProviderTopology) (system : MutationSystem) :
    SystemAction → Option MutationSystem
  | .start mutationId fingerprint request reads source nowMs =>
    system.startMutation topology mutationId fingerprint request reads source
      nowMs
  | .advance operationId fate => system.advanceTask operationId fate
  | .finalize operationId data persists currentItem nowMs =>
    system.finalizeTask topology operationId data persists currentItem nowMs
  | .drop operationId =>
    some { system with tasks := system.otherTasks operationId }
  | .crash => some { system with tasks := [] }
  | .recover mutationId currentItem nowMs =>
    system.recoverClaim topology mutationId currentItem nowMs

/-- The daemon's mutations under one provider topology. -/
def machine (topology : ProviderTopology) :
    GuardedMachine MutationSystem SystemAction where
  step := step topology

/-- The systems some interleaving of requests, steps, crashes and recoveries
leads to. -/
def Reachable (topology : ProviderTopology) (system : MutationSystem) :
    Prop :=
  (machine topology).Reachable (· = initial) system

end MutationSystem

end Spotuify
