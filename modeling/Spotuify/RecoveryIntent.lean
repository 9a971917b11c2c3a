import Spotuify.LogUpdates
import Spotuify.UndoPlan

/-!
# What recovery asks for

A claim that is still processing after its body is gone is recovered from
durable data only: the request, the operation's row, its subject link, and the
members of a bulk undo.  They give the provider domains that must be
reconciled and the guard of the operation that was acted on.
-/

namespace Spotuify

/-- Why a recovery intent cannot be derived or persisted. -/
inductive RecoveryError where
  | operationNotFound (operationId : OperationId)
  | unroutable (uri : ResourceUri)
  | providerNotConfigured (provider : ProviderId)
  | uri (error : UriError)
  | store (error : StoreError)
  deriving DecidableEq

/-- `ProviderReconciliationSeed`. -/
structure ReconciliationSeed where
  provider : ProviderId
  target : SyncTarget
  scope : ReconciliationScope
  resourceUris : List String
  deriving DecidableEq

namespace ReconciliationSeed

/-- `materialize`: a full-domain reconciliation names no resource. -/
def materialize (seed : ReconciliationSeed) (receiptId : ReceiptId)
    (operationId : OperationId) (reconciliationId : ReconciliationId) :
    ProviderReconciliation where
  reconciliationId := reconciliationId
  receiptId := receiptId
  operationId := operationId
  provider := seed.provider
  target := seed.target
  scope := seed.scope
  resourceUris :=
    match seed.scope with
    | .targeted => seed.resourceUris
    | .fullDomain => []
  minimumSuccessfulPasses := 1

end ReconciliationSeed

/-- Materialize seeds under the reconciliation ids that are minted next. -/
def materializeSeeds (receiptId : ReceiptId) (operationId : OperationId) :
    Nat → List ReconciliationSeed → List ProviderReconciliation
  | _, [] => []
  | minted, seed :: rest =>
    seed.materialize receiptId operationId ⟨minted⟩ ::
      materializeSeeds receiptId operationId (minted + 1) rest

/-- `require_stability_pass`. -/
def ProviderReconciliation.requireStabilityPass
    (reconciliation : ProviderReconciliation) : ProviderReconciliation :=
  { reconciliation with minimumSuccessfulPasses := 2 }

def sortedResources (resources : List String) : List String :=
  (resources.insertionSort (· ≤ ·)).dedup

/-- `merge_reconciliation_seed`. -/
def mergeReconciliationSeed :
    List ReconciliationSeed → ReconciliationSeed → List ReconciliationSeed
  | [], candidate =>
    [{ candidate with resourceUris := sortedResources candidate.resourceUris }]
  | existing :: rest, candidate =>
    if existing.provider = candidate.provider ∧
        existing.target = candidate.target then
      if existing.scope = .fullDomain ∨ candidate.scope = .fullDomain then
        { existing with scope := .fullDomain, resourceUris := [] } :: rest
      else
        { existing with
          resourceUris := sortedResources
            (existing.resourceUris ++ candidate.resourceUris) } :: rest
    else
      existing :: mergeReconciliationSeed rest candidate

/-- The provider domain an operation kind may have left stale. -/
def operationReconciliationTarget :
    OperationKind → Option (SyncTarget × ReconciliationScope)
  | .playlistAdd | .playlistRemove | .playlistReorder =>
    some (.playlists, .targeted)
  | .playlistCreate | .playlistSetImage | .playlistUnfollow =>
    some (.playlists, .fullDomain)
  | .librarySave | .libraryUnsave | .artistFollow | .artistUnfollow
  | .like | .unlike => some (.library, .targeted)
  | _ => none

/-- The playlist a captured state names. -/
def PreState.playlistId? : PreState → Option String
  | .playlistAdd playlistId _ _ | .playlistRemove playlistId _ _
  | .playlistCreate playlistId | .playlistReorder playlistId _ _ _ _ =>
    some playlistId
  | _ => none

/-- The resources of an operation's row. -/
def Operation.reconciliationUris (operation : Operation) : List String :=
  sortedResources
    (operation.subjectUris ++
      (operation.preState.bind PreState.playlistId?).toList)

/-- The first of some texts that parses. -/
def firstResource : List String → Option ResourceUri
  | [] => none
  | value :: rest =>
    match ResourceUri.parse value with
    | .ok uri => some uri
    | .error _ => firstResource rest

namespace ProviderTopology

variable (topology : ProviderTopology)

/-- The namespace of a configured provider. -/
def providerScheme (provider : ProviderId) : Option UriScheme :=
  if provider = topology.defaultProvider then some topology.defaultScheme
  else
    (topology.schemes.find? fun entry => entry.2 = provider).map Prod.fst

/-- `operation_reconciliation_seed`. -/
def operationReconciliationSeed (operation : Operation) :
    Except RecoveryError (Option ReconciliationSeed) :=
  match operationReconciliationTarget operation.kind with
  | none => .ok none
  | some (target, scope) =>
    let resourceUris := operation.reconciliationUris
    match firstResource resourceUris with
    | none => .ok none
    | some uri =>
      match topology.providerForUri uri with
      | none => .error (.unroutable uri)
      | some provider =>
        .ok (some
          { provider := provider,
            target := target,
            scope := scope,
            resourceUris := resourceUris })

/-- The merged seeds of some operations. -/
def operationSeeds :
    List ReconciliationSeed → List Operation →
      Except RecoveryError (List ReconciliationSeed)
  | seeds, [] => .ok seeds
  | seeds, operation :: rest => do
    match ← topology.operationReconciliationSeed operation with
    | none => operationSeeds seeds rest
    | some seed => operationSeeds (mergeReconciliationSeed seeds seed) rest

/-- Whether a value is a structured resource, and then who owns it. -/
def ownerOfResource (value : String) : Option (Option ProviderId) :=
  match ResourceUri.parse value with
  | .ok uri => some (topology.providerForUri uri)
  | .error _ => none

def routedOrDefault (value : String) : Option ProviderId :=
  (topology.ownerOfResource value).getD (some topology.defaultProvider)

def scopedResource (value : String) (requested : Option ProviderId) :
    Option ProviderId :=
  match topology.ownerOfResource value with
  | some (some owner) =>
    if requested.any fun provider => owner ≠ provider then none
    else some owner
  | some none => none
  | none => some (requested.getD topology.defaultProvider)

/-- The one provider of a queue batch. -/
def queueBatchProvider (uris : List String) : Option ProviderId :=
  match (uris.map topology.routedOrDefault).dedup with
  | [some provider] => some provider
  | _ => none

/-- `request_provider_context` of the mutating requests; `currentItem` is the
item of the playback snapshot. -/
def requestProviderContext (currentItem : Option String) :
    Request → Option ProviderId
  | .playlistCreate _ _ _ provider =>
    some (provider.getD topology.defaultProvider)
  | .playbackCommand (.playUri uri _) | .queueAdd uri | .radioStart uri _
  | .librarySave (some uri) _ | .libraryUnsave uri | .artistFollow uri
  | .artistUnfollow uri => topology.routedOrDefault uri
  | .playlistAddItems playlist _ provider
  | .playlistRemoveItems playlist _ provider
  | .playlistRemoveOccurrences playlist _ provider
  | .playlistUnfollow playlist provider
  | .playlistSetImage playlist _ provider =>
    topology.scopedResource playlist provider
  | .queueAddMany uris => topology.queueBatchProvider uris
  | .librarySave none true | .playbackCommand _ | .deviceTransfer _ =>
    currentItem.elim (some topology.defaultProvider) topology.routedOrDefault
  | .librarySave none false | .opsUndo .. | .opsRedo _ => none

/-- `playlist_resource` of a selected provider. -/
def playlistResource (provider : ProviderId) (value : String) :
    Except RecoveryError ResourceUri :=
  match topology.providerScheme provider with
  | none => .error (.providerNotConfigured provider)
  | some scheme =>
    match ResourceUri.parse value with
    | .ok uri => .ok uri
    | .error _ =>
      match ResourceUri.new scheme .playlist value with
      | .ok uri => .ok uri
      | .error error => .error (.uri error)

end ProviderTopology

/-- The resource of the playlist a request names. -/
def ProviderTopology.requestedPlaylistUris (topology : ProviderTopology)
    (provider : ProviderId) :
    Option String → Except RecoveryError (List String)
  | none => .ok []
  | some playlist => do
    let resource ← topology.playlistResource provider playlist
    return [resource.asUri]

/-- The provider domain a request may have left stale, and the playlist it
names. -/
def requestReconciliationTarget :
    Request → Option (SyncTarget × ReconciliationScope × Option String)
  | .playlistAddItems playlist _ _ | .playlistRemoveItems playlist _ _
  | .playlistRemoveOccurrences playlist _ _ =>
    some (.playlists, .targeted, some playlist)
  | .playlistCreate .. | .playlistUnfollow .. | .playlistSetImage .. =>
    some (.playlists, .fullDomain, none)
  | .librarySave .. | .libraryUnsave _ | .artistFollow _
  | .artistUnfollow _ => some (.library, .targeted, none)
  | _ => none

/-- `request_reconciliation_seed`. -/
def ProviderTopology.requestReconciliationSeed (topology : ProviderTopology)
    (currentItem : Option String) (request : Request)
    (operation : Operation) :
    Except RecoveryError (Option ReconciliationSeed) :=
  match requestReconciliationTarget request with
  | none => .ok none
  | some (target, scope, playlist) =>
    match topology.requestProviderContext currentItem request with
    | none => .ok none
    | some provider => do
      let playlistUris ← topology.requestedPlaylistUris provider playlist
      return some
        { provider := provider,
          target := target,
          scope := scope,
          resourceUris := operation.subjectUris ++ playlistUris }

namespace Store

variable (store : Store)

def getOperation (operationId : OperationId) :
    Except RecoveryError Operation :=
  match store.operations.get? operationId with
  | some operation => .ok operation
  | none => .error (.operationNotFound operationId)

/-- `get_subject_operation`: follow the subject link of an undo or redo. -/
def getSubjectOperation (operationId : OperationId) : Option Operation :=
  (store.operations.get? operationId).bind fun outer =>
    outer.subjectOpId.bind store.operations.get?

/-- The operation an undo or redo acted on: its link, else the request. -/
def recoverySubject (outer : OperationId) (requested : Option OperationId) :
    Except RecoveryError (Option Operation) :=
  match store.getSubjectOperation outer with
  | some subject => .ok (some subject)
  | none =>
    match requested with
    | none => .ok none
    | some requested => do
      let subject ← store.getOperation requested
      return some subject

/-- The guard and the seeds of an undo or redo of one operation. -/
def subjectRecovery (topology : ProviderTopology)
    (guard : OperationId → PostWriteOperationGuard) (outer : OperationId)
    (requested : Option OperationId) :
    Except RecoveryError
      (List ReconciliationSeed × Option PostWriteOperationGuard) := do
  match ← store.recoverySubject outer requested with
  | none => return ([], none)
  | some subject =>
    let seeds ← topology.operationSeeds [] [subject]
    return (seeds, some (guard subject.operationId))

/-- The seeds and the guard of `recovery_reconciliation_intent`. -/
def recoverySeeds (topology : ProviderTopology)
    (currentItem : Option String) (request : Request)
    (outer : OperationId) :
    Except RecoveryError
      (List ReconciliationSeed × Option PostWriteOperationGuard) := do
  let outerOperation ← store.getOperation outer
  match request with
  | .opsUndo _ _ _ (some _) =>
    let operations := store.operationsForBulkUndoRecovery outer
    let seeds ← topology.operationSeeds [] operations
    return (seeds,
      (operations.find? fun operation =>
        operation.undoneByOpId ≠ some outer).map fun operation =>
          .disableUndo operation.operationId)
  | .opsUndo requested _ _ none =>
    store.subjectRecovery topology .disableUndo outer requested
  | .opsRedo requested =>
    store.subjectRecovery topology .markRedone outer requested
  | request =>
    match ← topology.operationSeeds [] [outerOperation] with
    | [] =>
      match ← topology.requestReconciliationSeed currentItem request
          outerOperation with
      | none => return ([], none)
      | some seed => return (mergeReconciliationSeed [] seed, none)
    | seeds => return (seeds, none)

/-- `recovery_reconciliation_intent`. -/
def recoveryReconciliationIntent (topology : ProviderTopology)
    (currentItem : Option String) (request : Request)
    (receiptId : ReceiptId) (operationId : OperationId) (minted : Nat) :
    Except RecoveryError
      (List ProviderReconciliation × Option PostWriteOperationGuard) := do
  let (seeds, guard) ←
    store.recoverySeeds topology currentItem request operationId
  return (materializeSeeds receiptId operationId minted seeds, guard)

end Store

/-- A claim row that is still processing. -/
structure ProcessingMutationClaim where
  mutationId : MutationId
  request : Request
  receiptId : ReceiptId
  operationId : OperationId

/-- The claim `processing_mutation_claims` reads from a row. -/
def MutationDedupRow.processingClaim? (row : MutationDedupRow) :
    Option ProcessingMutationClaim :=
  match row.state, row.receiptId, row.operationId with
  | .processing, some receiptId, some operationId =>
    some
      { mutationId := row.mutationId,
        request := row.request,
        receiptId := receiptId,
        operationId := operationId }
  | _, _, _ => none

/-- `recover_processing_mutation_claim`.  The reconciliations are returned
because their workers are launched next. -/
def Store.recoverProcessingMutationClaim (store : Store)
    (topology : ProviderTopology) (currentItem : Option String)
    (claim : ProcessingMutationClaim) (minted : Nat) (nowMs : Int) :
    Except RecoveryError
      (Store × Response × List ProviderReconciliation) := do
  let (reconciliations, guard) ← store.recoveryReconciliationIntent topology
    currentItem claim.request claim.receiptId claim.operationId minted
  let stable :=
    reconciliations.map ProviderReconciliation.requireStabilityPass
  match store.markMutationIndeterminate claim.mutationId stable guard
      nowMs with
  | .error error => .error (.store error)
  | .ok (next, response) => return (next, response, stable)

namespace ProviderTopology

variable (topology : ProviderTopology)

/-- The owner of the operation's first resource is configured. -/
def RoutesOperation (operation : Operation) : Prop :=
  operationReconciliationTarget operation.kind ≠ none →
    ∀ uri, firstResource operation.reconciliationUris = some uri →
      (topology.providerForUri uri).isSome = true

variable {topology}

/-- An operation has a seed, or needs none, exactly when it is routed. -/
theorem operationReconciliationSeed_ok_iff {operation : Operation} :
    (∃ seed, topology.operationReconciliationSeed operation = .ok seed) ↔
      topology.RoutesOperation operation := by
  unfold operationReconciliationSeed RoutesOperation
  cases target : operationReconciliationTarget operation.kind with
  | none => simp
  | some both =>
    cases resource : firstResource operation.reconciliationUris with
    | none => simp [resource]
    | some uri =>
      cases owner : topology.providerForUri uri with
      | none => simp [resource, owner]
      | some provider => simp [resource, owner]

theorem operationSeeds_ok_iff {seeds : List ReconciliationSeed}
    {operations : List Operation} :
    (∃ merged, topology.operationSeeds seeds operations = .ok merged) ↔
      ∀ operation ∈ operations, topology.RoutesOperation operation := by
  induction operations generalizing seeds with
  | nil => simp [operationSeeds]
  | cons operation rest inductionHypothesis =>
    rw [List.forall_mem_cons, ← operationReconciliationSeed_ok_iff,
      operationSeeds]
    cases derived : topology.operationReconciliationSeed operation with
    | error error => simp [bind, Except.bind]
    | ok seed =>
      cases seed with
      | none =>
        simpa [bind, Except.bind] using @inductionHypothesis seeds
      | some seed =>
        simpa [bind, Except.bind] using
          @inductionHypothesis (mergeReconciliationSeed seeds seed)

/-- A request that names no playlist always has an answer. -/
theorem requestReconciliationSeed_ok {currentItem : Option String}
    {request : Request} {operation : Operation}
    (noPlaylist : ∀ target scope playlist,
      requestReconciliationTarget request = some (target, scope, playlist) →
        playlist = none) :
    ∃ seed, topology.requestReconciliationSeed currentItem request
      operation = .ok seed := by
  unfold requestReconciliationSeed
  cases target : requestReconciliationTarget request with
  | none => exact ⟨none, rfl⟩
  | some all =>
    obtain ⟨domain, scope, playlist⟩ := all
    cases noPlaylist _ _ _ target
    dsimp only
    cases topology.requestProviderContext currentItem request with
    | none => exact ⟨none, rfl⟩
    | some provider => exact ⟨_, rfl⟩

end ProviderTopology

/-- The reconciliations of one receipt and operation, under ids minted from a
bound on. -/
theorem mem_materializeSeeds {receiptId : ReceiptId}
    {operationId : OperationId} {minted : Nat}
    {seeds : List ReconciliationSeed}
    {reconciliation : ProviderReconciliation}
    (member : reconciliation ∈
      materializeSeeds receiptId operationId minted seeds) :
    reconciliation.receiptId = receiptId ∧
      reconciliation.operationId = operationId ∧
      minted ≤ reconciliation.reconciliationId.value ∧
      reconciliation.reconciliationId.value < minted + seeds.length := by
  induction seeds generalizing minted with
  | nil => simp [materializeSeeds] at member
  | cons seed rest inductionHypothesis =>
    rw [materializeSeeds, List.mem_cons] at member
    rcases member with rfl | inRest
    · simp [ReconciliationSeed.materialize]
    · obtain ⟨receiptEq, operationEq, lower, upper⟩ :=
        inductionHypothesis inRest
      refine ⟨receiptEq, operationEq, ?_, ?_⟩
      · omega
      · rw [List.length_cons]
        omega

@[simp]
theorem length_materializeSeeds (receiptId : ReceiptId)
    (operationId : OperationId) (minted : Nat)
    (seeds : List ReconciliationSeed) :
    (materializeSeeds receiptId operationId minted seeds).length =
      seeds.length := by
  induction seeds generalizing minted with
  | nil => rfl
  | cons seed rest inductionHypothesis =>
    simp [materializeSeeds, inductionHypothesis]

end Spotuify
