import Spotuify.RecoveryIntent

/-!
# Recorded mutations and their bodies

Every mutating handler records an operation and then runs a body.  What it
records, and which durable and remote steps its body takes, is a function of
the request, of what the handler read from outside the store, and, for undo
and redo, of the operations the log selected.  The remote outcome of a step is
not known here; a body is the list of the steps it would take if all went
well.
-/

namespace Spotuify

/-- One step of a mutation body. -/
inductive BodyStep where
  | updatePlan (preState : PreState) (plan : ReversalPlan)
  | updateSubjectUris (subjectUris : List String)
  | callProvider
  | populatePlaylist
  | activatePlan (preState : PreState) (plan : ReversalPlan)
  | nothingPlaying
  | linkSubject (subject : OperationId)
  | recordCandidates (members : List Operation)
  | checkReversal (member : Operation)
  | sendReversal (member : OperationId)
  | awaitReversal (member : OperationId)
  | markUndone (member : OperationId)
  | requireUndone (subject : Operation)
  | replayForward (subject : OperationId)
  | markRedone (subject : OperationId)
  deriving DecidableEq

/-- What a handler hands to `record_operation` or
`spawn_optimistic_mutation`.  `retained` is the plan a creation keeps for its
remote artifact when its body fails later. -/
structure RecordedMutation where
  request : Request
  action : String
  optimistic : Bool
  subjectUris : List String
  initialPreState : Option PreState
  initialReversalPlan : Option ReversalPlan
  body : List BodyStep
  retained : Option PartialOperationRecovery

/-- The kind a request is recorded under. -/
def recordedKind : Request → OperationKind
  | .playlistAddItems .. => .playlistAdd
  | .playlistRemoveItems .. | .playlistRemoveOccurrences .. => .playlistRemove
  | .playlistCreate .. => .playlistCreate
  | .playlistUnfollow .. => .playlistUnfollow
  | .playlistSetImage .. => .playlistSetImage
  | .librarySave .. => .librarySave
  | .libraryUnsave _ => .libraryUnsave
  | .artistFollow _ => .artistFollow
  | .artistUnfollow _ => .artistUnfollow
  | .deviceTransfer _ => .transfer
  | .playbackCommand command => playbackCommandOperationKind command
  | .queueAdd _ | .queueAddMany _ | .radioStart .. => .queueAdd
  | .opsUndo .. => .undo
  | .opsRedo _ => .redo

/-- A plan that declares an operation not reversible. -/
def ReversalPlan.isNotReversible : ReversalPlan → Bool
  | .notReversible _ => true
  | _ => false

namespace RecordedMutation

variable (recorded : RecordedMutation)

/-- The flag a row is recorded with: the kind has an inverse, and the initial
plan does not deny it. -/
def reversible : Bool :=
  (recordedKind recorded.request).isReversible &&
    !recorded.initialReversalPlan.any ReversalPlan.isNotReversible

/-- The pending row of a recorded mutation. -/
def pendingOperation (operationId : OperationId) (receiptId : ReceiptId)
    (source : OperationSource) (occurredAtMs : Int) : Operation where
  operationId := operationId
  kind := recordedKind recorded.request
  occurredAtMs := occurredAtMs
  finishedAtMs := none
  source := source
  requester := none
  subjectUris := recorded.subjectUris
  reversible := recorded.reversible
  reversalPlan := recorded.initialReversalPlan
  preState := recorded.initialPreState
  status := .pending
  receiptId := some receiptId
  subjectOpId := none
  undoneByOpId := none
  redoneByOpId := none
  errorMessage := none

/-- The pending receipt of a recorded mutation. -/
def pendingReceipt (receiptId : ReceiptId) (startedAtMs : Int) : Receipt where
  receiptId := receiptId
  action := recorded.action
  status := .pending
  message :=
    if recorded.optimistic then recorded.action ++ " queued" else "queued"
  startedAtMs := startedAtMs
  finishedAtMs := none
  error := none

end RecordedMutation

/-- What a handler reads outside the store while it prepares its mutation and
while its body runs. -/
structure HandlerReads where
  provider : ProviderId
  playlistId : String
  playlistUri : ResourceUri
  versionToken : Option String
  removedItems : List (String × Nat)
  postVersion : Option String
  createdUri : ResourceUri
  currentItem : Option String
  priorDeviceId : Option String
  discoveredUris : List String
  selected : List OperationId

/-- `preflight_playlist_item_uri`: a track or an episode of the playlist's
provider. -/
def ProviderTopology.isPlaylistItem (topology : ProviderTopology)
    (provider : ProviderId) (value : String) : Bool :=
  match ResourceUri.parse value with
  | .ok uri =>
    (uri.kind == .track || uri.kind == .episode) &&
      topology.providerForUri uri == some provider
  | .error _ => false

/-- The preflight of the items of a playlist request. -/
def ProviderTopology.arePlaylistItems (topology : ProviderTopology)
    (provider : ProviderId) (values : List String) : Bool :=
  !values.isEmpty && values.all (topology.isPlaylistItem provider)

namespace HandlerReads

variable (reads : HandlerReads)

def playlistAdd (request : Request) (uris : List String) :
    RecordedMutation where
  request := request
  action := "playlist-add"
  optimistic := true
  subjectUris := uris
  initialPreState := none
  initialReversalPlan := none
  body :=
    [.updatePlan (.playlistAdd reads.playlistId reads.versionToken uris)
        (.playlistRemoveTracks reads.playlistId uris reads.versionToken),
      .callProvider]
  retained := none

/-- The state a removal captures before its write. -/
def removalPreState : PreState :=
  .playlistRemove reads.playlistId reads.versionToken reads.removedItems

/-- `execute_playlist_remove_plan`: the plan is activated by the version the
write answered with. -/
def playlistRemove (request : Request) (subjectUris : List String) :
    RecordedMutation where
  request := request
  action := "playlist-remove"
  optimistic := true
  subjectUris := subjectUris
  initialPreState := some reads.removalPreState
  initialReversalPlan := some (.notReversible
    "playlist removal reversal awaits the provider's post-mutation version")
  body :=
    .callProvider ::
      match reads.postVersion with
      | none => []
      | some postVersion =>
        [.activatePlan reads.removalPreState
          (.playlistAddAtPositions reads.playlistId reads.removedItems
            (some postVersion))]
  retained := none

/-- What a created playlist is deleted with. -/
def creationRecovery : PartialOperationRecovery where
  preState := .playlistCreate reads.createdUri.asUri
  reversalPlan := .playlistDelete reads.createdUri.asUri
  subjectUris := [reads.createdUri.asUri]

def playlistCreate (request : Request) (uris : List String) :
    RecordedMutation where
  request := request
  action := "playlist-create"
  optimistic := false
  subjectUris := []
  initialPreState := none
  initialReversalPlan := none
  body :=
    [.callProvider,
      .updatePlan reads.creationRecovery.preState
        reads.creationRecovery.reversalPlan,
      .updateSubjectUris reads.creationRecovery.subjectUris] ++
      if uris.isEmpty then [] else [.populatePlaylist]
  retained := some reads.creationRecovery

/-- A write whose kind has no inverse. -/
def irreversibleWrite (request : Request) (action : String)
    (subjectUris : List String) : RecordedMutation where
  request := request
  action := action
  optimistic := true
  subjectUris := subjectUris
  initialPreState := none
  initialReversalPlan := none
  body := [.callProvider]
  retained := none

/-- The URI a save resolves to. -/
def resolvedSave (uri : Option String) (current : Bool) : Option String :=
  match uri with
  | some uri => some uri
  | none => if current then reads.currentItem else none

def librarySave (request : Request) (uri : Option String) (current : Bool) :
    RecordedMutation where
  request := request
  action := "save"
  optimistic := true
  subjectUris := uri.toList
  initialPreState := none
  initialReversalPlan := none
  body :=
    match reads.resolvedSave uri current with
    | none => [.nothingPlaying]
    | some resolved =>
      [.updatePlan (.librarySave resolved false) (.libraryUnsave resolved),
        .updateSubjectUris [resolved], .callProvider]
  retained := none

def libraryUnsave (request : Request) (uri : String) : RecordedMutation where
  request := request
  action := "unsave"
  optimistic := true
  subjectUris := [uri]
  initialPreState := some (.librarySave uri true)
  initialReversalPlan := some (.librarySave uri none)
  body := [.callProvider]
  retained := none

/-- The plan of a transfer: back to the prior device, if there was one. -/
def transferPlan : ReversalPlan :=
  match reads.priorDeviceId with
  | some deviceId => .transferToPriorDevice deviceId (some reads.provider)
  | none => .notReversible "no prior active device to restore"

def deviceTransfer (request : Request) : RecordedMutation where
  request := request
  action := "transfer"
  optimistic := true
  subjectUris := []
  initialPreState := none
  initialReversalPlan := none
  body :=
    [.callProvider,
      .updatePlan (.transfer reads.priorDeviceId) reads.transferPlan,
      .callProvider]
  retained := none

/-- A mutation that is recorded as not reversible up front. -/
def declaredIrreversible (request : Request) (action reason : String)
    (subjectUris : List String) (preState : Option PreState)
    (body : List BodyStep) : RecordedMutation where
  request := request
  action := action
  optimistic := true
  subjectUris := subjectUris
  initialPreState := preState
  initialReversalPlan := some (.notReversible reason)
  body := body
  retained := none

end HandlerReads

/-- `playback_command_action`, after a relative seek was resolved. -/
def playbackCommandAction : PlaybackCommand → String
  | .pause => "pause"
  | .resume => "resume"
  | .toggle => "toggle"
  | .next => "next"
  | .previous => "previous"
  | .playUri _ _ => "play-uri"
  | .seek _ | .seekRelative _ => "seek"
  | .volume _ => "volume"
  | .shuffle _ => "shuffle"
  | .repeat _ => "repeat"

def queueHasNoRemove : String :=
  "the remote queue has no remove operation"

/-- What the handlers of forward mutations record. -/
def HandlerReads.recordForward (reads : HandlerReads)
    (topology : ProviderTopology) (request : Request) :
    Option RecordedMutation :=
  match request with
  | .playlistAddItems _ uris _ =>
    if topology.arePlaylistItems reads.provider uris then
      some (reads.playlistAdd request uris)
    else none
  | .playlistRemoveItems _ uris _ =>
    if topology.arePlaylistItems reads.provider uris then
      some (reads.playlistRemove request uris)
    else none
  | .playlistRemoveOccurrences _ _ _ =>
    if topology.arePlaylistItems reads.provider
        (reads.removedItems.map Prod.fst) then
      some (reads.playlistRemove request (reads.removedItems.map Prod.fst))
    else none
  | .playlistCreate _ _ uris _ => some (reads.playlistCreate request uris)
  | .playlistUnfollow .. =>
    some (irreversibleWrite request "playlist-unfollow"
      [reads.playlistUri.asUri])
  | .playlistSetImage .. =>
    some (irreversibleWrite request "playlist-set-image"
      [reads.playlistUri.asUri])
  | .librarySave uri current => some (reads.librarySave request uri current)
  | .libraryUnsave uri => some (libraryUnsave request uri)
  | .artistFollow artist =>
    some (irreversibleWrite request "artist-follow" [artist])
  | .artistUnfollow artist =>
    some (irreversibleWrite request "artist-unfollow" [artist])
  | .deviceTransfer _ => some (reads.deviceTransfer request)
  | .playbackCommand command =>
    some (declaredIrreversible request (playbackCommandAction command)
      "transport" [] (some .transport) [.callProvider])
  | .queueAdd uri =>
    some (declaredIrreversible request "queue" queueHasNoRemove [uri]
      (some (.queueAdd uri)) [.callProvider])
  | .queueAddMany uris =>
    some (declaredIrreversible request "queue" queueHasNoRemove uris none
      [.callProvider])
  | .radioStart seedUri false =>
    some (declaredIrreversible request "radio queue" queueHasNoRemove
      [seedUri] none
      [.callProvider, .updateSubjectUris reads.discoveredUris, .callProvider])
  | .radioStart _ true | .opsUndo .. | .opsRedo _ => none

/-- `undo_single`: validate, send the reversal, wait for its outcome, and only
then flip the original. -/
def undoSingleSteps (member : Operation) : List BodyStep :=
  [.checkReversal member, .sendReversal member.operationId,
    .awaitReversal member.operationId, .markUndone member.operationId]

/-- `handle_ops_undo` of one operation. -/
def recordUndo (request : Request) (selected : Operation) :
    RecordedMutation where
  request := request
  action := "ops-undo"
  optimistic := false
  subjectUris := selected.subjectUris
  initialPreState := none
  initialReversalPlan := some (.redo selected.operationId)
  body := .linkSubject selected.operationId :: undoSingleSteps selected
  retained := none

/-- `handle_ops_undo` of a time window. -/
def recordBulkUndo (request : Request) (members : List Operation) :
    RecordedMutation where
  request := request
  action := "ops-undo"
  optimistic := false
  subjectUris := members.flatMap Operation.subjectUris
  initialPreState := none
  initialReversalPlan :=
    some (.notReversible "bulk undo is not atomically reversible")
  body := .recordCandidates members :: members.flatMap undoSingleSteps
  retained := none

/-- `handle_ops_redo`. -/
def recordRedo (request : Request) (selected : Operation) :
    RecordedMutation where
  request := request
  action := "ops-redo"
  optimistic := false
  subjectUris := selected.subjectUris
  initialPreState := none
  initialReversalPlan := some (.notReversible
    "redo is represented by the newly replayed forward operation")
  body :=
    [.requireUndone selected, .linkSubject selected.operationId,
      .replayForward selected.operationId, .markRedone selected.operationId]
  retained := none

/-- How many operations the default redo looks back over. -/
def redoLookback : Nat := 50

namespace OperationTable

instance (operations : OperationTable) (sinceMs : Int)
    (source : Option OperationSource) :
    DecidablePred (operations.IsReversibleSince sinceMs source) := by
  intro operation
  unfold IsReversibleSince
  infer_instance

/-- The decidable half of a window: its rows are all in the list. -/
theorem isReversibleListSince_iff {operations : OperationTable}
    {sinceMs : Int} {source : Option OperationSource}
    {selected : List Operation} :
    operations.IsReversibleListSince sinceMs source selected ↔
      selected.Nodup ∧
        (∀ operation ∈ selected,
          operations.IsReversibleSince sinceMs source operation) ∧
        (∀ operation ∈ operations.rows,
          operations.IsReversibleSince sinceMs source operation →
            operation ∈ selected) ∧
        selected.Pairwise fun newer older =>
          older.occurredAtMs ≤ newer.occurredAtMs := by
  constructor
  · rintro ⟨nodup, members, newestFirst⟩
    exact ⟨nodup, fun operation => (members operation).mp,
      fun operation _ => (members operation).mpr, newestFirst⟩
  · rintro ⟨nodup, sound, complete, newestFirst⟩
    refine ⟨nodup, ?_, newestFirst⟩
    intro operation
    exact ⟨sound operation, fun offered => complete operation offered.1 offered⟩

instance (operations : OperationTable) (sinceMs : Int)
    (source : Option OperationSource) (selected : List Operation) :
    Decidable (operations.IsReversibleListSince sinceMs source selected) :=
  decidable_of_iff _ isReversibleListSince_iff.symm

/-- What the default redo may select: the first undone row among the newest
rows, where equal times are not ordered further. -/
def IsLastUndone (operations : OperationTable) (operation : Operation) :
    Prop :=
  operation ∈ operations.rows ∧ operation.status = .undone ∧
    (∀ other ∈ operations.rows, other.status = .undone →
      other.occurredAtMs ≤ operation.occurredAtMs) ∧
    (operations.rows.countP fun other =>
      operation.occurredAtMs < other.occurredAtMs) < redoLookback

instance (operations : OperationTable) (operation : Operation) :
    Decidable (operations.IsLastUndone operation) := by
  unfold IsLastUndone
  infer_instance

end OperationTable

namespace Store

variable (store : Store)

/-- The rows of some operation ids, if all exist. -/
def selectedOperations : List OperationId → Option (List Operation)
  | [] => some []
  | operationId :: rest => do
    let operation ← store.operations.get? operationId
    return operation :: (← selectedOperations rest)

/-- Whether an undo of an id, or of the latest operation, may act on a row. -/
def undoSelects (operationId : Option OperationId)
    (selected : Operation) : Bool :=
  match operationId with
  | some operationId => decide (selected.operationId = operationId)
  | none => decide (store.operations.IsLastReversibleOperation selected)

/-- Whether a redo may act on a row. -/
def redoSelects (topology : ProviderTopology)
    (operationId : Option OperationId) (selected : Operation) : Bool :=
  (match operationId with
    | some operationId => decide (selected.operationId = operationId)
    | none => decide (store.operations.IsLastUndone selected)) &&
    selected.receiptId.isSome &&
    match topology.operationReconciliationSeed selected with
    | .ok _ => true
    | .error _ => false

/-- What a request records, or `none` when its handler answers without
recording.  The request of a bulk undo is recorded without an id. -/
def record (topology : ProviderTopology) (reads : HandlerReads)
    (request : Request) : Option RecordedMutation :=
  match request with
  | .opsUndo operationId false force none => do
    let [selected] ← store.selectedOperations reads.selected | none
    if store.undoSelects operationId selected then
      some (recordUndo (.opsUndo operationId false force none) selected)
    else none
  | .opsUndo _ false force (some sinceMs) => do
    let members ← store.selectedOperations reads.selected
    if store.operations.IsReversibleListSince sinceMs none members then
      some (recordBulkUndo (.opsUndo none false force (some sinceMs)) members)
    else none
  | .opsUndo _ true _ _ => none
  | .opsRedo operationId => do
    let [selected] ← store.selectedOperations reads.selected | none
    if store.redoSelects topology operationId selected then
      some (recordRedo (.opsRedo operationId) selected)
    else none
  | request => reads.recordForward topology request

end Store

end Spotuify
