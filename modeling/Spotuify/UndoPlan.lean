import Spotuify.GuardedMachine
import Spotuify.ProviderMutation

/-!
# Undo plans

Undo first validates the logged operation, then compares the plan's version
token with the provider's current one, and finally turns the plan into the
remote call that executes it.  This file translates the three pure halves; the
providers a plan's resources are routed to are described by the registry's
scheme table.
-/

namespace Spotuify

/-- Why an operation cannot be undone. -/
inductive UndoError where
  | notReversible (kind : OperationKind)
  | notInUndoableState (operationId : OperationId) (status : OperationStatus)
  | versionTokenMismatch (playlistId stored current : String)
  | missingPreState (operationId : OperationId)
  | missingReversalPlan (operationId : OperationId)
  deriving DecidableEq

/-- `validate_undoable`. -/
def validateUndoable (operation : Operation) : Except UndoError Unit :=
  if !operation.reversible then
    .error (.notReversible operation.kind)
  else if operation.status ≠ .succeeded then
    .error (.notInUndoableState operation.operationId operation.status)
  else if operation.preState.isNone then
    .error (.missingPreState operation.operationId)
  else if operation.reversalPlan.isNone then
    .error (.missingReversalPlan operation.operationId)
  else
    .ok ()

/-- The playlist and the stored token a plan must be compared on. -/
def versionTokenCheckTarget : ReversalPlan → Option (String × String)
  | .playlistRemoveTracks playlistId _ (some token)
  | .playlistAddAtPositions playlistId _ (some token)
  | .playlistReorder playlistId _ _ _ (some token) => some (playlistId, token)
  | _ => none

/-- `check_version_token`: a missing current token is a mismatch. -/
def checkVersionToken (plan : ReversalPlan)
    (fetchCurrentVersionToken : String → Option String) (force : Bool) :
    Except UndoError Unit :=
  match versionTokenCheckTarget plan with
  | none => .ok ()
  | some (playlistId, stored) =>
    if force then
      .ok ()
    else
      match fetchCurrentVersionToken playlistId with
      | none => .error (.versionTokenMismatch playlistId stored "")
      | some current =>
        if current = stored then .ok ()
        else .error (.versionTokenMismatch playlistId stored current)

/-- The registry's routing of resources to providers. -/
structure ProviderTopology where
  schemes : List (UriScheme × ProviderId)
  defaultProvider : ProviderId
  defaultScheme : UriScheme

namespace ProviderTopology

def providerForUri (topology : ProviderTopology) (uri : ResourceUri) :
    Option ProviderId :=
  (topology.schemes.find? fun entry => entry.1 = uri.scheme).map Prod.snd

end ProviderTopology

/-- Why a plan cannot be turned into a remote call. -/
inductive ReversalError where
  | notReversible (reason : String)
  | redoOfUndo
  | noQueueRemove (uri : String)
  | uri (error : UriError)
  | notAPlaylist (kind : MediaKind)
  | unroutable (uri : ResourceUri)
  deriving DecidableEq

/-- The remote call that executes a plan. -/
inductive ReversalCall where
  | transfer (deviceId : String) (provider : ProviderId)
  | mutation (mutation : Mutation)
  deriving DecidableEq

def parseUri (value : String) : Except ReversalError ResourceUri :=
  match ResourceUri.parse value with
  | .ok uri => .ok uri
  | .error error => .error (.uri error)

def parseUris : List String → Except ReversalError (List ResourceUri)
  | [] => .ok []
  | value :: rest => do
    let uri ← parseUri value
    return uri :: (← parseUris rest)

def requireRouted (topology : ProviderTopology) (uri : ResourceUri) :
    Except ReversalError Unit :=
  if (topology.providerForUri uri).isSome then .ok ()
  else .error (.unroutable uri)

/-- `provider_playlist_resource`: a structured playlist URI is routed by its
scheme, a bare id belongs to the default provider. -/
def providerPlaylistResource (topology : ProviderTopology) (value : String) :
    Except ReversalError ResourceUri :=
  match ResourceUri.parse value with
  | .ok resource => do
    if resource.kind ≠ .playlist then
      .error (.notAPlaylist resource.kind)
    else do
      requireRouted topology resource
      return resource
  | .error _ =>
    match ResourceUri.new topology.defaultScheme .playlist value with
    | .ok resource => .ok resource
    | .error error => .error (.uri error)

/-- The remote call of a plan: the dispatch of `apply_reversal`. -/
def reversalCall (topology : ProviderTopology) :
    ReversalPlan → Except ReversalError ReversalCall
  | .transferToPriorDevice deviceId provider =>
    .ok (.transfer deviceId (provider.getD topology.defaultProvider))
  | .queueRemove uri => .error (.noQueueRemove uri)
  | .playlistRemoveTracks playlistId uris versionToken => do
    let playlistUri ← providerPlaylistResource topology playlistId
    let items ← parseUris uris
    return .mutation (.playlistRemove playlistUri
      (items.map fun uri => { uri := uri, positions := [] }) versionToken)
  | .playlistAddAtPositions playlistId items versionToken => do
    let playlistUri ← providerPlaylistResource topology playlistId
    let uris ← parseUris (items.map Prod.fst)
    return .mutation (.playlistAdd playlistUri
      ((uris.zip (items.map Prod.snd)).map fun (uri, position) =>
        { uri := uri, position := some position }) versionToken)
  | .playlistDelete playlistId => do
    let playlistUri ← providerPlaylistResource topology playlistId
    return .mutation (.playlistUnfollow playlistUri)
  | .playlistReorder playlistId rangeStart insertBefore rangeLength
      versionToken => do
    let playlistUri ← providerPlaylistResource topology playlistId
    return .mutation (.playlistReorder playlistUri rangeStart insertBefore
      rangeLength versionToken)
  | .libraryUnsave uri | .unlike uri => do
    let resource ← parseUri uri
    requireRouted topology resource
    return .mutation (.libraryUnsave [resource])
  | .librarySave uri _ | .like uri => do
    let resource ← parseUri uri
    requireRouted topology resource
    return .mutation (.librarySave [resource])
  | .notReversible reason => .error (.notReversible reason)
  | .redo _ => .error .redoOfUndo

/-- The plans `apply_reversal` has an execution for.  A legacy queue plan, an
undo's redo plan and a plan that says it is not reversible have none. -/
def ReversalPlan.isExecutable : ReversalPlan → Bool
  | .queueRemove _ | .redo _ | .notReversible _ => false
  | _ => true

theorem parseUri_eq_ok {value : String} {uri : ResourceUri} :
    parseUri value = .ok uri ↔ ResourceUri.parse value = .ok uri := by
  unfold parseUri
  cases ResourceUri.parse value with
  | ok found => simp
  | error failure => simp

/-- Undo accepts exactly the offered rows whose state and plan were
captured. -/
theorem validateUndoable_eq_ok {operation : Operation} :
    validateUndoable operation = .ok () ↔
      operation.isOffered = true ∧ operation.preState.isSome = true ∧
        operation.reversalPlan.isSome = true := by
  simp only [validateUndoable, Operation.isOffered_eq_true]
  cases reversible : operation.reversible with
  | false => simp
  | true =>
    by_cases succeeded : operation.status = .succeeded
    · cases preState : operation.preState with
      | none => simp [succeeded]
      | some captured =>
        cases plan : operation.reversalPlan with
        | none => simp [succeeded]
        | some stored => simp [succeeded]
    · simp [succeeded]

end Spotuify
