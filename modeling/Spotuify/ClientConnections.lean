import Spotuify.BroadcastReceivers
import Spotuify.DaemonEvents
import Spotuify.GuardedMachine
import Spotuify.MutationRequest
import Spotuify.StoreTables

/-!
# Client connections of the daemon

One task serves one connection.  It reads frames, runs a request task for each
of them, sends their responses, and once the client has subscribed sends the
current state and then the events of the daemon's broadcast.  The loop takes
one ready arm at a time; the daemon publishes events and tasks finish in
between.
-/

namespace Spotuify

/-- The requests a connection tells apart. -/
inductive ClientRequest where
  | ping
  | subscribeEvents (providerPolicy : Bool)
  | playbackGet
  | devicesList
  | queueGet
  | mutation (request : Request)
  | other

def ClientRequest.requiresMutationId : ClientRequest → Bool
  | .mutation request =>
    match request with
    | .opsUndo _ dryRun _ _ | .radioStart _ dryRun => !dryRun
    | .opsRedo _ | .queueAdd _ | .queueAddMany _ | .playlistAddItems ..
    | .playlistRemoveItems .. | .playlistRemoveOccurrences ..
    | .playlistCreate .. | .playlistUnfollow .. | .playlistSetImage ..
    | .librarySave .. | .libraryUnsave _ | .artistFollow _
    | .artistUnfollow _ => true
    | .playbackCommand _ | .deviceTransfer _ => false
  | _ => false

inductive IpcPayload (Uuid : Type) where
  | request (request : ClientRequest)
  | response (response : Response)
  | event (event : Wire.DaemonEvent Uuid)

structure IpcMessage (Uuid : Type) where
  id : UInt64
  source : Option OperationSource
  mutationId : Option MutationId
  payload : IpcPayload Uuid

def IpcErrorKind.isRetryable : IpcErrorKind → Bool
  | .network | .rateLimited | .timeout => true
  | _ => false

namespace Response

def errorWithRetryable (message : String) (kind : IpcErrorKind)
    (retryable : Bool) : Response :=
  .error message kind retryable none none

def errorWithKind (message : String) (kind : IpcErrorKind) : Response :=
  errorWithRetryable message kind kind.isRetryable

end Response

variable {Uuid : Type}

namespace IpcMessage

def ofResponse (id : UInt64) (response : Response) : IpcMessage Uuid :=
  ⟨id, none, none, .response response⟩

def ofEvent (event : Wire.DaemonEvent Uuid) : IpcMessage Uuid :=
  ⟨0, none, none, .event event⟩

/-- The frame a response answers. -/
def answers? (message : IpcMessage Uuid) : Option UInt64 :=
  match message.payload with
  | .response _ => some message.id
  | _ => none

def isEvent (message : IpcMessage Uuid) : Bool :=
  match message.payload with
  | .event _ => true
  | _ => false

end IpcMessage

/-- Why Spotify refuses to play on this device. -/
def premiumRequiredPolicyReason : String :=
  "account tier does not permit local playback"

/-- The form of an event that a subscriber can read, if it has one. -/
def daemonEventForSubscriber (event : Wire.DaemonEvent Uuid)
    (providerPolicyCapable : Bool) : Option (Wire.DaemonEvent Uuid) :=
  if providerPolicyCapable then some event
  else
    match event with
    | .providerPolicy provider reason =>
      if provider.value = "spotify" ∧ reason = premiumRequiredPolicyReason then
        some .premiumRequired
      else none
    | .providerPolicyCleared _ _ => none
    | event => some event

def eventForSubscriber (message : IpcMessage Uuid)
    (providerPolicyCapable : Bool) : Option (IpcMessage Uuid) :=
  match message.payload with
  | .event event =>
    (daemonEventForSubscriber event providerPolicyCapable).map fun event =>
      { message with payload := .event event }
  | _ => some message

inductive ProviderAuthStrategy where
  | none
  | spotifyOauth
  deriving DecidableEq

/-- What the daemon reads while it builds a snapshot. -/
structure SnapshotReads where
  activeTransportProvider : Option Wire.ProviderId
  defaultProvider : Option Wire.ProviderId
  playback : Wire.Playback
  snapshotQueue : Wire.ProviderId → Wire.Queue
  snapshotDevices : Wire.ProviderId → List Wire.Device
  healthAuthTarget : Option (Wire.ProviderId × ProviderAuthStrategy)
  authMigrationAdvisory : Wire.ProviderId → Option Bool
  activeProviderPolicies : List (Wire.ProviderId × String)

/-- The current state, as events for one subscriber. -/
def buildSubscribeSnapshot (reads : SnapshotReads)
    (providerPolicyCapable : Bool) : List (IpcMessage Uuid) :=
  let provider := reads.activeTransportProvider <|> reads.defaultProvider
  let queue := (provider.map reads.snapshotQueue).getD ⟨none, [], false, 0⟩
  let devices := (provider.map reads.snapshotDevices).getD []
  let authProvider := (reads.healthAuthTarget.filter fun target =>
    target.2 = .spotifyOauth).map Prod.fst
  let advisory := authProvider.bind reads.authMigrationAdvisory
  let snapshot :=
    [.playbackChanged "snapshot" (some reads.playback),
      .queueChanged "snapshot" (queue.items.map Wire.MediaItem.uri)
        (some queue),
      .devicesChanged "snapshot" (some devices)] ++
    (advisory.map Wire.DaemonEvent.authMigrationRecommended).toList ++
    reads.activeProviderPolicies.map fun policy =>
      .providerPolicy policy.1 policy.2
  (snapshot.map IpcMessage.ofEvent).filterMap fun message =>
    eventForSubscriber message providerPolicyCapable

/-- Whether a frame takes the lane of the requests a user waits for. -/
def isTransportRequest : IpcPayload Uuid → Bool
  | .request request =>
    match request with
    | .mutation request =>
      match request with
      | .playbackCommand _ | .deviceTransfer _ | .queueAdd _ | .librarySave ..
      | .libraryUnsave _ | .playlistAddItems .. | .playlistRemoveItems ..
      | .playlistRemoveOccurrences .. => true
      | _ => false
    | .playbackGet | .devicesList | .queueGet | .subscribeEvents _ | .ping =>
      true
    | .other => false
  | _ => false

/-- How the handler of a request ends within its deadline. -/
inductive HandlerRun where
  | returned (response : Response)
  | panicked
  | timedOut

/-- What the recovery of a mutation reports: a stored response, no claim, or
a failure. -/
abbrev RecoveryResult := Except String (Option Response)

def recoveredResponse (recovered : RecoveryResult) (unclaimed : Response) :
    Response :=
  match recovered with
  | .ok (some response) => response
  | .ok none => unclaimed
  | .error err =>
    .errorWithRetryable
      ("failed to persist indeterminate mutation outcome: " ++ err) .internal
      false

/-- The response to a frame. -/
def guardIpcResponse (message : IpcMessage Uuid) (run : HandlerRun)
    (recovered : MutationId → RecoveryResult) : IpcMessage Uuid :=
  .ofResponse message.id <|
    match message.payload with
    | .request request =>
      let protectedMutationId :=
        if request.requiresMutationId then message.mutationId else none
      match run, protectedMutationId with
      | .returned response, _ => response
      | .panicked, some id =>
        recoveredResponse (recovered id) <| .errorWithKind
          "IPC handler panicked before the mutation was claimed" .internal
      | .panicked, none => .errorWithKind "IPC handler panicked" .internal
      | .timedOut, some id =>
        recoveredResponse (recovered id) <| .errorWithKind
          "request timed out before the mutation was claimed" .timeout
      | .timedOut, none =>
        .errorWithKind "request timed out in the daemon" .timeout
    | _ => .errorWithKind "IPC frame was not a request" .invalidRequest

/-- What is sent in place of a response that cannot be encoded. -/
def encodeFailure (id : UInt64) : IpcMessage Uuid :=
  .ofResponse id
    (.errorWithKind "daemon failed to encode the response" .internal)

/-- Where the loop of a connection waits. -/
inductive ConnectionPhase (Uuid : Type) where
  | selecting
  | acquiring (message : IpcMessage Uuid)
      (enableEventSubscription : Option Bool)
  | buildingSnapshot
  | sendingSnapshot (remaining : List (IpcMessage Uuid))
  | ended

/-- A connection and the broadcast it listens to.  `finished` holds what the
tasks that were not joined yet returned; a task that panicked itself returned
nothing.  `read`, `subscribedAt` and `snapshot` record what happened. -/
structure ClientConnection (Uuid : Type) where
  running : List (IpcMessage Uuid)
  finished : List (Option (IpcMessage Uuid))
  acceptRequests : Bool
  canSend : Bool
  eventsSubscribed : Bool
  providerPolicyCapable : Bool
  shutdownRequested : Bool
  phase : ConnectionPhase Uuid
  published : List (Wire.DaemonEvent Uuid)
  nextEvent : Nat
  sent : List (IpcMessage Uuid)
  read : List (IpcMessage Uuid)
  subscribedAt : Nat
  snapshot : List (IpcMessage Uuid)

/-- Where the send of a response leads: it is sent, an error is sent in its
place, or nothing can be sent. -/
inductive ResponseSend where
  | sent
  | replaced
  | failed

/-- How many events the broadcast keeps. -/
def eventCapacity : Nat := 1024

namespace ClientConnection

/-- A connection the daemon has just taken up. -/
def start (published : List (Wire.DaemonEvent Uuid)) :
    ClientConnection Uuid where
  running := []
  finished := []
  acceptRequests := true
  canSend := true
  eventsSubscribed := false
  providerPolicyCapable := false
  shutdownRequested := false
  phase := .selecting
  published := published
  nextEvent := published.length
  sent := []
  read := []
  subscribedAt := published.length
  snapshot := []

variable (connection : ClientConnection Uuid)

def hasTasks : Bool :=
  !(connection.running.isEmpty && connection.finished.isEmpty)

/-- The test at the end of an iteration. -/
def endIteration : ClientConnection Uuid :=
  if !connection.acceptRequests && !connection.hasTasks then
    { connection with phase := .ended }
  else
    { connection with phase := .selecting }

/-- Give the connection up because a send failed. -/
def tearDown : ClientConnection Uuid :=
  { connection with canSend := false, acceptRequests := false }

def send (message : IpcMessage Uuid) : ClientConnection Uuid :=
  { connection with sent := connection.sent ++ [message] }

/-- Send one message, or give up. -/
def sendOrTearDown (message : IpcMessage Uuid) (isSent : Bool) :
    ClientConnection Uuid :=
  if isSent then connection.send message else connection.tearDown

def joinNext (result : Option (IpcMessage Uuid)) (outcome : ResponseSend) :
    ClientConnection Uuid :=
  match result with
  | none => connection
  | some response =>
    if connection.canSend then
      match outcome with
      | .sent => connection.send response
      | .replaced => connection.send (encodeFailure response.id)
      | .failed => connection.tearDown
    else connection

def stopAccepting : ClientConnection Uuid :=
  { connection with acceptRequests := false }

/-- The shutdown signal changed to `changed`, or its sender is gone. -/
def shutdownChanged (changed : Option Bool) : ClientConnection Uuid :=
  match changed with
  | some true | none =>
    { connection with shutdownRequested := true, acceptRequests := false }
  | some false => connection

/-- An event or a lag notice came from the broadcast. -/
def recvEvent (reception : Received (Wire.DaemonEvent Uuid)) (isSent : Bool) :
    ClientConnection Uuid :=
  match reception with
  | .event event =>
    match eventForSubscriber (.ofEvent event)
        connection.providerPolicyCapable with
    | none => connection
    | some message => (connection.sendOrTearDown message isSent).endIteration
  | .lagged skipped =>
    (connection.sendOrTearDown
      (.ofEvent (.eventStreamLagged (.ofNat skipped))) isSent).endIteration

/-- A frame was read: it waits for a permit of its lane. -/
def readFrame (message : IpcMessage Uuid) : ClientConnection Uuid :=
  let enableEventSubscription :=
    if connection.eventsSubscribed then none
    else
      match message.payload with
      | .request (.subscribeEvents providerPolicy) => some providerPolicy
      | _ => none
  { connection with
    read := connection.read ++ [message]
    phase := .acquiring message enableEventSubscription }

/-- The frame's task is spawned, and events are subscribed to if it asks for
them. -/
def spawn (message : IpcMessage Uuid)
    (enableEventSubscription : Option Bool) : ClientConnection Uuid :=
  let spawned :=
    { connection with running := connection.running ++ [message] }
  match enableEventSubscription with
  | none => spawned.endIteration
  | some supportsProviderPolicy =>
    let subscribed :=
      { spawned with
        nextEvent := connection.published.length
        subscribedAt := connection.published.length
        eventsSubscribed := true
        providerPolicyCapable := supportsProviderPolicy }
    if connection.canSend then { subscribed with phase := .buildingSnapshot }
    else subscribed.endIteration

/-- The messages of a snapshot that are left to send. -/
def sendSnapshot (remaining : List (IpcMessage Uuid)) :
    ClientConnection Uuid :=
  match remaining with
  | [] => connection.endIteration
  | message :: rest =>
    { connection with phase := .sendingSnapshot (message :: rest) }

inductive Action (Uuid : Type) where
  | publish (event : Wire.DaemonEvent Uuid)
  | finish (task : Nat) (run : HandlerRun)
      (recovered : MutationId → RecoveryResult)
  | taskPanics (task : Nat)
  | joinNext (task : Nat) (outcome : ResponseSend)
  | shutdownChanged (changed : Option Bool)
  | recvEvent (isSent : Bool)
  | recvClosed
  | nextFrame (message : IpcMessage Uuid)
  | nextFailed
  | nextEnded
  | noArm
  | acquire (isTransport : Bool) (isOpen : Bool)
  | buildSnapshot (reads : SnapshotReads)
  | sendSnapshot (isSent : Bool)

/-- One step.  The `acquire` of a frame names the lane it waits for. -/
def step : Action Uuid → Option (ClientConnection Uuid)
  | .publish event =>
    some { connection with published := connection.published ++ [event] }
  | .finish task run recovered =>
    connection.running[task]?.map fun message =>
      { connection with
        running := connection.running.eraseIdx task
        finished := connection.finished ++
          [some (guardIpcResponse message run recovered)] }
  | .taskPanics task =>
    connection.running[task]?.map fun _ =>
      { connection with
        running := connection.running.eraseIdx task
        finished := connection.finished ++ [none] }
  | action =>
    match connection.phase, action with
    | .selecting, .joinNext task outcome =>
      connection.finished[task]?.map fun result =>
        (joinNext { connection with
          finished := connection.finished.eraseIdx task } result
            outcome).endIteration
    | .selecting, .shutdownChanged changed =>
      if connection.shutdownRequested then none
      else some (connection.shutdownChanged changed).endIteration
    | .selecting, .recvEvent isSent =>
      if connection.eventsSubscribed && connection.canSend then
        (Broadcast.recv eventCapacity connection.published
          connection.nextEvent).map fun received =>
            recvEvent { connection with nextEvent := received.2 }
              received.1 isSent
      else none
    | .selecting, .recvClosed =>
      if connection.eventsSubscribed && connection.canSend then
        some connection.tearDown.endIteration
      else none
    | .selecting, .nextFrame message =>
      if connection.acceptRequests then some (connection.readFrame message)
      else none
    | .selecting, .nextFailed | .selecting, .nextEnded =>
      if connection.acceptRequests then
        some connection.stopAccepting.endIteration
      else none
    | .selecting, .noArm =>
      if connection.hasTasks || !connection.shutdownRequested ||
          (connection.eventsSubscribed && connection.canSend) ||
          connection.acceptRequests then none
      else some { connection with phase := .ended }
    | .acquiring message enableEventSubscription,
        .acquire isTransport isOpen =>
      if isTransport = isTransportRequest message.payload then
        if isOpen then
          some (connection.spawn message enableEventSubscription)
        else some { connection.stopAccepting with phase := .selecting }
      else none
    | .buildingSnapshot, .buildSnapshot reads =>
      let snapshot :=
        buildSubscribeSnapshot reads connection.providerPolicyCapable
      some (sendSnapshot { connection with snapshot := snapshot } snapshot)
    | .sendingSnapshot (message :: rest), .sendSnapshot isSent =>
      if isSent then some ((connection.send message).sendSnapshot rest)
      else some connection.tearDown.endIteration
    | _, _ => none

def machine : GuardedMachine (ClientConnection Uuid) (Action Uuid) where
  step := step

end ClientConnection

end Spotuify
