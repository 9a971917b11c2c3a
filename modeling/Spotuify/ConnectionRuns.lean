import Spotuify.ClientConnections

/-!
# What a connection sends over a run

As long as every send succeeds, the frames a connection has read are those it
has answered together with those it is about to answer.  The events it has
sent are the snapshot taken at the subscription followed by an account of what
was published since.
-/

namespace Spotuify

variable {Uuid : Type}

/-- The message that tells a subscriber of a reception, if it is told. -/
def forwarded (providerPolicyCapable : Bool) :
    Received (Wire.DaemonEvent Uuid) → Option (IpcMessage Uuid)
  | .event event => eventForSubscriber (.ofEvent event) providerPolicyCapable
  | .lagged skipped => some (.ofEvent (.eventStreamLagged (.ofNat skipped)))

theorem guardIpcResponse_answers? (message : IpcMessage Uuid)
    (run : HandlerRun) (recovered : MutationId → RecoveryResult) :
    (guardIpcResponse message run recovered).answers? = some message.id := rfl

namespace IpcMessage

variable {message : IpcMessage Uuid}

theorem isEvent_of_eventForSubscriber {event : Wire.DaemonEvent Uuid}
    {providerPolicyCapable : Bool}
    (adapted : eventForSubscriber (ofEvent event) providerPolicyCapable =
      some message) : message.isEvent = true := by
  obtain ⟨form, -, rfl⟩ := Option.map_eq_some_iff.mp adapted
  rfl

theorem isEvent_of_forwarded {providerPolicyCapable : Bool}
    {reception : Received (Wire.DaemonEvent Uuid)}
    (forwards : forwarded providerPolicyCapable reception = some message) :
    message.isEvent = true := by
  cases reception with
  | event event => exact isEvent_of_eventForSubscriber forwards
  | lagged skipped => cases forwards; rfl

theorem isEvent_of_mem_snapshot {reads : SnapshotReads}
    {providerPolicyCapable : Bool}
    (member : message ∈ buildSubscribeSnapshot reads providerPolicyCapable) :
    message.isEvent = true := by
  obtain ⟨original, inSnapshot, adapted⟩ := List.mem_filterMap.mp member
  obtain ⟨event, -, rfl⟩ := List.mem_map.mp inSnapshot
  exact isEvent_of_eventForSubscriber adapted

theorem answers?_of_isEvent (isEvent : message.isEvent = true) :
    message.answers? = none := by
  cases message with
  | mk id source mutationId payload =>
    cases payload with
    | event event => rfl
    | request request => cases isEvent
    | response response => cases isEvent

theorem isEvent_of_answers? {id : UInt64}
    (answers : message.answers? = some id) : message.isEvent = false := by
  cases isEvent : message.isEvent with
  | false => rfl
  | true =>
    rw [answers?_of_isEvent isEvent] at answers
    cases answers

end IpcMessage

namespace ConnectionPhase

/-- The frame that waits for its permit. -/
def awaiting : ConnectionPhase Uuid → List UInt64
  | .acquiring message _ => [message.id]
  | _ => []

/-- The part of the snapshot that is still to be sent. -/
def unsentSnapshot : ConnectionPhase Uuid → List (IpcMessage Uuid)
  | .sendingSnapshot remaining => remaining
  | _ => []

end ConnectionPhase

namespace ClientConnection

variable {connection next final : ClientConnection Uuid}

/-- The frames that were answered, in the order of the answers. -/
def answered (connection : ClientConnection Uuid) : List UInt64 :=
  connection.sent.filterMap IpcMessage.answers?

/-- The events the client was sent. -/
def streamed (connection : ClientConnection Uuid) : List (IpcMessage Uuid) :=
  connection.sent.filter IpcMessage.isEvent

/-- The frames whose tasks have not been joined. -/
def inTasks (connection : ClientConnection Uuid) : List UInt64 :=
  connection.running.map IpcMessage.id ++
    (connection.finished.filterMap id).map IpcMessage.id

/-- The frames that were read and are still to be answered. -/
def outstanding (connection : ClientConnection Uuid) : List UInt64 :=
  connection.phase.awaiting ++ connection.inTasks

/-- The events sent, together with the rest of the snapshot, are a snapshot
followed by an account of the events published since the subscription, as far
as the subscriber can read them. -/
def Streams (connection : ClientConnection Uuid)
    (unsent : List (IpcMessage Uuid)) : Prop :=
  ∃ reads received,
    connection.snapshot =
      buildSubscribeSnapshot reads connection.providerPolicyCapable ∧
    Broadcast.Follows connection.published connection.subscribedAt
      connection.nextEvent received ∧
    connection.streamed ++ unsent = connection.snapshot ++
      received.filterMap (forwarded connection.providerPolicyCapable) ∧
    (unsent ≠ [] → received = [])

/-- Nothing goes wrong outside the connection: sends succeed, the semaphores
and the broadcast stay open, and a task ends with a response. -/
def Action.undisturbed : Action Uuid → Bool
  | .joinNext _ .failed | .recvEvent false | .sendSnapshot false
  | .acquire _ false | .recvClosed | .taskPanics _ => false
  | _ => true

section Sending

variable {message : IpcMessage Uuid}

theorem streamed_send_event (isEvent : message.isEvent = true) :
    (connection.send message).streamed = connection.streamed ++ [message] := by
  simp [streamed, send, isEvent]

theorem answered_send_event (isEvent : message.isEvent = true) :
    (connection.send message).answered = connection.answered := by
  simp [answered, send, IpcMessage.answers?_of_isEvent isEvent]

theorem streamed_send_answer {id : UInt64}
    (answers : message.answers? = some id) :
    (connection.send message).streamed = connection.streamed := by
  simp [streamed, send, IpcMessage.isEvent_of_answers? answers]

theorem answered_send_answer {id : UInt64}
    (answers : message.answers? = some id) :
    (connection.send message).answered = connection.answered ++ [id] := by
  simp [answered, send, answers]

end Sending

/-- The frames in the tasks and those that wait are the ones to be answered. -/
structure Answering (connection : ClientConnection Uuid)
    (awaiting : List UInt64) : Prop where
  canSend : connection.canSend = true
  responses : ∀ result ∈ connection.finished, ∃ response,
    result = some response ∧ response.answers? = some response.id
  balanced : (connection.answered ++ (awaiting ++ connection.inTasks)).Perm
    (connection.read.map IpcMessage.id)

namespace Answering

variable {awaiting : List UInt64} {message response : IpcMessage Uuid}
  {task : Nat}

theorem start (published : List (Wire.DaemonEvent Uuid)) :
    (start published).Answering [] where
  canSend := rfl
  responses := by
    intro result member
    cases member
  balanced := .refl _

theorem sendEvent (answering : connection.Answering awaiting)
    (isEvent : message.isEvent = true) :
    (connection.send message).Answering awaiting where
  canSend := answering.canSend
  responses := answering.responses
  balanced := by
    rw [answered_send_event isEvent]
    exact answering.balanced

/-- A joined response is answered under its own id. -/
theorem answer (answering : connection.Answering awaiting)
    (joined : connection.finished[task]? = some (some response))
    (answers : message.answers? = some response.id) :
    (send { connection with finished := connection.finished.eraseIdx task }
      message).Answering awaiting where
  canSend := answering.canSend
  responses := by
    intro result member
    exact answering.responses result (List.mem_of_mem_eraseIdx member)
  balanced := by
    obtain ⟨inRange, isResponse⟩ := List.getElem?_eq_some_iff.mp joined
    have finished := List.getElem_cons_eraseIdx_perm inRange
    rw [isResponse] at finished
    have ids := (finished.filterMap id).map IpcMessage.id
    rw [List.perm_iff_count]
    intro id
    have balanced := List.perm_iff_count.mp answering.balanced id
    have counted := ids.count_eq id
    rw [answered_send_answer answers]
    simp only [inTasks, send, answered, List.count_append, List.filterMap_cons,
      id_eq, List.map_cons, List.count_cons, List.count_nil] at *
    omega

/-- A task that finishes keeps its frame among those to be answered. -/
theorem finish (answering : connection.Answering awaiting)
    (run : HandlerRun) (recovered : MutationId → RecoveryResult)
    (runs : connection.running[task]? = some message) :
    Answering { connection with
      running := connection.running.eraseIdx task
      finished := connection.finished ++
        [some (guardIpcResponse message run recovered)] } awaiting where
  canSend := answering.canSend
  responses := by
    intro result member
    rcases List.mem_append.mp member with already | added
    · exact answering.responses result already
    · rw [List.mem_singleton.mp added]
      exact ⟨_, rfl, guardIpcResponse_answers? message run recovered⟩
  balanced := by
    obtain ⟨inRange, isMessage⟩ := List.getElem?_eq_some_iff.mp runs
    have running := List.getElem_cons_eraseIdx_perm inRange
    rw [isMessage] at running
    have ids := running.map IpcMessage.id
    rw [List.perm_iff_count]
    intro id
    have balanced := List.perm_iff_count.mp answering.balanced id
    have counted := ids.count_eq id
    have sameId : (guardIpcResponse message run recovered).id = message.id :=
      rfl
    simp only [inTasks, answered, List.count_append, List.filterMap_append,
      List.filterMap_cons, List.filterMap_nil, id_eq, List.map_append,
      List.map_cons, List.map_nil, sameId, List.count_cons,
      List.count_nil] at *
    omega

/-- A frame that is read waits to be answered. -/
theorem readFrame (answering : connection.Answering [])
    (message : IpcMessage Uuid) :
    (connection.readFrame message).Answering [message.id] where
  canSend := answering.canSend
  responses := answering.responses
  balanced := by
    rw [List.perm_iff_count]
    intro id
    have balanced := List.perm_iff_count.mp answering.balanced id
    simp only [ClientConnection.readFrame, inTasks, answered,
      List.count_append, List.map_append, List.map_cons, List.map_nil,
      List.count_cons, List.count_nil] at *
    omega

/-- A frame that waited runs as a task. -/
theorem spawn (answering : connection.Answering [message.id]) :
    Answering { connection with running := connection.running ++ [message] }
      [] where
  canSend := answering.canSend
  responses := answering.responses
  balanced := by
    rw [List.perm_iff_count]
    intro id
    have balanced := List.perm_iff_count.mp answering.balanced id
    simp only [inTasks, answered, List.count_append, List.map_append,
      List.map_cons, List.map_nil, List.count_cons, List.count_nil] at *
    omega

theorem inTasks_eq_nil_iff (answering : connection.Answering awaiting) :
    connection.inTasks = [] ↔ connection.hasTasks = false := by
  have finished : connection.finished.filterMap id = [] ↔
      connection.finished = [] := by
    constructor
    · intro none
      cases isFinished : connection.finished with
      | nil => rfl
      | cons result rest =>
        obtain ⟨response, rfl, -⟩ := answering.responses result (by
          rw [isFinished]
          exact List.mem_cons_self)
        rw [isFinished] at none
        cases none
    · intro none
      rw [none]
      rfl
  simp only [inTasks, hasTasks, List.append_eq_nil_iff, List.map_eq_nil_iff,
    finished, Bool.not_eq_false', Bool.and_eq_true, List.isEmpty_iff]

end Answering

/-- Nothing but answers was sent before the subscription, and what is streamed
afterwards is accounted for. -/
structure Streaming (connection : ClientConnection Uuid) : Prop where
  before : connection.eventsSubscribed = false → connection.streamed = []
  after : connection.eventsSubscribed = true → connection.Streams []

theorem Streams.publish {unsent : List (IpcMessage Uuid)}
    (streams : connection.Streams unsent) (event : Wire.DaemonEvent Uuid) :
    Streams { connection with published := connection.published ++ [event] }
      unsent := by
  obtain ⟨reads, received, snapshot, follows, account, unsentFirst⟩ := streams
  exact ⟨reads, received, snapshot, follows.publish event, account,
    unsentFirst⟩

namespace Streaming

variable {message : IpcMessage Uuid}

theorem start (published : List (Wire.DaemonEvent Uuid)) :
    (start published).Streaming where
  before := fun _ => rfl
  after := by
    intro subscribed
    cases subscribed

theorem publish (streaming : connection.Streaming)
    (event : Wire.DaemonEvent Uuid) :
    Streaming { connection with
      published := connection.published ++ [event] } where
  before := streaming.before
  after := fun subscribed => (streaming.after subscribed).publish event

theorem answer (streaming : connection.Streaming) {id : UInt64}
    (answers : message.answers? = some id) :
    (connection.send message).Streaming where
  before := by
    intro unsubscribed
    rw [streamed_send_answer answers]
    exact streaming.before unsubscribed
  after := by
    intro subscribed
    obtain ⟨reads, received, snapshot, follows, account, unsentFirst⟩ :=
      streaming.after subscribed
    refine ⟨reads, received, snapshot, follows, ?_, unsentFirst⟩
    rw [streamed_send_answer answers]
    exact account

/-- A reception the subscriber is not told of continues the account. -/
theorem withhold (streaming : connection.Streaming)
    (subscribed : connection.eventsSubscribed = true)
    {reception : Received (Wire.DaemonEvent Uuid)} {following : Nat}
    (receives : Broadcast.recv eventCapacity connection.published
      connection.nextEvent = some (reception, following))
    (withheld : forwarded connection.providerPolicyCapable reception = none) :
    Streaming { connection with nextEvent := following } where
  before := streaming.before
  after := by
    intro _
    obtain ⟨reads, received, snapshot, follows, account, -⟩ :=
      streaming.after subscribed
    refine ⟨reads, received ++ [reception], snapshot, follows.recv receives,
      ?_, fun unsent => absurd rfl unsent⟩
    have unchanged : (received ++ [reception]).filterMap
        (forwarded connection.providerPolicyCapable) =
          received.filterMap (forwarded connection.providerPolicyCapable) := by
      rw [List.filterMap_append, List.filterMap_cons, withheld]
      exact List.append_nil _
    rw [unchanged]
    exact account

/-- A reception the subscriber is told of continues the account. -/
theorem forward (streaming : connection.Streaming)
    (subscribed : connection.eventsSubscribed = true)
    {reception : Received (Wire.DaemonEvent Uuid)} {following : Nat}
    (receives : Broadcast.recv eventCapacity connection.published
      connection.nextEvent = some (reception, following))
    (forwards : forwarded connection.providerPolicyCapable reception =
      some message) :
    (send { connection with nextEvent := following } message).Streaming where
  before := by
    intro unsubscribed
    rw [show connection.eventsSubscribed = false from unsubscribed]
      at subscribed
    cases subscribed
  after := by
    intro _
    obtain ⟨reads, received, snapshot, follows, account, -⟩ :=
      streaming.after subscribed
    refine ⟨reads, received ++ [reception], snapshot, follows.recv receives,
      ?_, fun unsent => absurd rfl unsent⟩
    rw [streamed_send_event (IpcMessage.isEvent_of_forwarded forwards)]
    have continued :
        connection.streamed ++ [message] = connection.snapshot ++
          (received ++ [reception]).filterMap
            (forwarded connection.providerPolicyCapable) := by
      rw [List.append_nil] at account
      rw [account, List.filterMap_append, List.append_assoc,
        List.filterMap_cons, forwards]
      rfl
    rw [List.append_nil]
    exact continued

end Streaming

/-- What holds of a connection in each phase of its loop. -/
def Serves (connection : ClientConnection Uuid) : Prop :=
  connection.Answering connection.phase.awaiting ∧
    match connection.phase with
    | .selecting =>
      connection.Streaming ∧
        (connection.acceptRequests || connection.hasTasks) = true
    | .acquiring _ enableEventSubscription =>
      connection.Streaming ∧ connection.acceptRequests = true ∧
        (enableEventSubscription.isSome → connection.eventsSubscribed = false)
    | .buildingSnapshot =>
      connection.acceptRequests = true ∧
        connection.eventsSubscribed = true ∧ connection.streamed = [] ∧
        Broadcast.Follows connection.published connection.subscribedAt
          connection.nextEvent []
    | .sendingSnapshot remaining =>
      connection.acceptRequests = true ∧
        connection.eventsSubscribed = true ∧
        (∀ message ∈ remaining, message.isEvent = true) ∧
        connection.Streams remaining
    | .ended => connection.Streaming ∧ connection.hasTasks = false

theorem serves_endIteration (answering : connection.Answering [])
    (streaming : connection.Streaming) : connection.endIteration.Serves := by
  unfold endIteration
  split
  · next finishes =>
    refine ⟨⟨answering.1, answering.2, answering.3⟩,
      ⟨streaming.1, streaming.2⟩, ?_⟩
    have noTasks : connection.hasTasks = false := by
      simpa using (Bool.and_eq_true_iff.mp finishes).2
    exact noTasks
  · next goesOn =>
    refine ⟨⟨answering.1, answering.2, answering.3⟩,
      ⟨streaming.1, streaming.2⟩, ?_⟩
    have goesOn : (connection.acceptRequests || connection.hasTasks) = true := by
      cases accepts : connection.acceptRequests with
      | true => rfl
      | false => simpa [accepts] using goesOn
    exact goesOn

theorem serves_of_selecting (selecting : connection.phase = .selecting)
    (answering : connection.Answering []) (streaming : connection.Streaming)
    (goesOn : (connection.acceptRequests || connection.hasTasks) = true) :
    connection.Serves := by
  rw [Serves, selecting]
  exact ⟨answering, streaming, goesOn⟩

theorem serves_start (published : List (Wire.DaemonEvent Uuid)) :
    (start published).Serves :=
  ⟨.start published, .start published, rfl⟩

/-- The broadcast goes on in every phase. -/
theorem Serves.publish (serves : connection.Serves)
    (event : Wire.DaemonEvent Uuid) :
    Serves { connection with
      published := connection.published ++ [event] } := by
  obtain ⟨answering, phaseServes⟩ := serves
  refine ⟨⟨answering.1, answering.2, answering.3⟩, ?_⟩
  dsimp only
  split at phaseServes
  · exact ⟨phaseServes.1.publish event, phaseServes.2⟩
  · exact ⟨phaseServes.1.publish event, phaseServes.2⟩
  · obtain ⟨accepts, subscribed, nothing, follows⟩ := phaseServes
    exact ⟨accepts, subscribed, nothing, follows.publish event⟩
  · obtain ⟨accepts, subscribed, events, streams⟩ := phaseServes
    exact ⟨accepts, subscribed, events, streams.publish event⟩
  · exact ⟨phaseServes.1.publish event, phaseServes.2⟩

/-- A task that finishes changes nothing the loop has done. -/
theorem Serves.finish (serves : connection.Serves) {task : Nat}
    {message : IpcMessage Uuid} (run : HandlerRun)
    (recovered : MutationId → RecoveryResult)
    (runs : connection.running[task]? = some message) :
    Serves { connection with
      running := connection.running.eraseIdx task
      finished := connection.finished ++
        [some (guardIpcResponse message run recovered)] } := by
  obtain ⟨answering, phaseServes⟩ := serves
  refine ⟨answering.finish run recovered runs, ?_⟩
  have hasTasks : connection.hasTasks = true := by
    cases isRunning : connection.running with
    | nil =>
      rw [isRunning] at runs
      cases runs
    | cons first rest => simp [ClientConnection.hasTasks, isRunning]
  dsimp only
  split at phaseServes
  · refine ⟨⟨phaseServes.1.1, phaseServes.1.2⟩, ?_⟩
    simp [ClientConnection.hasTasks]
  · exact ⟨⟨phaseServes.1.1, phaseServes.1.2⟩, phaseServes.2⟩
  · exact phaseServes
  · exact phaseServes
  · rw [phaseServes.2] at hasTasks
    cases hasTasks

section Arms

variable {message : IpcMessage Uuid} {task : Nat}

theorem joinNext_of_canSend (canSend : connection.canSend = true)
    (response : IpcMessage Uuid) (outcome : ResponseSend) :
    connection.joinNext (some response) outcome =
      match outcome with
      | .sent => connection.send response
      | .replaced => connection.send (encodeFailure response.id)
      | .failed => connection.tearDown :=
  if_pos canSend

/-- A joined task is answered, by its response or by an error. -/
theorem serves_joinNext (answering : connection.Answering [])
    (streaming : connection.Streaming)
    {result : Option (IpcMessage Uuid)} {outcome : ResponseSend}
    (joined : connection.finished[task]? = some result)
    (delivered : outcome ≠ .failed) :
    (joinNext { connection with finished := connection.finished.eraseIdx task }
      result outcome).endIteration.Serves := by
  obtain ⟨response, rfl, answers⟩ :=
    answering.responses result (List.mem_of_getElem? joined)
  have unjoined : Streaming { connection with
      finished := connection.finished.eraseIdx task } :=
    ⟨streaming.1, streaming.2⟩
  have canSend : canSend { connection with
      finished := connection.finished.eraseIdx task } = true :=
    answering.canSend
  rw [joinNext_of_canSend canSend]
  cases outcome with
  | sent =>
    exact serves_endIteration (answering.answer joined answers)
      (unjoined.answer answers)
  | replaced =>
    have replaces : (encodeFailure response.id : IpcMessage Uuid).answers? =
        some response.id := rfl
    exact serves_endIteration (answering.answer joined replaces)
      (unjoined.answer replaces)
  | failed => exact absurd rfl delivered

theorem recvEvent_eq (reception : Received (Wire.DaemonEvent Uuid)) :
    connection.recvEvent reception true =
      match forwarded connection.providerPolicyCapable reception with
      | none => connection
      | some message => (connection.send message).endIteration := by
  cases reception with
  | event event => rfl
  | lagged skipped => rfl

theorem serves_recvEvent (serves : connection.Serves)
    (selecting : connection.phase = .selecting)
    (subscribed : connection.eventsSubscribed = true)
    {reception : Received (Wire.DaemonEvent Uuid)} {following : Nat}
    (receives : Broadcast.recv eventCapacity connection.published
      connection.nextEvent = some (reception, following)) :
    (recvEvent { connection with nextEvent := following } reception
      true).Serves := by
  obtain ⟨answering, phaseServes⟩ := serves
  simp only [selecting] at answering phaseServes
  rw [recvEvent_eq]
  cases forwards :
      forwarded connection.providerPolicyCapable reception with
  | none =>
    exact serves_of_selecting selecting
      ⟨answering.1, answering.2, answering.3⟩
      (phaseServes.1.withhold subscribed receives forwards) phaseServes.2
  | some message =>
    have unsent : Answering { connection with nextEvent := following } [] :=
      ⟨answering.1, answering.2, answering.3⟩
    exact serves_endIteration
      (unsent.sendEvent (IpcMessage.isEvent_of_forwarded forwards))
      (phaseServes.1.forward subscribed receives forwards)

theorem serves_readFrame (answering : connection.Answering [])
    (streaming : connection.Streaming)
    (accepts : connection.acceptRequests = true)
    (message : IpcMessage Uuid) : (connection.readFrame message).Serves := by
  refine ⟨answering.readFrame message, ⟨streaming.1, streaming.2⟩, accepts, ?_⟩
  intro enables
  cases subscribed : connection.eventsSubscribed with
  | false => exact subscribed
  | true => simp [subscribed] at enables

/-- The remaining messages of a snapshot are sent before anything else. -/
theorem serves_sendSnapshot {remaining : List (IpcMessage Uuid)}
    (answering : connection.Answering [])
    (accepts : connection.acceptRequests = true)
    (subscribed : connection.eventsSubscribed = true)
    (events : ∀ message ∈ remaining, message.isEvent = true)
    (streams : connection.Streams remaining) :
    (connection.sendSnapshot remaining).Serves := by
  cases remaining with
  | nil =>
    refine serves_endIteration answering ⟨?_, fun _ => streams⟩
    intro unsubscribed
    rw [unsubscribed] at subscribed
    cases subscribed
  | cons message rest =>
    exact ⟨⟨answering.1, answering.2, answering.3⟩, accepts, subscribed,
      events, streams⟩

theorem spawn_of_canSend (canSend : connection.canSend = true)
    (message : IpcMessage Uuid) (supportsProviderPolicy : Bool) :
    connection.spawn message (some supportsProviderPolicy) =
      { connection with
        running := connection.running ++ [message]
        nextEvent := connection.published.length
        subscribedAt := connection.published.length
        eventsSubscribed := true
        providerPolicyCapable := supportsProviderPolicy
        phase := .buildingSnapshot } :=
  if_pos canSend

theorem serves_spawn {enableEventSubscription : Option Bool}
    (answering : connection.Answering [message.id])
    (streaming : connection.Streaming)
    (accepts : connection.acceptRequests = true)
    (fresh : enableEventSubscription.isSome →
      connection.eventsSubscribed = false) :
    (connection.spawn message enableEventSubscription).Serves := by
  cases enableEventSubscription with
  | none =>
    exact serves_endIteration answering.spawn ⟨streaming.1, streaming.2⟩
  | some supportsProviderPolicy =>
    have spawned := answering.spawn
    rw [spawn_of_canSend answering.canSend]
    exact ⟨⟨spawned.1, spawned.2, spawned.3⟩, accepts, rfl,
      streaming.before (fresh rfl), .subscribe connection.published⟩

theorem serves_buildSnapshot (reads : SnapshotReads)
    (answering : connection.Answering [])
    (accepts : connection.acceptRequests = true)
    (subscribed : connection.eventsSubscribed = true)
    (nothing : connection.streamed = [])
    (follows : Broadcast.Follows connection.published connection.subscribedAt
      connection.nextEvent []) :
    (sendSnapshot { connection with
      snapshot :=
        buildSubscribeSnapshot reads connection.providerPolicyCapable }
      (buildSubscribeSnapshot reads connection.providerPolicyCapable)).Serves := by
  refine serves_sendSnapshot ⟨answering.1, answering.2, answering.3⟩ accepts
    subscribed (fun _ => IpcMessage.isEvent_of_mem_snapshot) ?_
  refine ⟨reads, [], rfl, follows, ?_, fun _ => rfl⟩
  rw [show streamed { connection with
    snapshot := buildSubscribeSnapshot reads connection.providerPolicyCapable }
      = [] from nothing]
  exact (List.append_nil _).symm

theorem serves_send_snapshot {rest : List (IpcMessage Uuid)}
    (answering : connection.Answering [])
    (accepts : connection.acceptRequests = true)
    (subscribed : connection.eventsSubscribed = true)
    (events : ∀ event ∈ message :: rest, event.isEvent = true)
    (streams : connection.Streams (message :: rest)) :
    ((connection.send message).sendSnapshot rest).Serves := by
  have isEvent := events message List.mem_cons_self
  refine serves_sendSnapshot (answering.sendEvent isEvent) accepts subscribed
    (fun event member => events event (List.mem_cons_of_mem message member)) ?_
  obtain ⟨reads, received, snapshot, follows, account, unsentFirst⟩ := streams
  refine ⟨reads, received, snapshot, follows, ?_,
    fun _ => unsentFirst (List.cons_ne_nil message rest)⟩
  rw [streamed_send_event isEvent, List.append_assoc, List.singleton_append]
  exact account

theorem serves_shutdownChanged (answering : connection.Answering [])
    (streaming : connection.Streaming) (changed : Option Bool) :
    (connection.shutdownChanged changed).endIteration.Serves := by
  refine serves_endIteration ?_ ?_
  · rcases changed with _ | _ | _ <;>
      exact ⟨answering.1, answering.2, answering.3⟩
  · rcases changed with _ | _ | _ <;>
      exact ⟨streaming.1, streaming.2⟩

theorem serves_stopAccepting (answering : connection.Answering [])
    (streaming : connection.Streaming) :
    connection.stopAccepting.endIteration.Serves :=
  serves_endIteration ⟨answering.1, answering.2, answering.3⟩
    ⟨streaming.1, streaming.2⟩

/-- A connection that waits for nothing more ends. -/
theorem serves_noArm (answering : connection.Answering [])
    (streaming : connection.Streaming) (noTasks : connection.hasTasks = false) :
    Serves { connection with phase := .ended } :=
  ⟨⟨answering.1, answering.2, answering.3⟩, ⟨streaming.1, streaming.2⟩,
    noTasks⟩

end Arms

/-- Every undisturbed step of a connection keeps its bookkeeping. -/
theorem Serves.step {action : Action Uuid} (serves : connection.Serves)
    (undisturbed : action.undisturbed = true)
    (steps : connection.step action = some next) : next.Serves := by
  have whole := serves
  obtain ⟨answering, phaseServes⟩ := serves
  cases action with
  | publish event =>
    cases steps
    exact whole.publish event
  | finish task run recovered =>
    obtain ⟨message, runs, rfl⟩ := Option.map_eq_some_iff.mp steps
    exact whole.finish run recovered runs
  | taskPanics task => cases undisturbed
  | recvClosed => cases undisturbed
  | joinNext task outcome =>
    cases phase : connection.phase <;>
      simp only [ClientConnection.step, phase, reduceCtorEq] at steps
    simp only [phase] at answering phaseServes
    obtain ⟨result, joined, rfl⟩ := Option.map_eq_some_iff.mp steps
    have selecting : Answering { connection with phase := .selecting } [] :=
      ⟨answering.1, answering.2, answering.3⟩
    refine serves_joinNext selecting ⟨phaseServes.1.1, phaseServes.1.2⟩ joined ?_
    rintro rfl
    cases undisturbed
  | shutdownChanged changed =>
    cases phase : connection.phase <;>
      simp only [ClientConnection.step, phase, reduceCtorEq] at steps
    simp only [phase] at answering phaseServes
    split at steps
    · cases steps
    · cases steps
      exact serves_shutdownChanged answering phaseServes.1 changed
  | recvEvent isSent =>
    cases isSent with
    | false => cases undisturbed
    | true =>
      cases phase : connection.phase <;>
        simp only [ClientConnection.step, phase, reduceCtorEq] at steps
      simp only [phase] at answering phaseServes
      split at steps
      · next receiving =>
        obtain ⟨⟨reception, following⟩, receives, rfl⟩ :=
          Option.map_eq_some_iff.mp steps
        have selecting : Serves { connection with phase := .selecting } :=
          ⟨⟨answering.1, answering.2, answering.3⟩,
            ⟨phaseServes.1.1, phaseServes.1.2⟩, phaseServes.2⟩
        exact serves_recvEvent selecting rfl
          (Bool.and_eq_true_iff.mp receiving).1 receives
      · cases steps
  | nextFrame message =>
    cases phase : connection.phase <;>
      simp only [ClientConnection.step, phase, reduceCtorEq] at steps
    simp only [phase] at answering phaseServes
    split at steps
    · next accepts =>
      cases steps
      exact serves_readFrame answering phaseServes.1 accepts message
    · cases steps
  | nextFailed =>
    cases phase : connection.phase <;>
      simp only [ClientConnection.step, phase, reduceCtorEq] at steps
    simp only [phase] at answering phaseServes
    split at steps
    · cases steps
      exact serves_stopAccepting answering phaseServes.1
    · cases steps
  | nextEnded =>
    cases phase : connection.phase <;>
      simp only [ClientConnection.step, phase, reduceCtorEq] at steps
    simp only [phase] at answering phaseServes
    split at steps
    · cases steps
      exact serves_stopAccepting answering phaseServes.1
    · cases steps
  | noArm =>
    cases phase : connection.phase <;>
      simp only [ClientConnection.step, phase, reduceCtorEq] at steps
    simp only [phase] at answering phaseServes
    split at steps
    · cases steps
    · next noArm =>
      cases steps
      have noTasks : connection.hasTasks = false := by
        simp only [Bool.or_eq_true, not_or, Bool.not_eq_true] at noArm
        exact noArm.1.1.1
      exact serves_noArm answering phaseServes.1 noTasks
  | acquire isTransport isOpen =>
    cases isOpen with
    | false => cases undisturbed
    | true =>
      cases phase : connection.phase <;>
        simp only [ClientConnection.step, phase, reduceCtorEq] at steps
      simp only [phase] at answering phaseServes
      split at steps
      · cases steps
        exact serves_spawn answering phaseServes.1 phaseServes.2.1
          phaseServes.2.2
      · cases steps
  | buildSnapshot reads =>
    cases phase : connection.phase <;>
      simp only [ClientConnection.step, phase, reduceCtorEq] at steps
    simp only [phase] at answering phaseServes
    cases steps
    obtain ⟨accepts, subscribed, nothing, follows⟩ := phaseServes
    exact serves_buildSnapshot reads answering accepts subscribed nothing
      follows
  | sendSnapshot isSent =>
    cases isSent with
    | false => cases undisturbed
    | true =>
      cases phase : connection.phase with
      | sendingSnapshot remaining =>
        simp only [phase] at answering phaseServes
        obtain ⟨accepts, subscribed, events, streams⟩ := phaseServes
        cases remaining with
        | nil => simp only [ClientConnection.step, phase, reduceCtorEq] at steps
        | cons message rest =>
          simp only [ClientConnection.step, phase, if_true] at steps
          cases steps
          exact serves_send_snapshot answering accepts subscribed events streams
      | _ => simp only [ClientConnection.step, phase, reduceCtorEq] at steps

/-- Every undisturbed run of a connection keeps its bookkeeping. -/
theorem serves_run {published : List (Wire.DaemonEvent Uuid)}
    {actions : List (Action Uuid)}
    (undisturbed : machine.StepsMeet
      (fun _ action => action.undisturbed = true) (start published) actions)
    (runs : machine.run (start published) actions = some final) :
    final.Serves := by
  have preserved : ∀ (connection : ClientConnection Uuid) action next,
      connection.Serves → action.undisturbed = true →
        machine.step connection action = some next → next.Serves :=
    fun _ _ _ serves undisturbed steps => serves.step undisturbed steps
  exact machine.run_preserves_of_stepsMeet preserved (serves_start published)
    undisturbed runs

/-- The frames read are answered, or will be. -/
theorem Serves.balanced (serves : connection.Serves) :
    (connection.answered ++ connection.outstanding).Perm
      (connection.read.map IpcMessage.id) :=
  serves.1.balanced

/-- A connection that has ended has nothing left to answer. -/
theorem Serves.outstanding_of_ended (serves : connection.Serves)
    (ended : connection.phase = .ended) : connection.outstanding = [] := by
  obtain ⟨answering, phaseServes⟩ := serves
  have noTasks := answering.inTasks_eq_nil_iff
  simp only [ended] at phaseServes
  rw [outstanding, ended, noTasks.mpr phaseServes.2]
  rfl

/-- A connection that goes on accepts requests or has some to answer. -/
theorem Serves.goesOn (serves : connection.Serves) :
    connection.phase = .ended ∨ connection.acceptRequests = true ∨
      connection.outstanding ≠ [] := by
  obtain ⟨answering, phaseServes⟩ := serves
  cases phase : connection.phase with
  | ended => exact .inl rfl
  | acquiring message enables =>
    simp only [phase] at phaseServes
    exact .inr (.inl phaseServes.2.1)
  | buildingSnapshot =>
    simp only [phase] at phaseServes
    exact .inr (.inl phaseServes.1)
  | sendingSnapshot remaining =>
    simp only [phase] at phaseServes
    exact .inr (.inl phaseServes.1)
  | selecting =>
    simp only [phase] at phaseServes
    rcases Bool.or_eq_true_iff.mp phaseServes.2 with accepts | hasTasks
    · exact .inr (.inl accepts)
    · refine .inr (.inr fun none => ?_)
      have noTasks := answering.inTasks_eq_nil_iff.mp
        (List.append_eq_nil_iff.mp none).2
      rw [noTasks] at hasTasks
      cases hasTasks

theorem Serves.streamed_of_unsubscribed (serves : connection.Serves)
    (unsubscribed : connection.eventsSubscribed = false) :
    connection.streamed = [] := by
  obtain ⟨-, phaseServes⟩ := serves
  split at phaseServes
  · exact phaseServes.1.before unsubscribed
  · exact phaseServes.1.before unsubscribed
  · exact phaseServes.2.2.1
  · rw [unsubscribed] at phaseServes
    cases phaseServes.2.1
  · exact phaseServes.1.before unsubscribed

/-- While the snapshot is built nothing was streamed. -/
theorem Serves.streamed_of_buildingSnapshot (serves : connection.Serves)
    (building : connection.phase = .buildingSnapshot) :
    connection.streamed = [] := by
  have phaseServes := serves.2
  simp only [building] at phaseServes
  exact phaseServes.2.2.1

theorem Serves.streams (serves : connection.Serves)
    (subscribed : connection.eventsSubscribed = true)
    (built : connection.phase ≠ .buildingSnapshot) :
    connection.Streams connection.phase.unsentSnapshot := by
  obtain ⟨-, phaseServes⟩ := serves
  cases phase : connection.phase with
  | buildingSnapshot => exact absurd phase built
  | _ =>
    simp only [phase] at phaseServes
    first
      | exact phaseServes.1.after subscribed
      | exact phaseServes.2.2.2

/-- In a run in which every send succeeds, each frame read is answered exactly
once before the loop ends, and a loop that goes on accepts requests or has some
to answer.  No event is sent before the subscription; after it the client is
sent the snapshot and then an account of the events published since. -/
theorem run_answers_and_streams {published : List (Wire.DaemonEvent Uuid)}
    {actions : List (Action Uuid)}
    (undisturbed : machine.StepsMeet
      (fun _ action => action.undisturbed = true) (start published) actions)
    (runs : machine.run (start published) actions = some final) :
    (final.answered ++ final.outstanding).Perm
        (final.read.map IpcMessage.id) ∧
      (final.phase = .ended →
        final.answered.Perm (final.read.map IpcMessage.id)) ∧
      (final.phase = .ended ∨ final.acceptRequests = true ∨
        final.outstanding ≠ []) ∧
      (final.eventsSubscribed = false ∨ final.phase = .buildingSnapshot →
        final.streamed = []) ∧
      (final.eventsSubscribed = true → final.phase ≠ .buildingSnapshot →
        final.Streams final.phase.unsentSnapshot) := by
  have serves := serves_run undisturbed runs
  refine ⟨serves.balanced, ?_, serves.goesOn, ?_, serves.streams⟩
  · intro ended
    have balanced := serves.balanced
    rwa [serves.outstanding_of_ended ended, List.append_nil] at balanced
  · rintro (unsubscribed | building)
    · exact serves.streamed_of_unsubscribed unsubscribed
    · exact serves.streamed_of_buildingSnapshot building

/-- Two requests are under way when the broadcast overruns the snapshot, and
the client half-closes before they finish. -/
def overrunActions (reads : SnapshotReads) : List (Action Nat) :=
  [.nextFrame ⟨7, none, none, .request .other⟩, .acquire false true,
    .publish .configReloaded,
    .nextFrame ⟨8, none, none, .request (.subscribeEvents false)⟩,
    .acquire true true] ++
  List.replicate 1025 (.publish .configReloaded) ++
  [.buildSnapshot reads, .sendSnapshot true, .sendSnapshot true,
    .sendSnapshot true, .recvEvent true, .recvEvent true, .nextEnded,
    .finish 1 (.returned (.ok "")) fun _ => .ok none,
    .finish 0 .timedOut fun _ => .ok none,
    .joinNext 1 .sent, .joinNext 0 .replaced]

def idleReads : SnapshotReads where
  activeTransportProvider := none
  defaultProvider := none
  playback := ⟨none, none, false, 0, false, .off, none, none, none, none⟩
  snapshotQueue := fun _ => ⟨none, [], false, 0⟩
  snapshotDevices := fun _ => []
  healthAuthTarget := none
  authMigrationAdvisory := fun _ => none
  activeProviderPolicies := []

/-- The overrun connection answers both requests and streams what it can. -/
theorem overrun_answers_and_streams :
    ∃ final, machine.run (start []) (overrunActions idleReads) = some final ∧
      final.answered.Perm (final.read.map IpcMessage.id) ∧
      final.Streams [] := by
  have ends : (machine.run (start []) (overrunActions idleReads)).any
      (fun final => final.eventsSubscribed &&
        match final.phase with
        | .ended => true
        | _ => false) = true := by
    decide +kernel
  obtain ⟨final, runs, isEnded⟩ := (Option.any_eq_true _ _).mp ends
  obtain ⟨subscribed, isEnded⟩ := Bool.and_eq_true_iff.mp isEnded
  have ended : final.phase = .ended := by
    split at isEnded
    · assumption
    · cases isEnded
  have built : final.phase ≠ .buildingSnapshot := by
    rw [ended]
    rintro ⟨⟩
  have undisturbed : ∀ action ∈ overrunActions idleReads,
      action.undisturbed = true := by
    simp [-List.reduceReplicate, overrunActions, Action.undisturbed]
  have answers :=
    run_answers_and_streams (.of_forall_mem machine undisturbed) runs
  have streams := answers.2.2.2.2 subscribed built
  rw [ended] at streams
  exact ⟨final, runs, answers.2.1 ended, streams⟩

end ClientConnection

end Spotuify
