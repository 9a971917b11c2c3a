import Spotuify.ClientConnections
import Mathlib.Data.List.Infix

/-!
# Calls of an IPC client

A client makes one call at a time on its connection.  The daemon answers the
requests it has been sent at any time and in any order, and sends events in
between.  A call that is abandoned leaves its response behind.
-/

namespace Spotuify

/-- Why a call fails before the daemon's frames are looked at. -/
inductive SendFailure where
  | timedOut (durationMs : Nat)
  | io (message : String)
  deriving DecidableEq

inductive IpcFailure where
  | send (failure : SendFailure)
  | stream (message : String)
  | closed
  | unexpectedResponse (received waitingFor : UInt64)
  | receivedRequest (waitingFor : UInt64)
  deriving DecidableEq

/-- The failures that are about frames of the wrong kind. -/
def IpcFailure.isProtocolError : IpcFailure → Bool
  | .unexpectedResponse .. | .receivedRequest _ => true
  | _ => false

/-- A frame of the daemon, and which request it answers. -/
structure DaemonFrame (Uuid : Type) where
  message : IpcMessage Uuid
  answers : Option Nat

inductive StreamItem (Uuid : Type) where
  | frame (frame : DaemonFrame Uuid)
  | failed (error : String)

def DaemonFrame.event? {Uuid : Type} (frame : DaemonFrame Uuid) :
    Option (Wire.DaemonEvent Uuid) :=
  match frame.message.payload with
  | .event event => some event
  | _ => none

structure IpcClient (Uuid : Type) where
  nextId : UInt64
  source : Option OperationSource
  eventsSubscribed : Bool
  pendingEvents : List (Wire.DaemonEvent Uuid)

/-- What the client does with a frame while it waits for a response. -/
inductive RequestRead (Uuid : Type) where
  | answered (response : Response)
  | waits (pendingEvents : List (Wire.DaemonEvent Uuid))
  | fails (failure : IpcFailure)

namespace IpcClient

variable {Uuid : Type}

def connect (source : Option OperationSource) : IpcClient Uuid :=
  ⟨1, source, false, []⟩

/-- The loop of `request_with_mutation_id_and_timeout`. -/
def readRequesting (client : IpcClient Uuid) (id : UInt64)
    (message : IpcMessage Uuid) : RequestRead Uuid :=
  match message.payload with
  | .response response =>
    if message.id = id then .answered response
    else if message.id < id then .waits client.pendingEvents
    else .fails (.unexpectedResponse message.id id)
  | .event event => .waits (client.pendingEvents ++ [event])
  | .request _ => .fails (.receivedRequest id)

/-- The loop of `next_event`. -/
def readNextEvent (message : IpcMessage Uuid) :
    Option (Wire.DaemonEvent Uuid) :=
  match message.payload with
  | .event event => some event
  | .response _ | .request _ => none

/-- The frame of a request, and the client without the number it takes. -/
def frameRequest (client : IpcClient Uuid) (request : ClientRequest)
    (mutationId : Option MutationId) : IpcMessage Uuid × IpcClient Uuid :=
  (⟨client.nextId, client.source, mutationId, .request request⟩,
    { client with nextId := client.nextId + 1 })

end IpcClient

/-- The call that waits for a frame. -/
inductive IpcCall where
  | request (id : UInt64) (index : Nat)
  | nextEvent
  deriving DecidableEq

/-- What a request came to, with its place among the frames sent. -/
inductive RequestOutcome (Uuid : Type) where
  | answered (index : Nat) (frame : DaemonFrame Uuid) (response : Response)
  | failed (failure : IpcFailure)

/-- How the send of a frame ends: a send that fails or is abandoned may have
queued the frame. -/
inductive SendOutcome where
  | sent
  | failed (queued : Bool) (failure : SendFailure)
  deriving DecidableEq

def SendOutcome.isQueued : SendOutcome → Bool
  | .sent => true
  | .failed queued _ => queued

/-- A connection as its client sees it, with the frames on the way to it and
what has happened so far. -/
structure IpcSession (Uuid : Type) where
  client : IpcClient Uuid
  waiting : Option IpcCall
  /-- the frames sent to the daemon -/
  requested : List (IpcMessage Uuid)
  inFlight : List (StreamItem Uuid)
  /-- the frames received -/
  received : List (DaemonFrame Uuid)
  /-- the events `next_event` has returned -/
  handedOut : List (Wire.DaemonEvent Uuid)
  outcomes : List (RequestOutcome Uuid)
  /-- how many request numbers have been taken -/
  taken : Nat

inductive IpcAction (Uuid : Type) where
  | request (request : ClientRequest) (mutationId : Option MutationId)
      (outcome : SendOutcome)
  | nextEvent (outcome : SendOutcome)
  | subscribeEvents (outcome : SendOutcome)
  | read
  | streamEnds
  /-- the deadline of a request, or a `next_event` that is dropped -/
  | abandon (durationMs : Nat)
  | daemonResponds (index : Nat) (response : Response)
  | daemonEmits (event : Wire.DaemonEvent Uuid)
  | frameBreaks (error : String)

namespace IpcSession

variable {Uuid : Type}

def connect (source : Option OperationSource) : IpcSession Uuid :=
  ⟨.connect source, none, [], [], [], [], [], 0⟩

/-- Take a number and send a request with it. -/
def send (session : IpcSession Uuid) (request : ClientRequest)
    (mutationId : Option MutationId) (isQueued : Bool) : IpcSession Uuid :=
  let (message, client) := session.client.frameRequest request mutationId
  { session with
    client := client
    requested :=
      if isQueued then session.requested ++ [message] else session.requested
    taken := session.taken + 1 }

/-- A request fails. -/
def fail (session : IpcSession Uuid) (failure : IpcFailure) :
    IpcSession Uuid :=
  { session with
    waiting := none
    outcomes := session.outcomes ++ [.failed failure] }

def startRequest (session : IpcSession Uuid) (request : ClientRequest)
    (mutationId : Option MutationId) (outcome : SendOutcome) :
    IpcSession Uuid :=
  let sent := session.send request mutationId outcome.isQueued
  match outcome with
  | .sent =>
    { sent with
      waiting := some
        (.request session.client.nextId session.requested.length) }
  | .failed _ failure => sent.fail (.send failure)

/-- `subscribe_events`, and whether it succeeds. -/
def subscribeEvents (session : IpcSession Uuid) (outcome : SendOutcome) :
    IpcSession Uuid × Bool :=
  if session.client.eventsSubscribed then (session, true)
  else
    let sent := session.send (.subscribeEvents true) none outcome.isQueued
    match outcome with
    | .sent =>
      ({ sent with client := { sent.client with eventsSubscribed := true } },
        true)
    | .failed _ _ => (sent, false)

def startNextEvent (session : IpcSession Uuid) (outcome : SendOutcome) :
    IpcSession Uuid :=
  match session.client.pendingEvents with
  | event :: pendingEvents =>
    { session with
      client := { session.client with pendingEvents := pendingEvents }
      handedOut := session.handedOut ++ [event] }
  | [] =>
    match session.subscribeEvents outcome with
    | (subscribed, true) => { subscribed with waiting := some .nextEvent }
    | (unsubscribed, false) => unsubscribed

/-- The call that waits looks at the next frame. -/
def readFrame (session : IpcSession Uuid) (call : IpcCall)
    (frame : DaemonFrame Uuid) : IpcSession Uuid :=
  let session := { session with received := session.received ++ [frame] }
  match call with
  | .request id index =>
    match session.client.readRequesting id frame.message with
    | .answered response =>
      { session with
        waiting := none
        outcomes := session.outcomes ++ [.answered index frame response] }
    | .waits pendingEvents =>
      { session with
        client := { session.client with pendingEvents := pendingEvents } }
    | .fails failure => session.fail failure
  | .nextEvent =>
    match IpcClient.readNextEvent frame.message with
    | some event =>
      { session with
        waiting := none
        handedOut := session.handedOut ++ [event] }
    | none => session

/-- The call that waits fails. -/
def failCall (session : IpcSession Uuid) (failure : IpcFailure) :
    IpcCall → IpcSession Uuid
  | .request _ _ => session.fail failure
  | .nextEvent => { session with waiting := none }

def readItem (session : IpcSession Uuid) (call : IpcCall) :
    StreamItem Uuid → IpcSession Uuid
  | .frame frame => session.readFrame call frame
  | .failed error => session.failCall (.stream error) call

def step (session : IpcSession Uuid) :
    IpcAction Uuid → Option (IpcSession Uuid)
  | .request request mutationId outcome =>
    if session.waiting.isNone then
      some (session.startRequest request mutationId outcome)
    else none
  | .nextEvent outcome =>
    if session.waiting.isNone then some (session.startNextEvent outcome)
    else none
  | .subscribeEvents outcome =>
    if session.waiting.isNone then some (session.subscribeEvents outcome).1
    else none
  | .read =>
    match session.waiting, session.inFlight with
    | some call, item :: inFlight =>
      some ({ session with inFlight := inFlight }.readItem call item)
    | _, _ => none
  | .streamEnds => session.waiting.map (session.failCall .closed)
  | .abandon durationMs =>
    session.waiting.map (session.failCall (.send (.timedOut durationMs)))
  | .daemonResponds index response =>
    session.requested[index]?.map fun request =>
      { session with inFlight := session.inFlight ++
          [.frame ⟨.ofResponse request.id response, some index⟩] }
  | .daemonEmits event =>
    some { session with
      inFlight := session.inFlight ++ [.frame ⟨.ofEvent event, none⟩] }
  | .frameBreaks error =>
    some { session with inFlight := session.inFlight ++ [.failed error] }

end IpcSession

/-- A client, the daemon behind its connection and the caller. -/
def ipcMachine (Uuid : Type) :
    GuardedMachine (IpcSession Uuid) (IpcAction Uuid) :=
  ⟨IpcSession.step⟩

namespace IpcSession

variable {Uuid : Type} {session : IpcSession Uuid}

/-- What the daemon may send: an answer to a request it has been sent, an
event, or a frame that cannot be read. -/
inductive FromDaemon (requested : List (IpcMessage Uuid)) :
    StreamItem Uuid → Prop where
  | response {index : Nat} {request : IpcMessage Uuid}
      (isRequest : requested[index]? = some request) (response : Response) :
      FromDaemon requested
        (.frame ⟨.ofResponse request.id response, some index⟩)
  | event (event : Wire.DaemonEvent Uuid) :
      FromDaemon requested (.frame ⟨.ofEvent event, none⟩)
  | broken (error : String) : FromDaemon requested (.failed error)

/-- How a step changes a session. -/
inductive Stepped (session : IpcSession Uuid) : IpcSession Uuid → Prop where
  | request (isFree : session.waiting = none) (request : ClientRequest)
      (mutationId : Option MutationId) (outcome : SendOutcome) :
      Stepped session (session.startRequest request mutationId outcome)
  | nextEvent (isFree : session.waiting = none) (outcome : SendOutcome) :
      Stepped session (session.startNextEvent outcome)
  | subscribeEvents (isFree : session.waiting = none)
      (outcome : SendOutcome) :
      Stepped session (session.subscribeEvents outcome).1
  | reads {call : IpcCall} {frame : DaemonFrame Uuid}
      {later : List (StreamItem Uuid)}
      (isWaiting : session.waiting = some call)
      (arrived : session.inFlight = .frame frame :: later) :
      Stepped session ({ session with inFlight := later }.readFrame call frame)
  | fails {call : IpcCall} {failure : IpcFailure}
      {later : List (StreamItem Uuid)}
      (isWaiting : session.waiting = some call)
      (notProtocol : failure.isProtocolError = false)
      (remaining : later <:+ session.inFlight) :
      Stepped session ({ session with inFlight := later }.failCall failure call)
  | arrives {item : StreamItem Uuid}
      (isFromDaemon : FromDaemon session.requested item) :
      Stepped session { session with inFlight := session.inFlight ++ [item] }

theorem stepped_of_step {action : IpcAction Uuid} {next : IpcSession Uuid}
    (steps : (ipcMachine Uuid).step session action = some next) :
    Stepped session next := by
  change session.step action = some next at steps
  cases action with
  | request request mutationId outcome =>
    obtain ⟨isFree, same⟩ := Option.ite_none_right_eq_some.mp steps
    cases same
    exact .request (Option.isNone_iff_eq_none.mp isFree) ..
  | nextEvent outcome =>
    obtain ⟨isFree, same⟩ := Option.ite_none_right_eq_some.mp steps
    cases same
    exact .nextEvent (Option.isNone_iff_eq_none.mp isFree) outcome
  | subscribeEvents outcome =>
    obtain ⟨isFree, same⟩ := Option.ite_none_right_eq_some.mp steps
    cases same
    exact .subscribeEvents (Option.isNone_iff_eq_none.mp isFree) outcome
  | read =>
    simp only [step] at steps
    split at steps
    case h_1 call item later isWaiting arrived =>
      cases steps
      cases item with
      | frame frame => exact .reads isWaiting arrived
      | failed error =>
        refine .fails isWaiting rfl ?_
        rw [arrived]
        exact List.suffix_cons _ _
    case h_2 => cases steps
  | streamEnds =>
    obtain ⟨call, isWaiting, rfl⟩ := Option.map_eq_some_iff.mp steps
    exact .fails isWaiting rfl List.suffix_rfl
  | abandon durationMs =>
    obtain ⟨call, isWaiting, rfl⟩ := Option.map_eq_some_iff.mp steps
    exact .fails isWaiting rfl List.suffix_rfl
  | daemonResponds index response =>
    obtain ⟨request, isRequest, rfl⟩ := Option.map_eq_some_iff.mp steps
    exact .arrives (.response isRequest response)
  | daemonEmits event =>
    cases steps
    exact .arrives (.event event)
  | frameBreaks error =>
    cases steps
    exact .arrives (.broken error)

/-- The events handed out and the ones that are pending are the events
received. -/
structure EventsInOrder (session : IpcSession Uuid) : Prop where
  delivered : session.handedOut ++ session.client.pendingEvents =
    session.received.filterMap DaemonFrame.event?
  nonePending : session.waiting = some .nextEvent →
    session.client.pendingEvents = []

theorem EventsInOrder.send (inOrder : EventsInOrder session)
    (isFree : session.waiting = none) (request : ClientRequest)
    (mutationId : Option MutationId) (isQueued : Bool) :
    EventsInOrder (session.send request mutationId isQueued) where
  delivered := inOrder.delivered
  nonePending := fun isWaiting => by
    rw [IpcSession.send, isFree] at isWaiting
    cases isWaiting

theorem EventsInOrder.fail (inOrder : EventsInOrder session)
    (failure : IpcFailure) : EventsInOrder (session.fail failure) where
  delivered := inOrder.delivered
  nonePending := nofun

theorem EventsInOrder.failCall (inOrder : EventsInOrder session)
    (failure : IpcFailure) (call : IpcCall) :
    EventsInOrder (session.failCall failure call) := by
  cases call with
  | request id index => exact inOrder.fail failure
  | nextEvent => exact ⟨inOrder.delivered, nofun⟩

theorem EventsInOrder.startRequest (inOrder : EventsInOrder session)
    (isFree : session.waiting = none) (request : ClientRequest)
    (mutationId : Option MutationId) (outcome : SendOutcome) :
    EventsInOrder (session.startRequest request mutationId outcome) := by
  have sent := inOrder.send isFree request mutationId outcome.isQueued
  cases outcome with
  | sent => exact ⟨sent.delivered, nofun⟩
  | failed queued failure => exact sent.fail _

theorem EventsInOrder.subscribeEvents (inOrder : EventsInOrder session)
    (isFree : session.waiting = none) (outcome : SendOutcome) :
    EventsInOrder (session.subscribeEvents outcome).1 ∧
      (session.subscribeEvents outcome).1.client.pendingEvents =
        session.client.pendingEvents := by
  unfold IpcSession.subscribeEvents
  split
  · exact ⟨inOrder, rfl⟩
  · have sent := inOrder.send isFree (.subscribeEvents true) none
      outcome.isQueued
    cases outcome with
    | sent => exact ⟨⟨sent.delivered, sent.nonePending⟩, rfl⟩
    | failed queued failure => exact ⟨sent, rfl⟩

theorem EventsInOrder.startNextEvent (inOrder : EventsInOrder session)
    (isFree : session.waiting = none) (outcome : SendOutcome) :
    EventsInOrder (session.startNextEvent outcome) := by
  unfold IpcSession.startNextEvent
  split
  case h_1 event pendingEvents isPending =>
    constructor
    · simpa [isPending] using inOrder.delivered
    · intro isWaiting
      rw [isFree] at isWaiting
      cases isWaiting
  case h_2 nonePending =>
    obtain ⟨subscribed, samePending⟩ :=
      inOrder.subscribeEvents isFree outcome
    split
    case h_1 next isNext =>
      rw [isNext] at subscribed samePending
      exact ⟨subscribed.delivered, fun _ => samePending.trans nonePending⟩
    case h_2 next isNext =>
      rw [isNext] at subscribed
      exact subscribed

theorem filterMap_event_append (received : List (DaemonFrame Uuid))
    (frame : DaemonFrame Uuid) :
    (received ++ [frame]).filterMap DaemonFrame.event? =
      received.filterMap DaemonFrame.event? ++ frame.event?.toList := by
  rw [List.filterMap_append]
  cases isEvent : frame.event? with
  | none => rw [List.filterMap_cons_none isEvent]; rfl
  | some event => rw [List.filterMap_cons_some isEvent]; rfl

/-- A frame without an event leaves the events as they are. -/
theorem delivered_of_not_event (inOrder : EventsInOrder session)
    {frame : DaemonFrame Uuid} (isNone : frame.event? = none) :
    session.handedOut ++ session.client.pendingEvents =
      (session.received ++ [frame]).filterMap DaemonFrame.event? := by
  rw [filterMap_event_append, isNone, Option.toList_none, List.append_nil]
  exact inOrder.delivered

theorem EventsInOrder.readFrame (inOrder : EventsInOrder session)
    {call : IpcCall} (isWaiting : session.waiting = some call)
    (frame : DaemonFrame Uuid) :
    EventsInOrder (session.readFrame call frame) := by
  have delivered := inOrder.delivered
  obtain ⟨⟨id, source, mutationId, payload⟩, answers⟩ := frame
  cases call with
  | request waitingFor index =>
    have noWait : session.waiting = some .nextEvent →
        session.client.pendingEvents = [] :=
      inOrder.nonePending
    cases payload with
    | response response =>
      have same := @delivered_of_not_event Uuid session inOrder
        ⟨⟨id, source, mutationId, .response response⟩, answers⟩ rfl
      simp only [IpcSession.readFrame, IpcClient.readRequesting]
      by_cases isOwn : id = waitingFor
      · rw [if_pos isOwn]
        exact ⟨same, nofun⟩
      · rw [if_neg isOwn]
        by_cases isEarlier : id < waitingFor
        · rw [if_pos isEarlier]
          exact ⟨same, noWait⟩
        · rw [if_neg isEarlier]
          exact ⟨same, nofun⟩
    | event event =>
      refine ⟨?_, fun nextWaits => ?_⟩
      · simp only [IpcSession.readFrame, IpcClient.readRequesting]
        rw [filterMap_event_append, ← delivered]
        exact (List.append_assoc ..).symm
      · rw [show (session.readFrame _ _).waiting = session.waiting from rfl,
          isWaiting] at nextWaits
        cases nextWaits
    | request request =>
      exact ⟨delivered_of_not_event inOrder rfl, nofun⟩
  | nextEvent =>
    have nonePending := inOrder.nonePending isWaiting
    cases payload with
    | response response =>
      exact ⟨delivered_of_not_event inOrder rfl, fun _ => nonePending⟩
    | event event =>
      refine ⟨?_, nofun⟩
      simp only [IpcSession.readFrame, IpcClient.readNextEvent]
      rw [filterMap_event_append, ← delivered, nonePending]
      simp only [List.append_nil]
      rfl
    | request request =>
      exact ⟨delivered_of_not_event inOrder rfl, fun _ => nonePending⟩

theorem EventsInOrder.stepped {next : IpcSession Uuid}
    (inOrder : EventsInOrder session) (stepped : Stepped session next) :
    EventsInOrder next := by
  have withInFlight (inFlight : List (StreamItem Uuid)) :
      EventsInOrder { session with inFlight := inFlight } :=
    ⟨inOrder.delivered, inOrder.nonePending⟩
  cases stepped with
  | request isFree => exact inOrder.startRequest isFree ..
  | nextEvent isFree outcome => exact inOrder.startNextEvent isFree outcome
  | subscribeEvents isFree outcome =>
    exact (inOrder.subscribeEvents isFree outcome).1
  | @reads call frame later isWaiting arrived =>
    exact (withInFlight later).readFrame isWaiting frame
  | fails => exact (withInFlight _).failCall ..
  | arrives => exact withInFlight _

end IpcSession

end Spotuify
