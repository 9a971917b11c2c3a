import Spotuify.GuardedMachine
import Spotuify.PlayerRecovery

/-!
# Automatic reconnects, from the report to the actor

The event forwarder, the health loop and the stall watchdog schedule a
reconnect task behind the in-flight flag; the task sleeps, sends a command to
the player actor and waits for its answer with a timeout; the actor checks the
guard before it tears the session down, after that, and again before it
resumes.  The four parties take their steps in any order.
-/

namespace Spotuify

/-- An automatic reconnect on its way. -/
structure Recovery where
  id : Nat
  request : RecoveryRequest
  guard : AutomaticReconnectGuard
  /-- The sessions recoveries had established when this one's drop happened. -/
  sessionsAtDrop : Nat
  deriving DecidableEq

inductive TaskPhase where
  | sleeping
  | sending
  | waiting
  | answered
  deriving DecidableEq

/-- The task `schedule_player_reconnect` spawns. -/
structure ReconnectTask where
  recovery : Recovery
  phase : TaskPhase
  deriving DecidableEq

inductive PlayerCommand where
  | automaticReconnect (recovery : Recovery)
  | other
  deriving DecidableEq

/-- What the player actor is awaiting. -/
inductive ActorWork where
  | idle
  | other
  | shuttingDown (recovery : Recovery)
  | registering (recovery : Recovery)
  | resuming (recovery : Recovery)
  deriving DecidableEq

/-- The intents a resume's guard had seen, and those there were by then. -/
structure ResumeRecord where
  intentsAtCapture : Nat
  intentsAtResume : Nat
  deriving DecidableEq

/-- The session a teardown's drop was about, and the one it tore down. -/
structure TeardownRecord where
  sessionsAtDrop : Nat
  sessionsAtShutdown : Nat
  deriving DecidableEq

structure RecoveryState where
  intent : PlaybackIntent
  reconnectInFlight : Bool
  tasks : List ReconnectTask
  queue : List PlayerCommand
  work : ActorWork
  nextId : Nat
  /-- Sessions automatic reconnects have established. -/
  sessions : Nat
  resumes : List ResumeRecord
  teardowns : List TeardownRecord

/-- The player actor's command channel holds this many commands. -/
def playerCommandCapacity : Nat := 32

def PlayerCommand.recovery? : PlayerCommand → Option Recovery
  | .automaticReconnect recovery => some recovery
  | .other => none

@[simp]
theorem PlayerCommand.recovery?_automaticReconnect (recovery : Recovery) :
    (automaticReconnect recovery).recovery? = some recovery := rfl

@[simp]
theorem PlayerCommand.recovery?_other : other.recovery? = none := rfl

def ActorWork.recovery? : ActorWork → Option Recovery
  | .idle | .other => none
  | .shuttingDown recovery | .registering recovery | .resuming recovery =>
    some recovery

namespace RecoveryState

variable (state : RecoveryState)

/-- The automatic reconnects queued or executing in the player actor. -/
def pending : List Recovery :=
  state.work.recovery?.toList ++ state.queue.filterMap (·.recovery?)

/-- Every automatic reconnect some party still holds. -/
def recoveries : List Recovery :=
  state.tasks.map (·.recovery) ++ state.pending

/-- `schedule_player_reconnect`. -/
def schedulePlayerReconnect (request : RecoveryRequest)
    (sessionsAtDrop : Nat) : RecoveryState :=
  if state.reconnectInFlight then
    state
  else
    { state with
      reconnectInFlight := true,
      tasks := state.tasks ++
        [⟨⟨state.nextId, request, state.intent.captureGuard, sessionsAtDrop⟩,
          .sleeping⟩],
      nextId := state.nextId + 1 }

/-- A party moves the intent and may ask for recovery. -/
def report (outcome : PlaybackIntent × Option RecoveryRequest)
    (sessionsAtDrop : Nat) : RecoveryState :=
  let moved := { state with intent := outcome.1 }
  match outcome.2 with
  | none => moved
  | some request => moved.schedulePlayerReconnect request sessionsAtDrop

def setPhase (id : Nat) (phase : TaskPhase) : RecoveryState :=
  { state with
    tasks := state.tasks.map fun task =>
      if task.recovery.id = id then { task with phase := phase } else task }

/-- The task ends and releases the in-flight flag. -/
def endTask (id : Nat) : RecoveryState :=
  { state with
    tasks := state.tasks.filter fun task => task.recovery.id ≠ id,
    reconnectInFlight := false }

/-- The actor answers: a task that gave up no longer listens. -/
def answer (recovery : Recovery) : RecoveryState :=
  { state with
    work := .idle,
    tasks := state.tasks.map fun task =>
      if task.recovery.id = recovery.id ∧ task.phase = .waiting then
        { task with phase := .answered }
      else task }

def task? (id : Nat) (phase : TaskPhase) : Option ReconnectTask :=
  state.tasks.find? fun task => task.recovery.id = id ∧ task.phase = phase

end RecoveryState

/-- Everything about the intent that other parts of the daemon (polls, command
results, provider changes) set. -/
structure PlaybackSurroundings where
  weAreActive : Bool
  clock : ClockState
  embeddedProvider : Option ProviderId
  activeTransportProvider : Option ProviderId
  ownDeviceName : Option String
  consecutiveFailures : Nat

def PlaybackIntent.surround (intent : PlaybackIntent)
    (surroundings : PlaybackSurroundings) : PlaybackIntent where
  mutationSeq := intent.mutationSeq
  weAreActive := surroundings.weAreActive
  clock := surroundings.clock
  inactiveAfterHandoff := intent.inactiveAfterHandoff
  embeddedProvider := surroundings.embeddedProvider
  activeTransportProvider := surroundings.activeTransportProvider
  ownDeviceName := surroundings.ownDeviceName
  consecutiveFailures := surroundings.consecutiveFailures
  intents := intent.intents

inductive RecoveryAction where
  | playerEvent (event : PlayerEvent) (sessionsAtDrop : Nat) (nowMs : Int)
      (now : Nat)
  | healthProbe (connected : Bool) (sessionsAtDrop now : Nat)
  | audioStall (sessionsAtDrop : Nat) (nowMs : Int) (now : Nat)
  | userMutation
  | surround (surroundings : PlaybackSurroundings)
  | wake (id now : Nat)
  | send (id : Nat)
  | timeOut (id : Nat)
  | finish (id : Nat)
  | enqueueOther
  | serveOther
  | takeCommand (installed : Bool) (now : Nat)
  | actorStep (succeeded : Bool) (now : Nat)

section

variable (deriveDeviceIdForName : String → String)
  (stretch : PlaybackSpeed → Nat → Nat) (defaultDeviceName : String)

namespace RecoveryState

variable (state : RecoveryState)

def stillWanted (recovery : Recovery) (now : Nat) : Bool :=
  state.intent.stillWanted deriveDeviceIdForName stretch recovery.guard
    recovery.request.deviceName now

/-- The task after its backoff. -/
def wake (id now : Nat) : Option RecoveryState :=
  (state.task? id .sleeping).map fun task =>
    if state.stillWanted deriveDeviceIdForName stretch task.recovery now then
      state.setPhase id .sending
    else
      state.endTask id

def send (id : Nat) : Option RecoveryState :=
  (state.task? id .sending).bind fun task =>
    if state.queue.length < playerCommandCapacity then
      some { state.setPhase id .waiting with
        queue := state.queue ++ [.automaticReconnect task.recovery] }
    else
      none

/-- The actor takes its next command, or serves the transport channel. -/
def takeCommand (installed : Bool) (now : Nat) : Option RecoveryState :=
  match state.work, state.queue with
  | .idle, .other :: rest => some { state with queue := rest, work := .other }
  | .idle, .automaticReconnect recovery :: rest =>
    let taken := { state with queue := rest }
    if installed && state.stillWanted deriveDeviceIdForName stretch recovery
        now then
      some { taken with
        work := .shuttingDown recovery,
        teardowns := state.teardowns ++
          [⟨recovery.sessionsAtDrop, state.sessions⟩] }
    else
      some (taken.answer recovery)
  | _, _ => none

/-- The session is up again: check once more and start the resume. -/
def resumeAfterReconnect (recovery : Recovery) (now : Nat) : RecoveryState :=
  let joined := { state with sessions := state.sessions + 1 }
  if state.stillWanted deriveDeviceIdForName stretch recovery now then
    match recovery.request.resume with
    | none => joined.answer recovery
    | some (uri, _) =>
      match ResourceUri.parse uri with
      | .error _ => joined.answer recovery
      | .ok _ =>
        { joined with
          work := .resuming recovery,
          resumes := state.resumes ++
            [⟨recovery.guard.intentsAtCapture, state.intent.intents⟩] }
  else
    joined.answer recovery

/-- What the actor awaits completes. -/
def actorStep (succeeded : Bool) (now : Nat) : Option RecoveryState :=
  match state.work with
  | .idle => none
  | .other => some { state with work := .idle }
  | .shuttingDown recovery =>
    if succeeded && state.stillWanted deriveDeviceIdForName stretch recovery
        now then
      some { state with work := .registering recovery }
    else
      some (state.answer recovery)
  | .registering recovery =>
    if succeeded then
      some (state.resumeAfterReconnect deriveDeviceIdForName stretch recovery
        now)
    else
      some (state.answer recovery)
  | .resuming recovery => some (state.answer recovery)

end RecoveryState

def recoveryStep (state : RecoveryState) :
    RecoveryAction → Option RecoveryState
  | .playerEvent event sessionsAtDrop nowMs now =>
    some (state.report (state.intent.forwardPlayerEvent deriveDeviceIdForName
      stretch defaultDeviceName event nowMs now) sessionsAtDrop)
  | .healthProbe connected sessionsAtDrop now =>
    some (state.report (state.intent.probePlayerHealth deriveDeviceIdForName
      stretch defaultDeviceName connected state.reconnectInFlight now)
      sessionsAtDrop)
  | .audioStall sessionsAtDrop nowMs now =>
    some (state.report (state.intent.handleAudioStall deriveDeviceIdForName
      stretch defaultDeviceName state.reconnectInFlight nowMs now)
      sessionsAtDrop)
  | .userMutation => some { state with intent := state.intent.userMutation }
  | .surround surroundings =>
    some { state with intent := state.intent.surround surroundings }
  | .wake id now => state.wake deriveDeviceIdForName stretch id now
  | .send id => state.send id
  | .timeOut id => (state.task? id .waiting).map fun _ => state.endTask id
  | .finish id => (state.task? id .answered).map fun _ => state.endTask id
  | .enqueueOther =>
    if state.queue.length < playerCommandCapacity then
      some { state with queue := state.queue ++ [.other] }
    else
      none
  | .serveOther =>
    if state.work = .idle then some { state with work := .other } else none
  | .takeCommand installed now =>
    state.takeCommand deriveDeviceIdForName stretch installed now
  | .actorStep succeeded now =>
    state.actorStep deriveDeviceIdForName stretch succeeded now

def recoveryMachine : GuardedMachine RecoveryState RecoveryAction :=
  ⟨recoveryStep deriveDeviceIdForName stretch defaultDeviceName⟩

end

end Spotuify
