import Spotuify.EmptyPolls
import Spotuify.GuardedMachine
import Spotuify.PlayerRecovery

/-!
# The durable playback row

Provider polls, the native cache worker and command results write playback
rows; the last one written is what a restarted daemon shows.  Polls and the
worker write under the transport lane, and so do the results of transport
commands; a bookmark's or a reminder's result is written without it.  Player
events, optimistic predictions and a healed transfer move the clock at any
time.

A row is kept with the sample it came from: the source and the time under
which that sample is offered to the clock.
-/

namespace Spotuify

structure StoredPlayback where
  itemUri : Option String
  isPlaying : Bool
  source : PlaybackStateSource
  sampledAtMs : Int
  deriving DecidableEq

/-- The row a sample leaves. -/
def Playback.stored (playback : Playback) (source : PlaybackStateSource)
    (sampledAtMs : Int) : StoredPlayback where
  itemUri := playback.item.map MediaItem.uri
  isPlaying := playback.isPlaying
  source := source
  sampledAtMs := sampledAtMs

/-- What the clock's snapshot says at any instant. -/
def ClockState.shown (clock : ClockState) : StoredPlayback where
  itemUri := clock.item.map MediaItem.uri
  isPlaying := clock.isPlaying
  source := clock.source
  sampledAtMs := clock.sampledAtMs

structure PlaybackPoll where
  provider : ProviderId
  playback : Playback
  revision : PlaybackPollRevision
  sampledAtMs : Int
  providerTimestampMs : Option Int
  deriving DecidableEq

def PlaybackPoll.row (poll : PlaybackPoll) (candidate : Playback) :
    StoredPlayback :=
  candidate.stored
    (if poll.playback.hasLiveSignal then .remotePoll
      else candidate.source.getD .remotePoll)
    poll.sampledAtMs

/-- A command result on its way through `persist_command_result`. -/
structure ResultCommit where
  command : Nat
  playback : Playback
  sampledAtMs : Int
  deriving DecidableEq

def ResultCommit.row (result : ResultCommit) : StoredPlayback :=
  result.playback.stored .commandResult result.sampledAtMs

/-- Who holds the transport lane, and where it stands. -/
inductive CommitLane where
  | free
  | pollWriting (poll : PlaybackPoll) (row : StoredPlayback)
  | pollWritten (poll : PlaybackPoll) (row : StoredPlayback)
  | nativeWriting (row : StoredPlayback)
  | resultWriting (result : ResultCommit)
  | resultWritten (result : ResultCommit)
  deriving DecidableEq

structure CommandInFlight where
  id : Nat
  capturedSeq : Nat
  holdsLane : Bool
  deriving DecidableEq

structure DurablePlayback where
  intent : PlaybackIntent
  /-- The row written last. -/
  row : Option StoredPlayback
  lane : CommitLane
  /-- What the native cache worker has not seen yet. -/
  nativeUpdate : Option ProviderId
  /-- The update the worker took and waits for the lane with. -/
  worker : Option ProviderId
  commands : List CommandInFlight
  /-- Results persisted without the lane; the flag says they are written. -/
  loose : List (ResultCommit × Bool)
  nextId : Nat
  /-- A command in flight has to bring the row and the clock together:
  its prediction or the playback it healed moved the clock, or it overtook
  another writer. -/
  unsettled : Bool

inductive CommitAction where
  | playerEvent (event : PlayerEvent) (nowMs : Int) (now : Nat)
  | enrich (item : MediaItem)
  | changeTransport (embedded active : Option ProviderId)
      (ownDeviceName : Option String) (weAreActive : Bool)
  | beginPoll (poll : PlaybackPoll) (now : Nat)
  | writePoll (succeeded : Bool)
  | applyPoll (now : Nat)
  | takeUpdate
  | beginNativeWrite (metadataRead : Bool)
  | writeNative (succeeded : Bool)
  | startCommand (holdsLane : Bool) (predicted : Option Playback)
      (sampledAtMs : Int) (now : Nat)
  | beginResult (id : Nat) (playback : Playback) (accepted : Bool)
      (sampledAtMs : Int)
  | writeResult (succeeded : Bool)
  | applyResult (now : Nat)
  | writeLoose (id : Nat) (succeeded : Bool)
  | applyLoose (id now : Nat)
  | healTransfer (id : Nat) (healed : Playback) (sampledAtMs : Int)
      (now : Nat)
  | endCommand (id : Nat)

section

variable (deriveDeviceIdForName : String → String)
  (stretch : PlaybackSpeed → Nat → Nat) (defaultDeviceName : String)

namespace PlaybackIntent

variable (intent : PlaybackIntent)

/-- The forwarder's view when it looks at an event's owner. -/
def claimedFor (event : PlayerEvent) : PlaybackIntent :=
  (intent.revokeOnHandOff event).reclaimTransport event

/-- The forwarder applies the event to the clock. -/
def appliesEvent (event : PlayerEvent) : Bool :=
  event != .activated &&
    ((intent.claimedFor event).eventOwnsGlobalTransport event &&
      !(intent.claimedFor event).deactivatedForeignPlayback
        deriveDeviceIdForName event)

/-- The current device is ours, or none is known. -/
def hearsOwnDevice (event : PlayerEvent) : Bool :=
  intent.eventOwnsGlobalTransport event &&
    intent.clock.device.all fun device =>
      deviceMatchesOwn device (intent.ownDeviceId deriveDeviceIdForName)
        intent.ownDeviceName

/-- The volume of our own device only ever comes from its player. -/
def hearVolume (event : PlayerEvent) (nowMs : Int) : PlaybackIntent :=
  match event with
  | .volumeChanged percent =>
    if intent.hearsOwnDevice deriveDeviceIdForName event then
      { intent with
        clock := intent.clock.applyDeviceVolume percent
          (intent.ownDeviceName.map fun name =>
            { id := some (deriveDeviceIdForName name), name := name,
              kind := "Speaker", isActive := true, isRestricted := false,
              volumePercent := some percent, supportsVolume := true })
          nowMs }
    else
      intent
  | _ => intent

/-- An event that re-dates the clock without waking the cache worker: a tick
beyond the drift threshold, or our own device's volume. -/
def redatesSilently (event : PlayerEvent) (now : Nat) : Bool :=
  match event with
  | .positionTick positionMs =>
    intent.appliesEvent deriveDeviceIdForName event &&
      decide (((asSigned (intent.clock.currentProgressMs stretch now) -
        positionMs).natAbs : Int) > positionDriftThresholdMs)
  | .volumeChanged _ => intent.hearsOwnDevice deriveDeviceIdForName event
  | _ => false

/-- `transport_update_is_current`. -/
def transportUpdateIsCurrent (provider : ProviderId) (capturedSeq : Nat) :
    Bool :=
  intent.mutationSeq == capturedSeq &&
    intent.activeTransportProvider.all fun active => active == provider

/-- `may_apply_playback_poll`. -/
def mayApplyPlaybackPoll (poll : PlaybackPoll) : Bool :=
  intent.transportUpdateIsCurrent poll.provider poll.revision.mutationSeq &&
    poll.revision.mutationSeq == intent.mutationSeq &&
    poll.revision.playerTransition == intent.clock.playerTransition

/-- An older state of our own active device. -/
def pollIsOutdated (poll : PlaybackPoll) : Bool :=
  intent.embeddedOwnsGlobalTransport && intent.weAreActive &&
    (poll.playback.device.any fun device =>
      deviceMatchesOwn device (intent.ownDeviceId deriveDeviceIdForName)
        intent.ownDeviceName) &&
    intent.clock.pollPrecedesPlayerTransition poll.playback

/-- `apply_playback_poll`, past the checks of its revision. -/
def applyPlaybackPoll (poll : PlaybackPoll) (now : Nat) : PlaybackIntent :=
  { intent with
    clock := (intent.clock.applyWebApiPoll stretch poll.playback
      poll.revision intent.mutationSeq poll.sampledAtMs
      poll.providerTimestampMs true now).1,
    weAreActive :=
      match poll.playback.device with
      | some device =>
        deviceMatchesOwn device (intent.ownDeviceId deriveDeviceIdForName)
          intent.ownDeviceName
      | none => intent.weAreActive }

/-- The worker still writes for the embedded provider's transport. -/
def nativeCacheOwns (provider : ProviderId) : Bool :=
  intent.embeddedProvider == some provider &&
    intent.activeTransportProvider.all fun active => active == provider

def commandResultApplied (result : ResultCommit) (now : Nat) :
    PlaybackIntent :=
  { intent with
    clock := intent.clock.applyCommandResult result.playback
      result.sampledAtMs now }

end PlaybackIntent

namespace ClockState

/-- A poll of the same track only re-seats a weaker or much older sample. -/
def isReseatedBy (clock : ClockState) (playback : Playback)
    (sampledAtMs : Int) : Bool :=
  !matchesUri clock.item playback.item ||
    (decide (sourcePriority .remotePoll > sourcePriority clock.source) ||
      decide (sampledAtMs - clock.sampledAtMs > positionDriftThresholdMs))

/-- A player event owns the track a command result is about. -/
def playerEventOwns (clock : ClockState) (playback : Playback) : Bool :=
  matchesUri clock.item playback.item && clock.source == .playerEvent

end ClockState

namespace DurablePlayback

variable (state : DurablePlayback)

/-- The native cache worker has an update to write out. -/
def catchingUp : Bool :=
  state.nativeUpdate.isSome || state.worker.isSome

/-- No poll, no cache write and no command is in flight. -/
def Quiet : Prop :=
  state.lane = .free ∧ state.catchingUp = false ∧ state.commands = [] ∧
    state.loose = []

/-- The clock takes the lane's poll for its own state. -/
def adoptsPoll (poll : PlaybackPoll) (row : StoredPlayback) : Bool :=
  state.intent.mayApplyPlaybackPoll poll &&
    if poll.playback.hasLiveSignal then
      state.intent.clock.isReseatedBy poll.playback poll.sampledAtMs
    else
      -- The absence is still confirmed, for the item it was prepared with.
      state.intent.clock.hasLiveSignal &&
        (state.intent.clock.firstEmptyWebApiPollMs.any fun firstEmptyMs =>
          !decide (saturatingSub poll.sampledAtMs firstEmptyMs <
            noActiveSessionConfirmMs)) &&
        row == (⟨state.intent.clock.item.map MediaItem.uri, false,
          if state.intent.clock.item.isSome then .recentFallback
            else .remotePoll, poll.sampledAtMs⟩ : StoredPlayback)

/-- One round of `forward_player_events`, as far as it concerns the row. -/
def forwardEvent (playerProvider : ProviderId) (event : PlayerEvent)
    (nowMs : Int) (now : Nat) : DurablePlayback :=
  { state with
    intent := ((state.intent.forwardPlayerEvent deriveDeviceIdForName stretch
      defaultDeviceName event nowMs now).1.hearVolume deriveDeviceIdForName
        event nowMs),
    nativeUpdate :=
      if state.intent.appliesEvent deriveDeviceIdForName event &&
          event.isPlaybackTransition then
        some playerProvider
      else
        state.nativeUpdate }

/-- `commit_playback_poll_if_current`, up to its write. -/
def beginPoll (poll : PlaybackPoll) (now : Nat) : Option DurablePlayback :=
  if state.lane ≠ .free then
    none
  else if !state.intent.mayApplyPlaybackPoll poll then
    some state
  else if state.intent.pollIsOutdated deriveDeviceIdForName poll then
    some state
  else
    let prepared := state.intent.clock.prepareWebApiPoll stretch
      poll.playback poll.sampledAtMs poll.providerTimestampMs now
    let marked :=
      { state with intent := { state.intent with clock := prepared.1 } }
    match prepared.2 with
    | none => some marked
    | some candidate =>
      some { marked with lane := .pollWriting poll (poll.row candidate) }

def writePoll (succeeded : Bool) : Option DurablePlayback :=
  match state.lane with
  | .pollWriting poll row =>
    if succeeded then
      some { state with row := some row, lane := .pollWritten poll row }
    else
      some { state with lane := .free }
  | _ => none

/-- A writer that left the row behind counts on the commands in flight. -/
def leftBehind : DurablePlayback :=
  { state with
    lane := .free,
    unsettled := state.unsettled || !state.commands.isEmpty }

/-- The clock's answer to a written poll. -/
def polled (poll : PlaybackPoll) (now : Nat) : DurablePlayback :=
  { state with
    intent :=
      if state.intent.mayApplyPlaybackPoll poll then
        state.intent.applyPlaybackPoll deriveDeviceIdForName stretch poll now
      else state.intent }

/-- `commit_playback_poll_if_current`, after its write. -/
def applyPoll (now : Nat) : Option DurablePlayback :=
  match state.lane with
  | .pollWritten poll row =>
    let polled := state.polled deriveDeviceIdForName stretch poll now
    if state.adoptsPoll poll row then
      some { polled with lane := .free, unsettled := false }
    else
      some polled.leftBehind
  | _ => none

def takeUpdate : Option DurablePlayback :=
  match state.nativeUpdate, state.worker, state.lane with
  | some _, none, .nativeWriting _ => none
  | some provider, none, _ =>
    some { state with nativeUpdate := none, worker := some provider }
  | _, _, _ => none

/-- The worker has the lane: it checks the owner, takes the clock's snapshot
and, for an item without a name, reads the stored metadata of its URI. -/
def beginNativeWrite (metadataRead : Bool) : Option DurablePlayback :=
  match state.lane, state.worker with
  | .free, some provider =>
    let taken := { state with worker := none }
    let named := state.intent.clock.item.all fun item => !item.name.isEmpty
    if state.intent.nativeCacheOwns provider && (named || metadataRead) then
      some { taken with
        lane := .nativeWriting state.intent.clock.shown,
        unsettled := false }
    else
      some taken.leftBehind
  | _, _ => none

def writeNative (succeeded : Bool) : Option DurablePlayback :=
  match state.lane with
  | .nativeWriting row =>
    if succeeded then
      some { state with row := some row, lane := .free }
    else
      some state.leftBehind
  | _ => none

/-- A playback request bumps the mutation sequence and shows its
prediction. -/
def startCommand (holdsLane : Bool) (predicted : Option Playback)
    (sampledAtMs : Int) (now : Nat) : DurablePlayback :=
  let requested := state.intent.userMutation
  let started :=
    { state with
      intent := requested,
      commands := state.commands ++
        [⟨state.nextId, requested.mutationSeq, holdsLane⟩],
      nextId := state.nextId + 1 }
  match predicted with
  | none => started
  | some playback =>
    { started with
      intent := requested.commandResultApplied
        ⟨state.nextId, playback, sampledAtMs⟩ now,
      unsettled := true }

/-- `persist_command_result`, up to its write; `accepted` is the verdict of
the provider and of the expectation check. -/
def beginResult (id : Nat) (playback : Playback) (accepted : Bool)
    (sampledAtMs : Int) : Option DurablePlayback :=
  (state.commands.find? fun command => command.id = id).bind fun command =>
    let result : ResultCommit := ⟨id, playback, sampledAtMs⟩
    if state.intent.mutationSeq ≠ command.capturedSeq ∨ accepted = false then
      some state
    else if command.holdsLane then
      if state.lane = .free then
        some { state with lane := .resultWriting result }
      else
        none
    else
      some { state with loose := state.loose ++ [(result, false)] }

def writeResult (succeeded : Bool) : Option DurablePlayback :=
  match state.lane with
  | .resultWriting result =>
    if succeeded then
      some { state with
        row := some result.row, lane := .resultWritten result }
    else
      some { state with lane := .free }
  | _ => none

def applyResult (now : Nat) : Option DurablePlayback :=
  match state.lane with
  | .resultWritten result =>
    let applied :=
      { state with intent := state.intent.commandResultApplied result now }
    if state.intent.clock.playerEventOwns result.playback then
      some applied.leftBehind
    else
      some { applied with lane := .free, unsettled := false }
  | _ => none

def writeLoose (id : Nat) (succeeded : Bool) : Option DurablePlayback :=
  (state.loose.find? fun loose => loose.1.command = id ∧ !loose.2).map
    fun loose =>
      let others := state.loose.erase loose
      if succeeded then
        { state with
          row := some loose.1.row, loose := others ++ [(loose.1, true)] }
      else
        { state with loose := others }

def applyLoose (id now : Nat) : Option DurablePlayback :=
  (state.loose.find? fun loose => loose.1.command = id ∧ loose.2).map
    fun loose =>
      { state with
        intent := state.intent.commandResultApplied loose.1 now,
        loose := state.loose.erase loose }

/-- The lane holds no result of the command. -/
def mayEnd (id : Nat) : Bool :=
  (match state.lane with
    | .resultWriting result | .resultWritten result => result.command != id
    | _ => true) &&
    state.loose.all fun loose => loose.1.command != id

/-- A transfer whose target stayed silent has played the track there again.  It
shows the healed playback after its result was persisted and writes no row. -/
def healTransfer (id : Nat) (healed : Playback) (sampledAtMs : Int)
    (now : Nat) : Option DurablePlayback :=
  if (state.commands.any fun command => command.id = id) &&
      state.mayEnd id then
    some { state with
      intent :=
        state.intent.commandResultApplied ⟨id, healed, sampledAtMs⟩ now,
      unsettled :=
        state.unsettled || !state.intent.clock.playerEventOwns healed }
  else
    none

def endCommand (id : Nat) : Option DurablePlayback :=
  if (state.commands.any fun command => command.id = id) &&
      state.mayEnd id then
    let remaining := state.commands.filter fun command => command.id ≠ id
    some { state with
      commands := remaining,
      unsettled := state.unsettled && !remaining.isEmpty }
  else
    none

end DurablePlayback

variable (playerProvider : ProviderId)

def commitStep (state : DurablePlayback) :
    CommitAction → Option DurablePlayback
  | .playerEvent event nowMs now =>
    some (state.forwardEvent deriveDeviceIdForName stretch defaultDeviceName
      playerProvider event nowMs now)
  | .enrich item =>
    some { state with
      intent := { state.intent with
        clock := state.intent.clock.enrichCurrentItem item } }
  | .changeTransport embedded active ownDeviceName weAreActive =>
    some { state with
      intent := { state.intent with
        embeddedProvider := embedded,
        activeTransportProvider := active,
        ownDeviceName := ownDeviceName,
        weAreActive := weAreActive } }
  | .beginPoll poll now =>
    state.beginPoll deriveDeviceIdForName stretch poll now
  | .writePoll succeeded => state.writePoll succeeded
  | .applyPoll now => state.applyPoll deriveDeviceIdForName stretch now
  | .takeUpdate => state.takeUpdate
  | .beginNativeWrite metadataRead => state.beginNativeWrite metadataRead
  | .writeNative succeeded => state.writeNative succeeded
  | .startCommand holdsLane predicted sampledAtMs now =>
    some (state.startCommand holdsLane predicted sampledAtMs now)
  | .beginResult id playback accepted sampledAtMs =>
    state.beginResult id playback accepted sampledAtMs
  | .writeResult succeeded => state.writeResult succeeded
  | .applyResult now => state.applyResult now
  | .writeLoose id succeeded => state.writeLoose id succeeded
  | .applyLoose id now => state.applyLoose id now
  | .healTransfer id healed sampledAtMs now =>
    state.healTransfer id healed sampledAtMs now
  | .endCommand id => state.endCommand id

def commitMachine : GuardedMachine DurablePlayback CommitAction :=
  ⟨commitStep deriveDeviceIdForName stretch defaultDeviceName
    playerProvider⟩

end

end Spotuify
