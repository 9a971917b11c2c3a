import Spotuify.DurablePlayback

/-!
# The last row agrees with the clock

Whatever moves the clock either leaves what a row keeps alone, wakes the
native cache worker, belongs to a command whose result will be written, or is
the adoption of a sample just written.  The invariant says which of these the
state is in; when nothing is in flight, only the agreement is left.
-/

namespace Spotuify

namespace ClockState

theorem shown_enrichCurrentItem (clock : ClockState) (item : MediaItem) :
    (clock.enrichCurrentItem item).shown = clock.shown := by
  unfold enrichCurrentItem
  split
  · rfl
  · rename_i current playing
    split
    · rfl
    · simp [shown, playing]

variable (stretch : PlaybackSpeed → Nat → Nat)

/-- Preparing a poll moves at most the confirmation marker. -/
theorem shown_prepareWebApiPoll (clock : ClockState) (playback : Playback)
    (sampledAtMs : Int) (providerTimestampMs : Option Int) (now : Nat) :
    (clock.prepareWebApiPoll stretch playback sampledAtMs
      providerTimestampMs now).1.shown = clock.shown := by
  unfold prepareWebApiPoll
  split
  · rfl
  · split
    · rfl
    · split
      · rfl
      · split <;> rfl

/-- A position tick within the drift threshold, and every event that is
neither a transition nor a tick. -/
theorem shown_applyPlayerEvent (clock : ClockState) (event : PlayerEvent)
    (nowMs : Int) (now : Nat)
    (steady : event.isPlaybackTransition = false)
    (withinThreshold : ∀ positionMs, event = .positionTick positionMs →
      ((asSigned (clock.currentProgressMs stretch now) -
        positionMs).natAbs : Int) ≤ positionDriftThresholdMs) :
    (clock.applyPlayerEvent stretch event nowMs now).shown = clock.shown := by
  cases event with
  | playbackStarted | trackChanged | playbackPaused | playbackResumed
  | deactivated | endOfTrack => cases steady
  | positionTick positionMs =>
    have small := withinThreshold positionMs rfl
    have same : ClockState.currentProgressMs stretch
        { clock with firstEmptyWebApiPollMs := none } now =
        clock.currentProgressMs stretch now := rfl
    simp only [applyPlayerEvent, PlayerEvent.isPlaybackTransition,
      Bool.false_eq_true, if_false, same]
    rw [if_neg (by omega)]
    rfl
  | ready | degraded | providerPolicy | activated | sessionDisconnected
  | failed | preloadNext | volumeChanged => rfl

/-- A live poll that re-seats the clock. -/
theorem shown_applyWebApiPoll_live {clock : ClockState} {playback : Playback}
    {revision : PlaybackPollRevision} {stateSeq : Nat} {sampledAtMs : Int}
    (providerTimestampMs : Option Int) (now : Nat)
    (seq : revision.mutationSeq = stateSeq)
    (transition : revision.playerTransition = clock.playerTransition)
    (live : playback.hasLiveSignal = true)
    (reseats : clock.isReseatedBy playback sampledAtMs = true) :
    (clock.applyWebApiPoll stretch playback revision stateSeq sampledAtMs
      providerTimestampMs true now).1.shown =
        playback.stored .remotePoll sampledAtMs := by
  have outranks : ¬(matchesUri clock.item playback.item = true ∧
      ¬(sourcePriority .remotePoll > sourcePriority clock.source ∨
        sampledAtMs - clock.sampledAtMs > positionDriftThresholdMs)) := by
    rintro ⟨same, weaker⟩
    simp only [isReseatedBy, same, Bool.not_true, Bool.false_or,
      Bool.or_eq_true, decide_eq_true_eq] at reseats
    exact weaker reseats
  simp only [applyWebApiPoll, seq, transition, live, ne_eq,
    not_true_eq_false, Bool.true_eq_false, or_self, Bool.not_true,
    Bool.false_eq_true, if_false]
  rw [if_neg outranks]
  rfl

/-- A confirmed empty poll clears the clock. -/
theorem shown_applyWebApiPoll_empty {clock : ClockState} {playback : Playback}
    {revision : PlaybackPollRevision} {stateSeq : Nat} {sampledAtMs : Int}
    (providerTimestampMs : Option Int) (now : Nat)
    (seq : revision.mutationSeq = stateSeq)
    (transition : revision.playerTransition = clock.playerTransition)
    (empty : playback.hasLiveSignal = false)
    (confirmed : clock.ConfirmsEmpty sampledAtMs) :
    (clock.applyWebApiPoll stretch playback revision stateSeq sampledAtMs
      providerTimestampMs true now).1.shown =
        ⟨clock.item.map MediaItem.uri, false,
          if clock.item.isSome then .recentFallback else .remotePoll,
          sampledAtMs⟩ := by
  obtain ⟨live, firstEmptyMs, marked, longEnough⟩ := confirmed
  have notEarly : ¬saturatingSub sampledAtMs firstEmptyMs <
      noActiveSessionConfirmMs := by omega
  simp only [applyWebApiPoll, seq, transition, empty, applyEmptyWebApiPoll,
    live, marked, notEarly, ne_eq, not_true_eq_false, Bool.true_eq_false,
    or_self, Bool.not_false, Bool.not_true, Bool.false_eq_true, if_true,
    if_false]
  rfl

/-- A command result the player does not outrank. -/
theorem shown_applyCommandResult {clock : ClockState} {playback : Playback}
    (sampledAtMs : Int) (now : Nat)
    (free : clock.playerEventOwns playback = false) :
    (clock.applyCommandResult playback sampledAtMs now).shown =
      playback.stored .commandResult sampledAtMs := by
  unfold applyCommandResult
  rw [show (matchesUri clock.item playback.item &&
    clock.source == .playerEvent) = false from free]
  rfl

/-- A command result about a track the player owns moves nothing a row
keeps. -/
theorem shown_applyCommandResult_owned {clock : ClockState}
    {playback : Playback} (sampledAtMs : Int) (now : Nat)
    (owned : clock.playerEventOwns playback = true) :
    (clock.applyCommandResult playback sampledAtMs now).shown =
      clock.shown := by
  have sameItem : playback.item.map MediaItem.uri =
      clock.item.map MediaItem.uri := by
    simp only [playerEventOwns, Bool.and_eq_true] at owned
    obtain ⟨same, -⟩ := owned
    cases ours : clock.item with
    | none =>
      cases theirs : playback.item with
      | none => rfl
      | some other => simp [matchesUri, ours, theirs] at same
    | some item =>
      cases theirs : playback.item with
      | none => simp [matchesUri, ours, theirs] at same
      | some other =>
        have uris : item.uri = other.uri := by
          simpa [matchesUri, ours, theirs] using same
        simp [uris]
  unfold applyCommandResult
  rw [show (matchesUri clock.item playback.item &&
    clock.source == .playerEvent) = true from owned]
  simp [shown, sameItem]

end ClockState

namespace PlaybackIntent

variable (deriveDeviceIdForName : String → String)
  (stretch : PlaybackSpeed → Nat → Nat) (defaultDeviceName : String)

@[simp]
theorem claimedFor_clock (intent : PlaybackIntent) (event : PlayerEvent) :
    (intent.claimedFor event).clock = intent.clock := by
  have revoked : (intent.revokeOnHandOff event).clock = intent.clock := by
    unfold revokeOnHandOff
    split <;> rfl
  rw [← revoked]
  simp only [claimedFor, reclaimTransport]
  split
  · split <;> rfl
  · rfl

/-- The forwarder moves the clock by the events it applies only. -/
theorem forwardPlayerEvent_clock (intent : PlaybackIntent)
    (event : PlayerEvent) (nowMs : Int) (now : Nat) :
    (intent.forwardPlayerEvent deriveDeviceIdForName stretch
        defaultDeviceName event nowMs now).1.clock =
      if intent.appliesEvent deriveDeviceIdForName event then
        intent.clock.applyPlayerEvent stretch event nowMs now
      else intent.clock := by
  have claimed := intent.claimedFor_clock event
  by_cases activated : event = .activated
  · subst activated
    rfl
  · have decided : (event != .activated) = true := by simpa using activated
    unfold forwardPlayerEvent appliesEvent applyGlobalEvent
    simp only [activated, decided, if_false, Bool.true_and]
    rw [show (intent.revokeOnHandOff event).reclaimTransport event =
      intent.claimedFor event from rfl]
    generalize intent.claimedFor event = owner at claimed ⊢
    split
    · simp only [applyOwnedEvent, claimed]
    · exact claimed

theorem forwardPlayerEvent_volumeChanged (intent : PlaybackIntent)
    (percent : Nat) (nowMs : Int) (now : Nat) :
    (intent.forwardPlayerEvent deriveDeviceIdForName stretch
      defaultDeviceName (.volumeChanged percent) nowMs now).1 = intent := by
  have claimed : (intent.revokeOnHandOff (.volumeChanged
      percent)).reclaimTransport (.volumeChanged percent) = intent := by
    simp [revokeOnHandOff, reclaimTransport]
  unfold forwardPlayerEvent applyGlobalEvent
  simp only [claimed, reduceCtorEq, if_false]
  split <;> rfl

/-- What a row keeps of the clock only changes with a transition or an event
that re-dates the clock silently. -/
theorem shown_forwardEvent (intent : PlaybackIntent) (event : PlayerEvent)
    (nowMs : Int) (now : Nat)
    (notSignalled : (intent.appliesEvent deriveDeviceIdForName event &&
      event.isPlaybackTransition) = false)
    (steady : intent.redatesSilently deriveDeviceIdForName stretch event
      now = false) :
    ((intent.forwardPlayerEvent deriveDeviceIdForName stretch
      defaultDeviceName event nowMs now).1.hearVolume deriveDeviceIdForName
        event nowMs).clock.shown = intent.clock.shown := by
  by_cases volume : ∃ percent, event = .volumeChanged percent
  · obtain ⟨percent, rfl⟩ := volume
    have foreign : intent.hearsOwnDevice deriveDeviceIdForName
        (.volumeChanged percent) = false := steady
    rw [forwardPlayerEvent_volumeChanged]
    simp [hearVolume, foreign]
  · have silent : ∀ other : PlaybackIntent,
        other.hearVolume deriveDeviceIdForName event nowMs = other := by
      intro other
      cases event <;> first | rfl | exact absurd ⟨_, rfl⟩ volume
    rw [silent, forwardPlayerEvent_clock]
    split
    · rename_i applies
      apply ClockState.shown_applyPlayerEvent
      · simpa [applies] using notSignalled
      · rintro positionMs rfl
        simpa [redatesSilently, applies] using steady
    · rfl

end PlaybackIntent

namespace DurablePlayback

/-- The row, or the one being written for the worker, agrees with the clock;
a row that was just written waits for the clock. -/
def InStep (state : DurablePlayback) : Prop :=
  match state.lane with
  | .free | .pollWriting _ _ | .resultWriting _ =>
    ∀ row, state.row = some row → row = state.intent.clock.shown
  | .nativeWriting row => row = state.intent.clock.shown
  | .pollWritten _ _ | .resultWritten _ => True

/-- The command whose result holds the lane. -/
def laneCommand (state : DurablePlayback) : Option Nat :=
  match state.lane with
  | .resultWriting result | .resultWritten result => some result.command
  | _ => none

/-- The poll that holds the lane, and the row prepared for it. -/
def lanePoll (state : DurablePlayback) :
    Option (PlaybackPoll × StoredPlayback) :=
  match state.lane with
  | .pollWriting poll row | .pollWritten poll row => some (poll, row)
  | _ => none

/-- The row the lane's holder has just written. -/
def laneRow (state : DurablePlayback) : Option StoredPlayback :=
  match state.lane with
  | .pollWritten _ row => some row
  | .resultWritten result => some result.row
  | _ => none

structure Converges (state : DurablePlayback) : Prop where
  noLoose : state.loose = []
  /-- Only a command in flight may leave the row behind. -/
  unsettled : state.unsettled = true → state.commands ≠ []
  laneCommand : ∀ id, state.laneCommand = some id →
    ∃ command ∈ state.commands, command.id = id
  lanePoll : ∀ poll row, state.lanePoll = some (poll, row) →
    poll.playback.hasLiveSignal = true → row = poll.row poll.playback
  laneRow : ∀ row, state.laneRow = some row → state.row = some row
  inStep : state.unsettled = true ∨ state.catchingUp = true ∨ state.InStep

theorem Converges.agrees_of_quiet {state : DurablePlayback}
    (converges : state.Converges) (quiet : state.Quiet) :
    ∀ row, state.row = some row → row = state.intent.clock.shown := by
  obtain ⟨free, caughtUp, noCommands, -⟩ := quiet
  rcases converges.inStep with unsettled | catching | inStep
  · exact absurd noCommands (converges.unsettled unsettled)
  · rw [caughtUp] at catching
    cases catching
  · simpa [InStep, free] using inStep

/-- Steps that move neither the row nor what it keeps of the clock. -/
theorem Converges.of_same {before after : DurablePlayback}
    (converges : before.Converges)
    (shown : after.intent.clock.shown = before.intent.clock.shown)
    (row : after.row = before.row) (lane : after.lane = before.lane)
    (update : after.nativeUpdate = before.nativeUpdate)
    (worker : after.worker = before.worker)
    (commands : after.commands = before.commands)
    (loose : after.loose = before.loose)
    (unsettled : after.unsettled = before.unsettled) :
    after.Converges := by
  obtain ⟨noLoose, owed, running, prepared, written, inStep⟩ := converges
  constructor
  · rw [loose, noLoose]
  · simpa only [unsettled, commands] using owed
  · simpa only [DurablePlayback.laneCommand, lane, commands] using running
  · simpa only [DurablePlayback.lanePoll, lane] using prepared
  · simpa only [DurablePlayback.laneRow, lane, row] using written
  · simpa only [catchingUp, InStep, shown, row, lane, update, worker,
      unsettled] using inStep

/-- A lane without a poll, a result or a fresh row. -/
theorem Converges.of_unclaimed {state : DurablePlayback}
    (command : state.laneCommand = none) (poll : state.lanePoll = none)
    (row : state.laneRow = none) (noLoose : state.loose = [])
    (owed : state.unsettled = true → state.commands ≠ [])
    (inStep : state.unsettled = true ∨ state.catchingUp = true ∨
      state.InStep) : state.Converges := by
  refine ⟨noLoose, owed, ?_, ?_, ?_, inStep⟩
  · simp [command]
  · simp [poll]
  · simp [row]

/-- A writer that could not bring them together counts on a command. -/
theorem Converges.leftBehind (state : DurablePlayback)
    (noLoose : state.loose = [])
    (owed : state.unsettled = true → state.commands ≠ [])
    (excused : state.unsettled = true ∨ state.catchingUp = true ∨
      state.commands ≠ []) : state.leftBehind.Converges where
  noLoose := noLoose
  unsettled := by
    intro unsettled
    simp only [DurablePlayback.leftBehind, Bool.or_eq_true] at unsettled
    rcases unsettled with already | running
    · exact owed already
    · simpa [DurablePlayback.leftBehind] using running
  laneCommand := fun _ same => nomatch same
  lanePoll := fun _ _ same => nomatch same
  laneRow := fun _ same => nomatch same
  inStep := by
    rcases excused with already | catching | running
    · exact .inl (by simp [DurablePlayback.leftBehind, already])
    · exact .inr (.inl catching)
    · exact .inl (by simp [DurablePlayback.leftBehind, running])

theorem catchingUp_of_update {state : DurablePlayback}
    (update : state.nativeUpdate.isSome = true) :
    state.catchingUp = true := by
  simp [catchingUp, update]

/-- A poll's row is what the clock shows once it adopts the poll. -/
theorem shown_of_adoptsPoll (deriveDeviceIdForName : String → String)
    (stretch : PlaybackSpeed → Nat → Nat) {state : DurablePlayback}
    {poll : PlaybackPoll} {row : StoredPlayback}
    (adopts : state.adoptsPoll poll row = true) (now : Nat)
    (liveRow : poll.playback.hasLiveSignal = true →
      row = poll.row poll.playback) :
    state.intent.mayApplyPlaybackPoll poll = true ∧
      (state.intent.applyPlaybackPoll deriveDeviceIdForName stretch poll
        now).clock.shown = row := by
  simp only [adoptsPoll, Bool.and_eq_true] at adopts
  obtain ⟨may, adopts⟩ := adopts
  refine ⟨may, ?_⟩
  simp only [PlaybackIntent.mayApplyPlaybackPoll, Bool.and_eq_true,
    beq_iff_eq] at may
  obtain ⟨⟨-, seq⟩, transition⟩ := may
  simp only [PlaybackIntent.applyPlaybackPoll]
  split at adopts
  · rename_i live
    rw [liveRow live, ClockState.shown_applyWebApiPoll_live stretch _ now seq
      transition live adopts]
    simp [PlaybackPoll.row, live]
  · rename_i empty
    have notLive : poll.playback.hasLiveSignal = false := by simpa using empty
    simp only [Bool.and_eq_true, beq_iff_eq] at adopts
    obtain ⟨⟨live, late⟩, rfl⟩ := adopts
    apply ClockState.shown_applyWebApiPoll_empty stretch _ now seq transition
      notLive
    refine ⟨live, ?_⟩
    cases marked : state.intent.clock.firstEmptyWebApiPollMs with
    | none => simp [marked] at late
    | some firstEmptyMs =>
      exact ⟨firstEmptyMs, rfl, by simpa [marked] using late⟩

section

variable (deriveDeviceIdForName : String → String)
  (stretch : PlaybackSpeed → Nat → Nat) (defaultDeviceName : String)
  (playerProvider : ProviderId)

/-- Nothing leaves the row behind for good: a written poll is adopted or the
worker or a command comes after it, the worker's writes go through, results
are persisted under the lane, and the last command to end has settled what it
owed. -/
def StepSettles (state : DurablePlayback) : CommitAction → Prop
  | .playerEvent event _ now =>
    state.catchingUp = true ∨ state.intent.redatesSilently
      deriveDeviceIdForName stretch event now = false
  | .applyPoll _ =>
    ∀ poll row, state.lane = .pollWritten poll row →
      state.adoptsPoll poll row = true ∨ state.catchingUp = true ∨
        state.commands ≠ []
  | .beginNativeWrite metadataRead =>
    ∀ provider, state.worker = some provider →
      (state.intent.nativeCacheOwns provider = true ∧
        (metadataRead = true ∨ (state.intent.clock.item.all fun item =>
          !item.name.isEmpty) = true)) ∨
        state.nativeUpdate.isSome = true ∨ state.commands ≠ []
  | .writeNative succeeded =>
    succeeded = true ∨ state.nativeUpdate.isSome = true ∨
      state.commands ≠ []
  | .beginResult id _ _ _ =>
    ∀ command ∈ state.commands, command.id = id → command.holdsLane = true
  | .endCommand id =>
    state.unsettled = false ∨ state.catchingUp = true ∨
      ∃ command ∈ state.commands, command.id ≠ id
  | _ => True

theorem Converges.forwardEvent {state : DurablePlayback}
    {event : PlayerEvent} (nowMs : Int) {now : Nat}
    (converges : state.Converges)
    (settles : state.catchingUp = true ∨ state.intent.redatesSilently
      deriveDeviceIdForName stretch event now = false) :
    (state.forwardEvent deriveDeviceIdForName stretch defaultDeviceName
      playerProvider event nowMs now).Converges := by
  cases signalled : state.intent.appliesEvent deriveDeviceIdForName event &&
      event.isPlaybackTransition with
  | true =>
    obtain ⟨noLoose, owed, running, prepared, written, -⟩ := converges
    refine ⟨noLoose, owed, running, prepared, written, .inr (.inl ?_)⟩
    simp [catchingUp, DurablePlayback.forwardEvent, signalled]
  | false =>
    rcases settles with catching | steady
    · obtain ⟨noLoose, owed, running, prepared, written, -⟩ := converges
      refine ⟨noLoose, owed, running, prepared, written, .inr (.inl ?_)⟩
      simpa [catchingUp, DurablePlayback.forwardEvent, signalled]
        using catching
    · apply converges.of_same
      · exact state.intent.shown_forwardEvent deriveDeviceIdForName stretch
          defaultDeviceName event nowMs now signalled steady
      all_goals simp [DurablePlayback.forwardEvent, signalled]

theorem Converges.beginPoll {state next : DurablePlayback}
    {poll : PlaybackPoll} {now : Nat} (converges : state.Converges)
    (began : state.beginPoll deriveDeviceIdForName stretch poll now =
      some next) : next.Converges := by
  have marked : ({ state with intent := { state.intent with
      clock := (state.intent.clock.prepareWebApiPoll stretch poll.playback
        poll.sampledAtMs poll.providerTimestampMs now).1 } } :
      DurablePlayback).Converges :=
    converges.of_same (ClockState.shown_prepareWebApiPoll stretch _ _ _ _ now)
      rfl rfl rfl rfl rfl rfl rfl
  unfold DurablePlayback.beginPoll at began
  split at began
  · cases began
  · rename_i laneFree
    have free : state.lane = .free := by simpa using laneFree
    split at began
    · cases began
      exact converges
    · split at began
      · cases began
        exact converges
      · dsimp only at began
        split at began
        · cases began
          exact marked
        · rename_i candidate prepared
          cases began
          obtain ⟨noLoose, owed, -, -, -, inStep⟩ := marked
          refine ⟨noLoose, owed, by simp [DurablePlayback.laneCommand], ?_,
            by simp [DurablePlayback.laneRow], ?_⟩
          · intro _ _ same live
            obtain ⟨rfl, rfl⟩ := Prod.mk.inj (Option.some.inj same)
            simp only [ClockState.prepareWebApiPoll, live, if_true] at prepared
            rw [← Option.some.inj prepared]
          · simpa [InStep, catchingUp, free] using inStep

theorem Converges.writePoll {state next : DurablePlayback}
    {succeeded : Bool} (converges : state.Converges)
    (wrote : state.writePoll succeeded = some next) : next.Converges := by
  obtain ⟨noLoose, owed, -, prepared, -, inStep⟩ := converges
  unfold DurablePlayback.writePoll at wrote
  split at wrote
  · rename_i poll row writing
    simp only [DurablePlayback.lanePoll, writing] at prepared
    split at wrote
    · cases wrote
      exact ⟨noLoose, owed, by simp [DurablePlayback.laneCommand], prepared,
        fun _ same => same, .inr (.inr trivial)⟩
    · cases wrote
      refine .of_unclaimed rfl rfl rfl noLoose owed ?_
      simpa [InStep, catchingUp, writing] using inStep
  · cases wrote

theorem Converges.applyPoll {state next : DurablePlayback} {now : Nat}
    (converges : state.Converges)
    (settles : ∀ poll row, state.lane = .pollWritten poll row →
      state.adoptsPoll poll row = true ∨ state.catchingUp = true ∨
        state.commands ≠ [])
    (applied : state.applyPoll deriveDeviceIdForName stretch now =
      some next) : next.Converges := by
  obtain ⟨noLoose, owed, -, prepared, written, inStep⟩ := converges
  unfold DurablePlayback.applyPoll at applied
  split at applied
  · rename_i poll row lane
    have rowWritten := written row (by simp [DurablePlayback.laneRow, lane])
    split at applied
    · rename_i adopts
      have liveRow := prepared poll row (by
        simp [DurablePlayback.lanePoll, lane])
      obtain ⟨may, shown⟩ := shown_of_adoptsPoll deriveDeviceIdForName
        stretch adopts now liveRow
      cases applied
      refine .of_unclaimed rfl rfl rfl noLoose nofun (.inr (.inr ?_))
      intro other isOther
      have same : other = row :=
        Option.some.inj (isOther.symm.trans rowWritten)
      simp only [polled, may, if_true, shown, same]
    · rename_i rejects
      cases applied
      apply Converges.leftBehind (state.polled deriveDeviceIdForName stretch
        poll now) noLoose owed
      rcases settles poll row lane with adopts | excused
      · exact absurd adopts rejects
      · exact .inr excused
  · cases applied

theorem Converges.takeUpdate {state next : DurablePlayback}
    (converges : state.Converges)
    (took : state.takeUpdate = some next) : next.Converges := by
  obtain ⟨noLoose, owed, running, prepared, written, -⟩ := converges
  unfold DurablePlayback.takeUpdate at took
  split at took
  · cases took
  · cases took
    exact ⟨noLoose, owed, running, prepared, written, .inr (.inl (by
      simp [catchingUp]))⟩
  · cases took

theorem Converges.beginNativeWrite {state next : DurablePlayback}
    {metadataRead : Bool} (converges : state.Converges)
    (settles : ∀ provider, state.worker = some provider →
      (state.intent.nativeCacheOwns provider = true ∧
        (metadataRead = true ∨ (state.intent.clock.item.all fun item =>
          !item.name.isEmpty) = true)) ∨
        state.nativeUpdate.isSome = true ∨ state.commands ≠ [])
    (began : state.beginNativeWrite metadataRead = some next) :
    next.Converges := by
  obtain ⟨noLoose, owed, -, -, -, -⟩ := converges
  unfold DurablePlayback.beginNativeWrite at began
  split at began
  · rename_i provider free waiting
    dsimp only at began
    split at began
    · cases began
      exact .of_unclaimed rfl rfl rfl noLoose nofun (.inr (.inr rfl))
    · rename_i skips
      cases began
      apply Converges.leftBehind { state with worker := none } noLoose owed
      rcases settles provider waiting with ⟨owns, named⟩ | update | running
      · simp only [Bool.and_eq_true, Bool.or_eq_true] at skips
        exact absurd ⟨owns, named.symm⟩ skips
      · exact .inr (.inl (catchingUp_of_update update))
      · exact .inr (.inr running)
  · cases began

theorem Converges.writeNative {state next : DurablePlayback}
    {succeeded : Bool} (converges : state.Converges)
    (settles : succeeded = true ∨ state.nativeUpdate.isSome = true ∨
      state.commands ≠ [])
    (wrote : state.writeNative succeeded = some next) :
    next.Converges := by
  obtain ⟨noLoose, owed, -, -, -, inStep⟩ := converges
  unfold DurablePlayback.writeNative at wrote
  split at wrote
  · rename_i row writing
    split at wrote
    · cases wrote
      refine .of_unclaimed rfl rfl rfl noLoose owed ?_
      simpa [InStep, catchingUp, writing] using inStep
    · rename_i failed
      cases wrote
      apply Converges.leftBehind state noLoose owed
      rcases settles with wrote | update | running
      · exact absurd wrote failed
      · exact .inr (.inl (catchingUp_of_update update))
      · exact .inr (.inr running)
  · cases wrote

theorem Converges.startCommand {state : DurablePlayback}
    (converges : state.Converges) (holdsLane : Bool)
    (predicted : Option Playback) (sampledAtMs : Int) (now : Nat) :
    (state.startCommand holdsLane predicted sampledAtMs now).Converges := by
  obtain ⟨noLoose, owed, running, prepared, written, inStep⟩ := converges
  have stillRunning : ∀ id, state.laneCommand = some id →
      ∃ command ∈ state.commands ++
        [(⟨state.nextId, state.intent.userMutation.mutationSeq, holdsLane⟩ :
          CommandInFlight)], command.id = id := by
    intro id holds
    obtain ⟨command, member, same⟩ := running id holds
    exact ⟨command, List.mem_append_left _ member, same⟩
  cases predicted with
  | none =>
    exact ⟨noLoose, fun _ => by simp [DurablePlayback.startCommand],
      stillRunning, prepared, written, inStep⟩
  | some playback =>
    exact ⟨noLoose, fun _ => by simp [DurablePlayback.startCommand],
      stillRunning, prepared, written, .inl rfl⟩

theorem Converges.beginResult {state next : DurablePlayback} {id : Nat}
    {playback : Playback} {accepted : Bool} {sampledAtMs : Int}
    (converges : state.Converges)
    (settles : ∀ command ∈ state.commands, command.id = id →
      command.holdsLane = true)
    (began : state.beginResult id playback accepted sampledAtMs =
      some next) : next.Converges := by
  obtain ⟨command, found, rest⟩ := Option.bind_eq_some_iff.mp began
  have member := List.mem_of_find?_eq_some found
  have isId : command.id = id := by simpa using List.find?_some found
  dsimp only at rest
  split at rest
  · cases rest
    exact converges
  · rw [if_pos (settles command member isId)] at rest
    split at rest
    · rename_i free
      cases rest
      obtain ⟨noLoose, owed, -, -, -, inStep⟩ := converges
      refine ⟨noLoose, owed, ?_, by simp [DurablePlayback.lanePoll],
        by simp [DurablePlayback.laneRow], ?_⟩
      · intro other same
        exact ⟨command, member, isId.trans (Option.some.inj same)⟩
      · simpa [InStep, catchingUp, free] using inStep
    · cases rest

theorem Converges.writeResult {state next : DurablePlayback}
    {succeeded : Bool} (converges : state.Converges)
    (wrote : state.writeResult succeeded = some next) : next.Converges := by
  obtain ⟨noLoose, owed, running, -, -, inStep⟩ := converges
  unfold DurablePlayback.writeResult at wrote
  split at wrote
  · rename_i result writing
    simp only [DurablePlayback.laneCommand, writing] at running
    split at wrote
    · cases wrote
      exact ⟨noLoose, owed, running, by simp [DurablePlayback.lanePoll],
        fun _ same => same, .inr (.inr trivial)⟩
    · cases wrote
      refine .of_unclaimed rfl rfl rfl noLoose owed ?_
      simpa [InStep, catchingUp, writing] using inStep
  · cases wrote

theorem Converges.applyResult {state next : DurablePlayback} {now : Nat}
    (converges : state.Converges)
    (applied : state.applyResult now = some next) : next.Converges := by
  obtain ⟨noLoose, owed, running, -, written, -⟩ := converges
  unfold DurablePlayback.applyResult at applied
  split at applied
  · rename_i result lane
    have rowWritten := written result.row (by
      simp [DurablePlayback.laneRow, lane])
    obtain ⟨command, member, -⟩ := running result.command (by
      simp [DurablePlayback.laneCommand, lane])
    split at applied
    · cases applied
      exact .leftBehind { state with
          intent := state.intent.commandResultApplied result now }
        noLoose owed (.inr (.inr (List.ne_nil_of_mem member)))
    · rename_i notOwned
      cases applied
      refine .of_unclaimed rfl rfl rfl noLoose nofun (.inr (.inr ?_))
      intro other isOther
      have same : other = result.row :=
        Option.some.inj (isOther.symm.trans rowWritten)
      rw [same]
      exact (ClockState.shown_applyCommandResult result.sampledAtMs now
        (by simpa using notOwned)).symm
  · cases applied

theorem Converges.healTransfer {state next : DurablePlayback} {id : Nat}
    {healed : Playback} {sampledAtMs : Int} {now : Nat}
    (converges : state.Converges)
    (heals : state.healTransfer id healed sampledAtMs now = some next) :
    next.Converges := by
  unfold DurablePlayback.healTransfer at heals
  split at heals
  · rename_i running
    simp only [Bool.and_eq_true] at running
    cases heals
    cases owned : state.intent.clock.playerEventOwns healed with
    | true =>
      exact converges.of_same
        (ClockState.shown_applyCommandResult_owned sampledAtMs now owned)
        rfl rfl rfl rfl rfl rfl (by simp)
    | false =>
      obtain ⟨command, member, -⟩ := List.any_eq_true.mp running.1
      obtain ⟨noLoose, -, running, prepared, written, -⟩ := converges
      exact ⟨noLoose, fun _ => List.ne_nil_of_mem member, running, prepared,
        written, .inl (by simp)⟩
  · cases heals

theorem Converges.endCommand {state next : DurablePlayback} {id : Nat}
    (converges : state.Converges)
    (settles : state.unsettled = false ∨ state.catchingUp = true ∨
      ∃ command ∈ state.commands, command.id ≠ id)
    (ended : state.endCommand id = some next) : next.Converges := by
  obtain ⟨noLoose, owed, running, prepared, written, inStep⟩ := converges
  unfold DurablePlayback.endCommand at ended
  split at ended
  · rename_i may
    simp only [Bool.and_eq_true] at may
    obtain ⟨-, mayEnd⟩ := may
    cases ended
    refine ⟨noLoose, ?_, ?_, prepared, written, ?_⟩
    · intro unsettled
      simp only [Bool.and_eq_true] at unsettled
      simpa using unsettled.2
    · intro other holds
      obtain ⟨command, member, same⟩ := running other holds
      refine ⟨command, List.mem_filter.mpr ⟨member, ?_⟩, same⟩
      -- The lane's command is not the one that ends.
      have differs : other ≠ id := by
        rintro rfl
        cases lane : state.lane with
        | free | pollWriting | pollWritten | nativeWriting =>
          simp [DurablePlayback.laneCommand, lane] at holds
        | resultWriting result | resultWritten result =>
          have ofLane : result.command = other := by
            simpa [DurablePlayback.laneCommand, lane] using holds
          simp [DurablePlayback.mayEnd, lane, ofLane] at mayEnd
      simpa [same] using differs
    · rcases inStep with unsettled | settled
      · rcases settles with settled | catching | ⟨other, member, differs⟩
        · rw [unsettled] at settled
          cases settled
        · exact .inr (.inl catching)
        · left
          simp only [unsettled, Bool.true_and, Bool.not_eq_true',
            List.isEmpty_eq_false_iff]
          exact List.ne_nil_of_mem (List.mem_filter.mpr
            ⟨member, by simpa using differs⟩)
      · exact .inr settled
  · cases ended

/-- One step that settles, whoever takes it. -/
theorem Converges.step {state next : DurablePlayback} {action : CommitAction}
    (converges : state.Converges)
    (settles : state.StepSettles deriveDeviceIdForName stretch action)
    (stepped : (commitMachine deriveDeviceIdForName stretch defaultDeviceName
      playerProvider).step state action = some next) : next.Converges := by
  cases action with
  | playerEvent event nowMs now =>
    cases stepped
    exact converges.forwardEvent _ _ _ _ nowMs settles
  | enrich item =>
    cases stepped
    exact converges.of_same (ClockState.shown_enrichCurrentItem _ item)
      rfl rfl rfl rfl rfl rfl rfl
  | changeTransport =>
    cases stepped
    exact converges.of_same rfl rfl rfl rfl rfl rfl rfl rfl
  | beginPoll poll now => exact converges.beginPoll _ _ stepped
  | writePoll succeeded => exact converges.writePoll stepped
  | applyPoll now => exact converges.applyPoll _ _ settles stepped
  | takeUpdate => exact converges.takeUpdate stepped
  | beginNativeWrite metadataRead =>
    exact converges.beginNativeWrite settles stepped
  | writeNative succeeded => exact converges.writeNative settles stepped
  | startCommand holdsLane predicted sampledAtMs now =>
    cases stepped
    exact converges.startCommand holdsLane predicted sampledAtMs now
  | beginResult => exact converges.beginResult settles stepped
  | writeResult succeeded => exact converges.writeResult stepped
  | applyResult now => exact converges.applyResult stepped
  | writeLoose id succeeded =>
    obtain ⟨loose, found, -⟩ := Option.map_eq_some_iff.mp stepped
    simp [converges.noLoose] at found
  | applyLoose id now =>
    obtain ⟨loose, found, -⟩ := Option.map_eq_some_iff.mp stepped
    simp [converges.noLoose] at found
  | healTransfer id healed sampledAtMs now =>
    exact converges.healTransfer stepped
  | endCommand id => exact converges.endCommand settles stepped

end

/-- A daemon that has written no row yet. -/
def unwritten (intent : PlaybackIntent) : DurablePlayback where
  intent := intent
  row := none
  lane := .free
  nativeUpdate := none
  worker := none
  commands := []
  loose := []
  nextId := 0
  unsettled := false

theorem unwritten_converges (intent : PlaybackIntent) :
    (unwritten intent).Converges :=
  .of_unclaimed rfl rfl rfl rfl nofun (.inr (.inr nofun))

end DurablePlayback

/-- A row and a snapshot show the same playback, from the same sample. -/
structure StoredPlayback.AgreesWith (row : StoredPlayback)
    (playback : Playback) : Prop where
  itemUri : row.itemUri = playback.item.map MediaItem.uri
  isPlaying : row.isPlaying = playback.isPlaying
  source : some row.source = playback.source
  sampledAtMs : some row.sampledAtMs = playback.sampledAtMs

/-- In a run whose every step settles, the last row agrees with the clock's
snapshot whenever nothing is in flight. -/
theorem durablePlayback_agrees_when_quiet
    (deriveDeviceIdForName : String → String)
    (stretch : PlaybackSpeed → Nat → Nat) (defaultDeviceName : String)
    (playerProvider : ProviderId) (intent : PlaybackIntent)
    (actions : List CommitAction) (final : DurablePlayback)
    (ran : (commitMachine deriveDeviceIdForName stretch defaultDeviceName
      playerProvider).run (.unwritten intent) actions = some final)
    (settles : (commitMachine deriveDeviceIdForName stretch defaultDeviceName
      playerProvider).StepsMeet
        (DurablePlayback.StepSettles deriveDeviceIdForName stretch)
        (.unwritten intent) actions) (quiet : final.Quiet) :
    ∀ row, final.row = some row → ∀ readAt,
      row.AgreesWith (final.intent.clock.snapshot stretch readAt) := by
  have converges : final.Converges :=
    GuardedMachine.run_preserves_of_stepsMeet _
      (fun _ _ _ converges settles stepped =>
        converges.step _ _ _ _ settles stepped)
      (DurablePlayback.unwritten_converges intent) settles ran
  intro row written readAt
  rw [converges.agrees_of_quiet quiet row written]
  exact ⟨rfl, rfl, rfl, rfl⟩

def cachedProvider : ProviderId := ⟨"spotify"⟩

def cachedTrack : ResourceUri := ⟨⟨"spotify", rfl⟩, .track, "a", rfl⟩

def readyToPlay : PlaybackIntent := .ownDeviceActive cachedProvider "spotuify"

/-- The player starts a track and the worker caches it. -/
def startedAndCached : List CommitAction :=
  [.playerEvent (.playbackStarted cachedTrack 0) 1000 0, .takeUpdate,
    .beginNativeWrite true, .writeNative true]

/-- What the provider answers once another track was asked for. -/
def askedPlayback : Playback :=
  { emptySample with
    item := some (MediaItem.stub "spotify:track:b"),
    isPlaying := true }

/-- The provider's answer to a poll some seconds later. -/
def laterPoll : PlaybackPoll where
  provider := cachedProvider
  playback := askedPlayback
  revision := ⟨1, 1⟩
  sampledAtMs := 9000
  providerTimestampMs := none

/-- Another track is asked for and predicted, its result is persisted, and a
poll confirms it. -/
def askedAndPolled : List CommitAction :=
  startedAndCached ++
    [.startCommand true (some askedPlayback) 3000 0,
      .beginResult 0 askedPlayback true 3500, .writeResult true,
      .applyResult 0, .endCommand 0, .beginPoll laterPoll 0,
      .writePoll true, .applyPoll 0]

theorem askedAndPolled_agrees :
    ∃ final, (commitMachine id (fun _ ms => ms) "spotuify"
        cachedProvider).run (.unwritten readyToPlay) askedAndPolled =
          some final ∧
      final.row = some (laterPoll.row askedPlayback) ∧
      ∀ row, final.row = some row → ∀ readAt,
        row.AgreesWith (final.intent.clock.snapshot (fun _ ms => ms)
          readAt) := by
  refine ⟨_, rfl, rfl, durablePlayback_agrees_when_quiet id
    (fun _ ms => ms) "spotuify" cachedProvider readyToPlay askedAndPolled _
    rfl ?_ ⟨rfl, rfl, rfl, rfl⟩⟩
  refine .cons _ rfl (.inr rfl) ?_
  refine .cons _ rfl trivial ?_
  refine .cons _ rfl ?_ ?_
  · rintro _ ⟨⟩
    exact .inl ⟨rfl, .inl rfl⟩
  refine .cons _ rfl (.inl rfl) ?_
  refine .cons _ rfl trivial ?_
  refine .cons _ rfl ?_ ?_
  · intro command member _
    rw [List.mem_singleton.mp member]
  refine .cons _ rfl trivial ?_
  refine .cons _ rfl trivial ?_
  refine .cons _ rfl (.inl rfl) ?_
  refine .cons _ rfl trivial ?_
  refine .cons _ rfl trivial ?_
  refine .cons _ rfl ?_ trivial
  rintro _ _ ⟨⟩
  exact .inl rfl

/-- A lagging provider still reports the track as paused one second after the
player started it. -/
def laggingPoll : PlaybackPoll where
  provider := cachedProvider
  playback :=
    { emptySample with item := some (MediaItem.stub cachedTrack.asUri) }
  revision := ⟨0, 1⟩
  sampledAtMs := 2000
  providerTimestampMs := none

/-- The clock keeps the player's word, and the poll it turned down is what
remains persisted. -/
theorem laggingPoll_remains_persisted :
    ∃ final row, (commitMachine id (fun _ ms => ms) "spotuify"
        cachedProvider).run (.unwritten readyToPlay)
          (startedAndCached ++
            [.beginPoll laggingPoll 0, .writePoll true, .applyPoll 0]) =
          some final ∧
      final.Quiet ∧ final.row = some row ∧
      row = laggingPoll.row laggingPoll.playback ∧
      row.isPlaying = false ∧ final.intent.clock.isPlaying = true := by
  exact ⟨_, _, rfl, ⟨rfl, rfl, rfl, rfl⟩, rfl, rfl, rfl, rfl⟩

end Spotuify
