import Spotuify.BinaryFloats
import Spotuify.EmptyPolls
import Spotuify.GuardedMachine

/-!
# Histories of the playback clock

Everything that can be applied to the clock, as inputs at an instant of the
monotonic clock, and the runs they make up.  Content time passes at the
playback speed in the floating-point arithmetic of the source.
-/

namespace Spotuify

/-- `PlaybackSpeed::as_f32`, widened. -/
def PlaybackSpeed.asF64 (speed : PlaybackSpeed) : BinaryFloat .double :=
  (BinaryFloat.ofRatio .single speed.hundredths 100).convert .double

/-- The content time that passes in a span of real time. -/
def contentMs (speed : PlaybackSpeed) (elapsedMs : Nat) : Nat :=
  ((BinaryFloat.ofRatio .double elapsedMs 1).mul speed.asF64).toUnsigned 64

@[simp]
theorem contentMs_zero (speed : PlaybackSpeed) : contentMs speed 0 = 0 := by
  have zero : BinaryFloat.ofRatio .double ((0 : Nat) : Int) 1 =
      .finite ⟨false, 0, Nat.dvd_zero _, Nat.two_pow_pos _⟩ := by
    simp only [BinaryFloat.ofRatio, Int.natCast_zero, Int.natAbs_zero,
      Nat.zero_mul, BinaryFloat.ofQuotient_zero]
    rfl
  rw [contentMs, zero]
  exact BinaryFloat.toUnsigned_mul_zero 64 _ rfl _

inductive ClockInput where
  | seedFromCache (playback : Playback) (source : PlaybackStateSource)
      (sampledAtMs : Int)
  | playerEvent (event : PlayerEvent) (nowMs : Int)
  | markAudioStalled (nowMs : Int)
  | setPodcastSpeed (speed : PlaybackSpeed)
  | enrichCurrentItem (item : MediaItem)
  | applyDeviceVolume (percent : Nat) (seed : Option Device) (nowMs : Int)
  | commandResult (playback : Playback) (sampledAtMs : Int)
  | seek (positionMs : Nat) (sampledAtMs : Int)
  | prepareWebApiPoll (playback : Playback) (sampledAtMs : Int)
      (providerTimestampMs : Option Int)
  | webApiPoll (playback : Playback) (revision : PlaybackPollRevision)
      (stateSeq : Nat) (sampledAtMs : Int) (providerTimestampMs : Option Int)
      (onCurrent : Bool)

/-- The clock after one input at the instant `now`. -/
def ClockInput.apply (input : ClockInput) (clock : ClockState) (now : Nat) :
    ClockState :=
  match input with
  | .seedFromCache playback source sampledAtMs =>
    clock.seedFromCache playback source sampledAtMs now
  | .playerEvent event nowMs =>
    clock.applyPlayerEvent contentMs event nowMs now
  | .markAudioStalled nowMs => (clock.markAudioStalled contentMs nowMs now).1
  | .setPodcastSpeed speed => clock.setPodcastSpeed contentMs speed now
  | .enrichCurrentItem item => clock.enrichCurrentItem item
  | .applyDeviceVolume percent seed nowMs =>
    clock.applyDeviceVolume percent seed nowMs
  | .commandResult playback sampledAtMs =>
    clock.applyCommandResult playback sampledAtMs now
  | .seek positionMs sampledAtMs => clock.applySeek positionMs sampledAtMs now
  | .prepareWebApiPoll playback sampledAtMs providerTimestampMs =>
    (clock.prepareWebApiPoll contentMs playback sampledAtMs
      providerTimestampMs now).1
  | .webApiPoll playback revision stateSeq sampledAtMs providerTimestampMs
      onCurrent =>
    (clock.applyWebApiPoll contentMs playback revision stateSeq sampledAtMs
      providerTimestampMs onCurrent now).1

/-- An input and the instant it is applied at. -/
structure ClockAction where
  input : ClockInput
  now : Nat

/-- The clock takes every input. -/
def playbackClock : GuardedMachine ClockState ClockAction where
  step clock action := some (action.input.apply clock action.now)

@[simp]
theorem playbackClock_step (clock : ClockState) (action : ClockAction) :
    playbackClock.step clock action =
      some (action.input.apply clock action.now) := rfl

namespace ClockState

variable (clock : ClockState)

/-- A poll for which the clock keeps its own extrapolation: it is current, has
a live signal and is for the same item, but does not beat the source of the
clock and is not sampled long enough after it. -/
def RejectsForPriority (playback : Playback) (revision : PlaybackPollRevision)
    (stateSeq : Nat) (sampledAtMs : Int) (onCurrent : Bool) : Prop :=
  revision.mutationSeq = stateSeq ∧
    revision.playerTransition = clock.playerTransition ∧ onCurrent = true ∧
    playback.hasLiveSignal = true ∧
    matchesUri clock.item playback.item = true ∧
    sourcePriority .remotePoll ≤ sourcePriority clock.source ∧
    sampledAtMs - clock.sampledAtMs ≤ positionDriftThresholdMs

/-- The duration of the current item, zero if it is not known. -/
def knownDurationMs : Nat :=
  match clock.item with
  | some item => item.durationMs
  | none => 0

/-- The clock after a poll it rejects for priority: missing metadata of the
item is filled in. -/
theorem applyWebApiPoll_of_rejectsForPriority
    {stretch : PlaybackSpeed → Nat → Nat} {clock : ClockState}
    {playback : Playback} {revision : PlaybackPollRevision} {stateSeq : Nat}
    {sampledAtMs : Int} {onCurrent : Bool}
    (rejects : clock.RejectsForPriority playback revision stateSeq sampledAtMs
      onCurrent) (providerTimestampMs : Option Int) (now : Nat) :
    (clock.applyWebApiPoll stretch playback revision stateSeq sampledAtMs
      providerTimestampMs onCurrent now).1 =
      { clock with
        item :=
          match clock.item, playback.item with
          | some current, some item =>
            some (current.mergeMissingMetadata item).1
          | current, _ => current
        firstEmptyWebApiPollMs := none
        providerTimestampMs := providerTimestampMs } := by
  obtain ⟨sameSeq, sameTransition, current, live, sameUri, weaker, recent⟩ :=
    rejects
  have notStronger :
      ¬sourcePriority .remotePoll > sourcePriority clock.source := by omega
  have notOlder : ¬sampledAtMs - clock.sampledAtMs >
      positionDriftThresholdMs := by omega
  unfold applyWebApiPoll
  simp only [sameSeq, sameTransition, current, live, sameUri, notStronger,
    notOlder, ne_eq, not_true_eq_false, Bool.true_eq_false, or_self,
    Bool.not_true, Bool.false_eq_true, if_false, not_false_eq_true, and_self,
    if_true]
  congr 1
  cases clock.item with
  | none => rfl
  | some current =>
    cases playback.item with
    | none => rfl
    | some item => rfl

theorem clampToDuration_eq (ms : Nat) :
    clock.clampToDuration ms =
      if clock.knownDurationMs > 0 then min ms clock.knownDurationMs
      else ms := by
  unfold clampToDuration knownDurationMs
  cases clock.item with
  | none => rfl
  | some item => rfl

/-- A clock that plays shows its base and the content time since. -/
theorem currentProgressMs_of_playing {stretch : PlaybackSpeed → Nat → Nat}
    {clock : ClockState} (playing : clock.isPlaying = true) (now : Nat) :
    clock.currentProgressMs stretch now =
      clock.clampToDuration (saturatingAdd clock.baseProgressMs
        (stretch clock.effectiveSpeed
          ((now - clock.baseInstant) / 1000000))) := by
  simp [currentProgressMs, playing]

theorem currentProgressMs_of_paused {stretch : PlaybackSpeed → Nat → Nat}
    {clock : ClockState} (paused : clock.isPlaying = false) (now : Nat) :
    clock.currentProgressMs stretch now =
      clock.clampToDuration clock.baseProgressMs := by
  simp [currentProgressMs, paused]

end ClockState

namespace MediaItem

/-- Filling in metadata keeps the kind. -/
@[simp]
theorem mergeMissingMetadata_kind (target source : MediaItem) :
    (target.mergeMissingMetadata source).1.kind = target.kind := by
  unfold mergeMissingMetadata
  split <;> rfl

/-- Only an unknown duration is filled in. -/
theorem mergeMissingMetadata_durationMs (target source : MediaItem) :
    (target.mergeMissingMetadata source).1.durationMs = target.durationMs ∨
      target.durationMs = 0 := by
  unfold mergeMissingMetadata
  split
  · exact .inl rfl
  · by_cases unknown : target.durationMs = 0
    · exact .inr unknown
    · refine .inl ?_
      simp [fillMissing, unknown]

end MediaItem

end Spotuify
