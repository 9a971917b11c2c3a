import Spotuify.Playback
import Mathlib.Algebra.Ring.Int.Defs
import Mathlib.Algebra.Ring.Nat

/-!
# The playback clock

The daemon's in-memory answer to "what is playing, where, since when".  A
clock state holds a base progress and the monotonic instant it was taken at;
readers extrapolate from it.  Player events, command results, provider polls
and the durable cache re-seat it, each under the priority of its source.

Instants are nanoseconds of the monotonic clock and arguments of every
operation.  The content time that passes at a playback speed is computed in
floating point; it is a parameter of the clock, with nothing assumed.
-/

namespace Spotuify

/-- Drift before a position tick re-seats the clock. -/
def positionDriftThresholdMs : Int := 1500

/-- How long an empty poll must persist before it clears the clock. -/
def noActiveSessionConfirmMs : Int := 10000

/-- `i64::saturating_sub`. -/
def saturatingSub (first second : Int) : Int :=
  max (-(2 ^ 63)) (min (2 ^ 63 - 1) (first - second))

/-- `i64::saturating_add`. -/
def saturatingAddSigned (first second : Int) : Int :=
  max (-(2 ^ 63)) (min (2 ^ 63 - 1) (first + second))

/-- `u64::saturating_add`. -/
def saturatingAdd (first second : Nat) : Nat :=
  min (2 ^ 64 - 1) (first + second)

/-- `u64 as i64`. -/
def asSigned (value : Nat) : Int :=
  if value < 2 ^ 63 then value else value - 2 ^ 64

structure ClockState where
  item : Option MediaItem
  device : Option Device
  isPlaying : Bool
  baseProgressMs : Nat
  baseInstant : Nat
  providerTimestampMs : Option Int
  sampledAtMs : Int
  shuffle : Bool
  «repeat» : RepeatMode
  source : PlaybackStateSource
  firstEmptyWebApiPollMs : Option Int
  podcastSpeed : PlaybackSpeed
  playerTransition : Nat
  playerTransitionAtMs : Option Int
  deriving DecidableEq

/-- The revisions a poll captured when it started. -/
structure PlaybackPollRevision where
  mutationSeq : Nat
  playerTransition : Nat
  deriving DecidableEq, Repr

def sourcePriority : PlaybackStateSource → Nat
  | .playerEvent => 4
  | .commandResult => 3
  | .remotePoll => 2
  | .cache => 1
  | .recentFallback => 0

def matchesUri : Option MediaItem → Option MediaItem → Bool
  | some first, some second => first.uri == second.uri
  | none, none => true
  | _, _ => false

namespace Playback

/-- `playback_has_live_signal`. -/
def hasLiveSignal (playback : Playback) : Bool :=
  playback.item.isSome || playback.device.isSome || playback.isPlaying

end Playback

namespace ClockState

/-- `ClockState::empty`. -/
def empty (now : Nat) : ClockState where
  item := none
  device := none
  isPlaying := false
  baseProgressMs := 0
  baseInstant := now
  providerTimestampMs := none
  sampledAtMs := 0
  shuffle := false
  «repeat» := .off
  source := .recentFallback
  firstEmptyWebApiPollMs := none
  podcastSpeed := .normal
  playerTransition := 0
  playerTransitionAtMs := none

/-- `clock_state_has_live_signal`. -/
def hasLiveSignal (clock : ClockState) : Bool :=
  clock.isPlaying || clock.device.isSome ||
    (clock.item.isSome && clock.source != .recentFallback)

/-- Only episodes advance at the podcast speed. -/
def effectiveSpeed (clock : ClockState) : PlaybackSpeed :=
  let isEpisode := clock.item.any fun item =>
    item.kind == .episode ||
      match ResourceUri.parse item.uri with
      | .ok uri => uri.kind == .episode
      | .error _ => false
  if isEpisode then clock.podcastSpeed else .normal

def clampToDuration (clock : ClockState) (ms : Nat) : Nat :=
  match clock.item with
  | some item => if item.durationMs > 0 then min ms item.durationMs else ms
  | none => ms

/-- `poll_precedes_player_transition`. -/
def pollPrecedesPlayerTransition (clock : ClockState)
    (playback : Playback) : Bool :=
  !matchesUri clock.item playback.item &&
    match playback.providerTimestampMs, clock.playerTransitionAtMs with
    | some remote, some transition => decide (remote < transition)
    | _, _ => false

/-- `seed_from_cache`. -/
def seedFromCache (clock : ClockState) (playback : Playback)
    (source : PlaybackStateSource) (sampledAtMs : Int) (now : Nat) :
    ClockState :=
  { clock with
    item := playback.item,
    device := playback.device,
    isPlaying := playback.isPlaying,
    baseProgressMs := playback.progressMs,
    baseInstant := now,
    shuffle := playback.shuffle,
    «repeat» := playback.repeat,
    providerTimestampMs := playback.providerTimestampMs,
    sampledAtMs := sampledAtMs,
    source := source,
    firstEmptyWebApiPollMs := none }

/-- `enrich_current_item`. -/
def enrichCurrentItem (clock : ClockState) (item : MediaItem) : ClockState :=
  match clock.item with
  | none => clock
  | some current =>
    if current.uri ≠ item.uri then
      clock
    else
      let merged := current.mergeMissingMetadata item
      { clock with
        item := some merged.1,
        firstEmptyWebApiPollMs :=
          if merged.2 then none else clock.firstEmptyWebApiPollMs }

/-- `apply_device_volume`. -/
def applyDeviceVolume (clock : ClockState) (percent : Nat)
    (seed : Option Device) (nowMs : Int) : ClockState :=
  { clock with
    device :=
      match clock.device with
      | some device => some { device with volumePercent := some percent }
      | none => seed,
    sampledAtMs := nowMs,
    firstEmptyWebApiPollMs := none }

/-- `apply_command_result`: a player event that owns the same track keeps its
play state, progress, source and sample time. -/
def applyCommandResult (clock : ClockState) (playback : Playback)
    (sampledAtMs : Int) (now : Nat) : ClockState :=
  let playerEventOwnsTrack :=
    matchesUri clock.item playback.item && clock.source == .playerEvent
  let adopted :=
    { clock with
      item := playback.item,
      device := playback.device,
      shuffle := playback.shuffle,
      «repeat» := playback.repeat,
      firstEmptyWebApiPollMs := none }
  if playerEventOwnsTrack then
    adopted
  else
    { adopted with
      isPlaying := playback.isPlaying,
      baseProgressMs := playback.progressMs,
      baseInstant := now,
      source := .commandResult,
      sampledAtMs := sampledAtMs }

/-- `apply_seek`. -/
def applySeek (clock : ClockState) (positionMs : Nat) (sampledAtMs : Int)
    (now : Nat) : ClockState :=
  { clock with
    baseProgressMs := clock.clampToDuration positionMs,
    baseInstant := now,
    source := .commandResult,
    sampledAtMs := sampledAtMs,
    firstEmptyWebApiPollMs := none }

section

variable (stretch : PlaybackSpeed → Nat → Nat)

/-- `current_progress_ms`. -/
def currentProgressMs (clock : ClockState) (now : Nat) : Nat :=
  if !clock.isPlaying then
    clock.clampToDuration clock.baseProgressMs
  else
    let elapsedMs := (now - clock.baseInstant) / 1000000
    clock.clampToDuration
      (saturatingAdd clock.baseProgressMs
        (stretch clock.effectiveSpeed elapsedMs))

/-- `snapshot`. -/
def snapshot (clock : ClockState) (now : Nat) : Playback where
  item := clock.item
  device := clock.device
  isPlaying := clock.isPlaying
  progressMs := clock.currentProgressMs stretch now
  shuffle := clock.shuffle
  «repeat» := clock.repeat
  sampledAtMs := some clock.sampledAtMs
  providerTimestampMs := clock.providerTimestampMs
  source := some clock.source
  playbackSpeed := some clock.effectiveSpeed

/-- `set_podcast_speed`. -/
def setPodcastSpeed (clock : ClockState) (speed : PlaybackSpeed)
    (now : Nat) : ClockState :=
  { clock with
    baseProgressMs := clock.currentProgressMs stretch now,
    baseInstant := now,
    podcastSpeed := speed }

/-- Freeze progress and stop playing on the player's word. -/
def freeze (clock : ClockState) (nowMs : Int) (now : Nat) : ClockState :=
  { clock with
    baseProgressMs := clock.currentProgressMs stretch now,
    baseInstant := now,
    isPlaying := false,
    source := .playerEvent,
    sampledAtMs := nowMs,
    firstEmptyWebApiPollMs := none }

/-- `mark_audio_stalled`. -/
def markAudioStalled (clock : ClockState) (nowMs : Int) (now : Nat) :
    ClockState × Bool :=
  if !clock.isPlaying then (clock, false)
  else (clock.freeze stretch nowMs now, true)

/-- `apply_player_event`, without the host-activity callback. -/
def applyPlayerEvent (clock : ClockState) (event : PlayerEvent)
    (nowMs : Int) (now : Nat) : ClockState :=
  let clock :=
    if event.isPlaybackTransition then
      { clock with
        playerTransition := (clock.playerTransition + 1) % 2 ^ 64,
        playerTransitionAtMs := some nowMs }
    else
      clock
  match event with
  | .playbackStarted uri positionMs | .trackChanged uri positionMs =>
    { clock with
      item :=
        if clock.item.map MediaItem.uri = some uri.asUri then clock.item
        else some (MediaItem.stub uri.asUri),
      baseProgressMs := positionMs,
      baseInstant := now,
      isPlaying := true,
      source := .playerEvent,
      sampledAtMs := nowMs,
      firstEmptyWebApiPollMs := none }
  | .playbackPaused | .deactivated => clock.freeze stretch nowMs now
  | .playbackResumed =>
    { clock with
      baseInstant := now,
      isPlaying := true,
      source := .playerEvent,
      sampledAtMs := nowMs,
      firstEmptyWebApiPollMs := none }
  | .positionTick positionMs =>
    let clock := { clock with firstEmptyWebApiPollMs := none }
    let extrapolated := asSigned (clock.currentProgressMs stretch now)
    if (extrapolated - positionMs).natAbs > positionDriftThresholdMs then
      { clock with
        baseProgressMs := positionMs,
        baseInstant := now,
        source := .playerEvent,
        sampledAtMs := nowMs }
    else
      clock
  | .endOfTrack _ =>
    { clock with
      baseProgressMs :=
        match clock.item with
        | some item =>
          if item.durationMs > 0 then item.durationMs
          else clock.baseProgressMs
        | none => clock.baseProgressMs,
      baseInstant := now,
      isPlaying := false,
      source := .playerEvent,
      sampledAtMs := nowMs,
      firstEmptyWebApiPollMs := none }
  | _ => clock

/-- `apply_empty_web_api_poll`. -/
def applyEmptyWebApiPoll (clock : ClockState) (sampledAtMs : Int)
    (providerTimestampMs : Option Int) (now : Nat) : ClockState × Bool :=
  if !clock.hasLiveSignal then
    ({ clock with
        firstEmptyWebApiPollMs := none,
        providerTimestampMs := providerTimestampMs }, false)
  else
    match clock.firstEmptyWebApiPollMs with
    | none =>
      ({ clock with firstEmptyWebApiPollMs := some sampledAtMs }, false)
    | some firstEmptyMs =>
      if saturatingSub sampledAtMs firstEmptyMs <
          noActiveSessionConfirmMs then
        (clock, false)
      else
        let frozen := clock.currentProgressMs stretch now
        ({ clock with
            device := none,
            isPlaying := false,
            baseProgressMs := if clock.item.isSome then frozen else 0,
            baseInstant := now,
            -- Without an item the mode is reset as well.
            shuffle := if clock.item.isNone then false else clock.shuffle,
            «repeat» := if clock.item.isNone then .off else clock.repeat,
            providerTimestampMs := providerTimestampMs,
            source :=
              if clock.item.isSome then .recentFallback else .remotePoll,
            sampledAtMs := sampledAtMs,
            firstEmptyWebApiPollMs := none }, clock.hasLiveSignal)

/-- `apply_web_api_poll`; `onCurrent` is the answer of the host-activity
callback. -/
def applyWebApiPoll (clock : ClockState) (playback : Playback)
    (revision : PlaybackPollRevision) (stateSeq : Nat) (sampledAtMs : Int)
    (providerTimestampMs : Option Int) (onCurrent : Bool) (now : Nat) :
    ClockState × Bool :=
  if revision.mutationSeq ≠ stateSeq then
    (clock, false)
  else if revision.playerTransition ≠ clock.playerTransition ∨
      onCurrent = false then
    (clock, false)
  else if !playback.hasLiveSignal then
    clock.applyEmptyWebApiPoll stretch sampledAtMs providerTimestampMs now
  else
    let beatsPriority :=
      sourcePriority .remotePoll > sourcePriority clock.source
    let olderThanThreshold :=
      sampledAtMs - clock.sampledAtMs > positionDriftThresholdMs
    if matchesUri clock.item playback.item = true ∧
        ¬(beatsPriority ∨ olderThanThreshold) then
      -- The sample only adds metadata; the extrapolation stays.
      let merged :=
        match clock.item, playback.item with
        | some current, some item =>
          let filled := current.mergeMissingMetadata item
          (some filled.1, filled.2)
        | current, _ => (current, false)
      ({ clock with
          item := merged.1,
          firstEmptyWebApiPollMs := none,
          providerTimestampMs := providerTimestampMs }, merged.2)
    else
      ({ clock with
          item := playback.item,
          device := playback.device,
          isPlaying := playback.isPlaying,
          baseProgressMs := playback.progressMs,
          baseInstant := now,
          shuffle := playback.shuffle,
          «repeat» := playback.repeat,
          providerTimestampMs := providerTimestampMs,
          source := .remotePoll,
          sampledAtMs := sampledAtMs,
          firstEmptyWebApiPollMs := none }, true)

/-- `prepare_web_api_poll`: the durable candidate of a poll.  An empty poll
only advances the confirmation marker. -/
def prepareWebApiPoll (clock : ClockState) (playback : Playback)
    (sampledAtMs : Int) (providerTimestampMs : Option Int) (now : Nat) :
    ClockState × Option Playback :=
  if playback.hasLiveSignal then
    (clock, some playback)
  else if !clock.hasLiveSignal then
    ({ clock with firstEmptyWebApiPollMs := none }, none)
  else
    match clock.firstEmptyWebApiPollMs with
    | none =>
      ({ clock with firstEmptyWebApiPollMs := some sampledAtMs }, none)
    | some firstEmptyMs =>
      if saturatingSub sampledAtMs firstEmptyMs <
          noActiveSessionConfirmMs then
        (clock, none)
      else
        let frozen := clock.currentProgressMs stretch now
        (clock, some
          { item := clock.item,
            device := none,
            isPlaying := false,
            progressMs := if clock.item.isSome then frozen else 0,
            shuffle := clock.shuffle,
            «repeat» := clock.repeat,
            sampledAtMs := some sampledAtMs,
            providerTimestampMs := providerTimestampMs,
            source :=
              some (if clock.item.isSome then .recentFallback
                else .remotePoll),
            playbackSpeed := some clock.effectiveSpeed })

end

end ClockState

end Spotuify
