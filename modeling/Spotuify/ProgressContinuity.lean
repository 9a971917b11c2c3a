import Spotuify.ClockInputs

/-!
# Inputs that carry no position

Pauses, stalls, a new podcast speed, metadata and volume say nothing about the
position, so the progress shown must be the same right before and right after
them.  Every one of them folds the elapsed content time into the base before
it moves what the extrapolation depends on, except a resume, which moves the
instant of the base alone.
-/

namespace Spotuify

namespace ClockInput

/-- The inputs that say nothing about the position. -/
def CarriesNoPosition (clock : ClockState) : ClockInput → Prop
  | .playerEvent event _ =>
    event = .playbackPaused ∨ event = .playbackResumed ∨ event = .deactivated
  | .markAudioStalled _ | .setPodcastSpeed _ | .enrichCurrentItem _
  | .applyDeviceVolume _ _ _ => True
  | .webApiPoll playback revision stateSeq sampledAtMs _ onCurrent =>
    clock.RejectsForPriority playback revision stateSeq sampledAtMs onCurrent
  | _ => False

/-- The progress shown right after an input is the one shown right before it,
clamped if the input brought another duration. -/
def KeepsProgress (input : ClockInput) (clock : ClockState) (now : Nat) :
    Prop :=
  let after := input.apply clock now
  (after.snapshot contentMs now).progressMs =
    if after.knownDurationMs = clock.knownDurationMs then
      (clock.snapshot contentMs now).progressMs
    else after.clampToDuration (clock.snapshot contentMs now).progressMs

/-- A resume reaches a clock that is already playing and has content time to
lose: some has passed since the base, which is not yet at its bound. -/
def ResumesAdvanced (input : ClockInput) (clock : ClockState) (now : Nat) :
    Prop :=
  (∃ nowMs, input = .playerEvent .playbackResumed nowMs) ∧
    clock.isPlaying = true ∧
    0 < contentMs clock.effectiveSpeed
      ((now - clock.baseInstant) / 1000000) ∧
    clock.baseProgressMs < 2 ^ 64 - 1 ∧
    (clock.knownDurationMs = 0 ∨ clock.baseProgressMs < clock.knownDurationMs)

end ClockInput

def MediaItem.Representable (item : MediaItem) : Prop :=
  item.durationMs < 2 ^ 64

structure Playback.Representable (playback : Playback) : Prop where
  progressMs : playback.progressMs < 2 ^ 64
  item : ∀ item, playback.item = some item → item.Representable

/-- The positions and durations of an input are 64-bit numbers. -/
def ClockInput.Representable : ClockInput → Prop
  | .seedFromCache playback _ _ | .commandResult playback _
  | .prepareWebApiPoll playback _ _ | .webApiPoll playback _ _ _ _ _ =>
    playback.Representable
  | .playerEvent event _ =>
    match event with
    | .playbackStarted _ positionMs | .trackChanged _ positionMs
    | .positionTick positionMs => positionMs < 2 ^ 64
    | _ => True
  | .enrichCurrentItem item => item.Representable
  | .seek positionMs _ => positionMs < 2 ^ 64
  | .markAudioStalled _ | .setPodcastSpeed _ | .applyDeviceVolume _ _ _ => True

structure ClockState.Representable (clock : ClockState) : Prop where
  baseProgressMs : clock.baseProgressMs < 2 ^ 64
  item : ∀ item, clock.item = some item → item.Representable

namespace ClockState

variable {clock after : ClockState} {now : Nat}
  {stretch : PlaybackSpeed → Nat → Nat}

theorem clampToDuration_le (clock : ClockState) (ms : Nat) :
    clock.clampToDuration ms ≤ ms := by
  rw [clampToDuration_eq]
  split <;> omega

theorem Representable.currentProgressMs_lt (representable : clock.Representable)
    (now : Nat) : clock.currentProgressMs stretch now < 2 ^ 64 := by
  cases playing : clock.isPlaying with
  | false =>
    have bound := clock.clampToDuration_le clock.baseProgressMs
    have base := representable.baseProgressMs
    rw [currentProgressMs_of_paused playing]
    omega
  | true =>
    rw [currentProgressMs_of_playing playing]
    have bound := clock.clampToDuration_le (saturatingAdd clock.baseProgressMs
      (stretch clock.effectiveSpeed ((now - clock.baseInstant) / 1000000)))
    simp only [saturatingAdd] at bound ⊢
    omega

/-- Filling in metadata takes one of the two durations. -/
theorem representable_mergeMissingMetadata {target source : MediaItem}
    (targetRepresentable : target.Representable)
    (sourceRepresentable : source.Representable) :
    (target.mergeMissingMetadata source).1.Representable := by
  unfold MediaItem.Representable MediaItem.mergeMissingMetadata at *
  split
  · exact targetRepresentable
  · simp only [fillMissing]
    split
    · exact sourceRepresentable
    · exact targetRepresentable

theorem representable_empty (now : Nat) : (empty now).Representable where
  baseProgressMs := by simp [empty]
  item := by
    intro item isItem
    cases isItem

theorem Representable.freeze (representable : clock.Representable)
    (nowMs : Int) : (clock.freeze stretch nowMs now).Representable where
  baseProgressMs := representable.currentProgressMs_lt now
  item := representable.item

theorem Representable.applyPlayerEvent (representable : clock.Representable)
    {event : PlayerEvent} {nowMs : Int}
    (eventRepresentable : (ClockInput.playerEvent event nowMs).Representable) :
    (clock.applyPlayerEvent stretch event nowMs now).Representable := by
  have startedItem : ∀ uri : ResourceUri, ∀ item,
      (if clock.item.map MediaItem.uri = some uri.asUri then clock.item
        else some (MediaItem.stub uri.asUri)) = some item →
          item.Representable := by
    intro uri item isItem
    split at isItem
    · exact representable.item item isItem
    · cases isItem
      simp [MediaItem.Representable, MediaItem.stub]
  cases event with
  | playbackStarted uri positionMs =>
    exact ⟨eventRepresentable, startedItem uri⟩
  | trackChanged uri positionMs => exact ⟨eventRepresentable, startedItem uri⟩
  | playbackPaused =>
    exact ⟨representable.currentProgressMs_lt now, representable.item⟩
  | deactivated =>
    exact ⟨representable.currentProgressMs_lt now, representable.item⟩
  | positionTick positionMs =>
    simp only [ClockState.applyPlayerEvent, PlayerEvent.isPlaybackTransition,
      Bool.false_eq_true, if_false]
    split
    · exact ⟨eventRepresentable, representable.item⟩
    · exact ⟨representable.baseProgressMs, representable.item⟩
  | endOfTrack uri =>
    refine ⟨?_, representable.item⟩
    have base := representable.baseProgressMs
    simp only [ClockState.applyPlayerEvent, PlayerEvent.isPlaybackTransition,
      if_true]
    cases isItem : clock.item with
    | none => exact base
    | some item =>
      have duration := representable.item item isItem
      unfold MediaItem.Representable at duration
      dsimp only
      split <;> omega
  | _ => exact ⟨representable.baseProgressMs, representable.item⟩

theorem Representable.applyEmptyWebApiPoll
    (representable : clock.Representable) (sampledAtMs : Int)
    (providerTimestampMs : Option Int) :
    (clock.applyEmptyWebApiPoll stretch sampledAtMs providerTimestampMs
      now).1.Representable := by
  have base := representable.baseProgressMs
  have progress := @representable.currentProgressMs_lt _ stretch now
  unfold ClockState.applyEmptyWebApiPoll
  split
  · exact ⟨base, representable.item⟩
  · split
    · exact ⟨base, representable.item⟩
    · split
      · exact ⟨base, representable.item⟩
      · refine ⟨?_, representable.item⟩
        dsimp only
        split <;> omega

theorem Representable.applyWebApiPoll (representable : clock.Representable)
    {playback : Playback} (sample : playback.Representable)
    (revision : PlaybackPollRevision) (stateSeq : Nat) (sampledAtMs : Int)
    (providerTimestampMs : Option Int) (onCurrent : Bool) :
    (clock.applyWebApiPoll stretch playback revision stateSeq sampledAtMs
      providerTimestampMs onCurrent now).1.Representable := by
  unfold ClockState.applyWebApiPoll
  split
  · exact representable
  split
  · exact representable
  split
  · exact representable.applyEmptyWebApiPoll sampledAtMs providerTimestampMs
  dsimp only
  split
  · refine ⟨representable.baseProgressMs, ?_⟩
    intro item isItem
    cases current : clock.item with
    | none =>
      simp [current] at isItem
    | some current' =>
      cases polled : playback.item with
      | none =>
        simp only [current, polled, Option.some.injEq] at isItem
        exact isItem ▸ representable.item current' current
      | some polled' =>
        simp only [current, polled, Option.some.injEq] at isItem
        exact isItem ▸ representable_mergeMissingMetadata
          (representable.item current' current) (sample.item polled' polled)
  · exact ⟨sample.progressMs, sample.item⟩

theorem Representable.apply (representable : clock.Representable)
    {input : ClockInput} (inputRepresentable : input.Representable)
    (now : Nat) : (input.apply clock now).Representable := by
  cases input with
  | seedFromCache playback source sampledAtMs =>
    exact ⟨inputRepresentable.progressMs, inputRepresentable.item⟩
  | playerEvent event nowMs =>
    exact representable.applyPlayerEvent inputRepresentable
  | markAudioStalled nowMs =>
    simp only [ClockInput.apply, markAudioStalled]
    split
    · exact representable
    · exact representable.freeze nowMs
  | setPodcastSpeed speed =>
    exact ⟨representable.currentProgressMs_lt now, representable.item⟩
  | enrichCurrentItem item =>
    simp only [ClockInput.apply, enrichCurrentItem]
    split
    · exact representable
    · next current isCurrent =>
      split
      · exact representable
      · refine ⟨representable.baseProgressMs, ?_⟩
        intro merged isMerged
        cases isMerged
        exact representable_mergeMissingMetadata
          (representable.item current isCurrent) inputRepresentable
  | applyDeviceVolume percent seed nowMs =>
    exact ⟨representable.baseProgressMs, representable.item⟩
  | commandResult playback sampledAtMs =>
    simp only [ClockInput.apply, applyCommandResult]
    split
    · exact ⟨representable.baseProgressMs, inputRepresentable.item⟩
    · exact ⟨inputRepresentable.progressMs, inputRepresentable.item⟩
  | seek positionMs sampledAtMs =>
    have bound := clock.clampToDuration_le positionMs
    have position : positionMs < 2 ^ 64 := inputRepresentable
    exact ⟨bound.trans_lt position, representable.item⟩
  | prepareWebApiPoll playback sampledAtMs providerTimestampMs =>
    have base := representable.baseProgressMs
    simp only [ClockInput.apply, prepareWebApiPoll]
    split
    · exact representable
    split
    · exact ⟨base, representable.item⟩
    split
    · exact ⟨base, representable.item⟩
    split <;> exact representable
  | webApiPoll playback revision stateSeq sampledAtMs providerTimestampMs
      onCurrent =>
    exact representable.applyWebApiPoll inputRepresentable revision stateSeq
      sampledAtMs providerTimestampMs onCurrent

end ClockState

namespace ClockState

variable {clock after : ClockState} {now : Nat}

/-- The progress of `after` continues the progress of `clock`. -/
def ContinuedBy (clock after : ClockState) (now : Nat) : Prop :=
  after.currentProgressMs contentMs now =
    if after.knownDurationMs = clock.knownDurationMs then
      clock.currentProgressMs contentMs now
    else after.clampToDuration (clock.currentProgressMs contentMs now)

theorem continuedBy_of_eq (sameItem : after.item = clock.item)
    (sameProgress : after.currentProgressMs contentMs now =
      clock.currentProgressMs contentMs now) :
    clock.ContinuedBy after now := by
  have sameDuration : after.knownDurationMs = clock.knownDurationMs := by
    rw [knownDurationMs, knownDurationMs, sameItem]
  rw [ContinuedBy, if_pos sameDuration]
  exact sameProgress

theorem clampToDuration_congr (sameItem : after.item = clock.item) (ms : Nat) :
    after.clampToDuration ms = clock.clampToDuration ms := by
  rw [clampToDuration, clampToDuration, sameItem]

/-- A base that was just taken is what the clock shows, playing or not. -/
theorem currentProgressMs_of_fresh (fresh : after.baseInstant = now)
    (bounded : after.baseProgressMs < 2 ^ 64) :
    after.currentProgressMs contentMs now =
      after.clampToDuration after.baseProgressMs := by
  cases playing : after.isPlaying with
  | false => exact currentProgressMs_of_paused playing now
  | true =>
    have unchanged : saturatingAdd after.baseProgressMs 0 =
        after.baseProgressMs := by
      simp only [saturatingAdd]
      omega
    rw [currentProgressMs_of_playing playing, fresh, Nat.sub_self,
      Nat.zero_div, contentMs_zero, unchanged]

/-- Folding the elapsed time into a fresh base shows the same progress. -/
theorem continuedBy_of_folded (representable : clock.Representable)
    (sameItem : after.item = clock.item)
    (folded : after.baseProgressMs = clock.currentProgressMs contentMs now)
    (fresh : after.baseInstant = now) : clock.ContinuedBy after now := by
  have bounded : after.baseProgressMs < 2 ^ 64 := by
    rw [folded]
    exact representable.currentProgressMs_lt now
  apply continuedBy_of_eq sameItem
  rw [currentProgressMs_of_fresh fresh bounded, folded,
    clampToDuration_congr sameItem,
    clock.clampToDuration_currentProgressMs now]

/-- The extrapolation depends on nothing but the item, the flag, the base and
the speed. -/
theorem continuedBy_of_sameBase (sameItem : after.item = clock.item)
    (samePlaying : after.isPlaying = clock.isPlaying)
    (sameBase : after.baseProgressMs = clock.baseProgressMs)
    (sameInstant : after.baseInstant = clock.baseInstant)
    (sameSpeed : after.podcastSpeed = clock.podcastSpeed) :
    clock.ContinuedBy after now := by
  apply continuedBy_of_eq sameItem
  simp only [currentProgressMs, effectiveSpeed, clampToDuration, sameItem,
    samePlaying, sameBase, sameInstant, sameSpeed]

/-- Metadata may tell the duration, and then the progress is clamped to it. -/
theorem continuedBy_of_merged {current item : MediaItem}
    (isCurrent : clock.item = some current)
    (isMerged : after.item = some (current.mergeMissingMetadata item).1)
    (samePlaying : after.isPlaying = clock.isPlaying)
    (sameBase : after.baseProgressMs = clock.baseProgressMs)
    (sameInstant : after.baseInstant = clock.baseInstant)
    (sameSpeed : after.podcastSpeed = clock.podcastSpeed) :
    clock.ContinuedBy after now := by
  have speed : after.effectiveSpeed = clock.effectiveSpeed := by
    simp only [effectiveSpeed, isCurrent, isMerged, sameSpeed, Option.any_some,
      MediaItem.mergeMissingMetadata_kind, MediaItem.mergeMissingMetadata_uri]
  -- Both clocks clamp the same extrapolation.
  obtain ⟨extrapolated, before, afterwards⟩ : ∃ extrapolated,
      clock.currentProgressMs contentMs now =
        clock.clampToDuration extrapolated ∧
      after.currentProgressMs contentMs now =
        after.clampToDuration extrapolated := by
    cases playing : clock.isPlaying with
    | false =>
      rw [playing] at samePlaying
      refine ⟨clock.baseProgressMs, currentProgressMs_of_paused playing now, ?_⟩
      rw [currentProgressMs_of_paused samePlaying, sameBase]
    | true =>
      rw [playing] at samePlaying
      refine ⟨_, currentProgressMs_of_playing playing now, ?_⟩
      rw [currentProgressMs_of_playing samePlaying, sameBase, sameInstant,
        speed]
  rw [ContinuedBy, before, afterwards]
  have duration : after.knownDurationMs = clock.knownDurationMs ∨
      clock.knownDurationMs = 0 := by
    simp only [knownDurationMs, isCurrent, isMerged]
    exact current.mergeMissingMetadata_durationMs item
  split
  · next same => simp only [clampToDuration_eq, same]
  · next differs =>
    have unknown : clock.knownDurationMs = 0 := by
      rcases duration with same | unknown
      · exact absurd same differs
      · exact unknown
    have unclamped : clock.clampToDuration extrapolated = extrapolated := by
      simp [clampToDuration_eq, unknown]
    rw [unclamped]

/-- The item as a rejected poll leaves it. -/
theorem continuedBy_of_poll (polled : Option MediaItem)
    (isMerged : after.item =
      match clock.item, polled with
      | some current, some item => some (current.mergeMissingMetadata item).1
      | current, _ => current)
    (samePlaying : after.isPlaying = clock.isPlaying)
    (sameBase : after.baseProgressMs = clock.baseProgressMs)
    (sameInstant : after.baseInstant = clock.baseInstant)
    (sameSpeed : after.podcastSpeed = clock.podcastSpeed) :
    clock.ContinuedBy after now := by
  cases isCurrent : clock.item with
  | none =>
    rw [isCurrent] at isMerged
    exact continuedBy_of_sameBase (isMerged.trans isCurrent.symm) samePlaying
      sameBase sameInstant sameSpeed
  | some current =>
    rw [isCurrent] at isMerged
    cases polled with
    | none =>
      exact continuedBy_of_sameBase (isMerged.trans isCurrent.symm) samePlaying
        sameBase sameInstant sameSpeed
    | some item =>
      exact continuedBy_of_merged isCurrent isMerged samePlaying sameBase
        sameInstant sameSpeed

/-- What a resume leaves of the progress. -/
theorem resumed_continues_iff (representable : clock.Representable)
    (nowMs : Int) :
    clock.ContinuedBy
        (clock.applyPlayerEvent contentMs .playbackResumed nowMs now) now ↔
      ¬ClockInput.ResumesAdvanced (.playerEvent .playbackResumed nowMs) clock
        now := by
  have base := representable.baseProgressMs
  have resumed : (clock.applyPlayerEvent contentMs .playbackResumed nowMs
      now).currentProgressMs contentMs now =
        clock.clampToDuration clock.baseProgressMs :=
    currentProgressMs_of_fresh rfl base
  have sameDuration : (clock.applyPlayerEvent contentMs .playbackResumed nowMs
      now).knownDurationMs = clock.knownDurationMs := rfl
  rw [ContinuedBy, resumed, if_pos sameDuration]
  cases playing : clock.isPlaying with
  | false =>
    rw [currentProgressMs_of_paused playing]
    simp [ClockInput.ResumesAdvanced, playing]
  | true =>
    rw [currentProgressMs_of_playing playing]
    simp only [ClockInput.ResumesAdvanced, playing, clampToDuration_eq,
      saturatingAdd, ClockInput.playerEvent.injEq, true_and, exists_eq']
    generalize contentMs clock.effectiveSpeed
      ((now - clock.baseInstant) / 1000000) = advanced
    constructor
    · intro same
      split at same <;> omega
    · intro kept
      split <;> omega

end ClockState

namespace ClockInput

variable {clock : ClockState} {input : ClockInput} {now : Nat}

/-- An input without a position keeps the progress exactly if it is no resume
of a clock that has advanced. -/
theorem keepsProgress_iff (representable : clock.Representable)
    (noPosition : input.CarriesNoPosition clock) :
    input.KeepsProgress clock now ↔ ¬input.ResumesAdvanced clock now := by
  change clock.ContinuedBy (input.apply clock now) now ↔ _
  have others (continued : clock.ContinuedBy (input.apply clock now) now)
      (noResume : ∀ nowMs, input ≠ .playerEvent .playbackResumed nowMs) :
      clock.ContinuedBy (input.apply clock now) now ↔
        ¬input.ResumesAdvanced clock now := by
    refine iff_of_true continued ?_
    rintro ⟨⟨nowMs, resumes⟩, -⟩
    exact noResume nowMs resumes
  cases input with
  | playerEvent event nowMs =>
    rcases noPosition with rfl | rfl | rfl
    · refine others (ClockState.continuedBy_of_folded representable rfl rfl rfl)
        ?_
      rintro _ ⟨⟩
    · exact ClockState.resumed_continues_iff representable nowMs
    · refine others (ClockState.continuedBy_of_folded representable rfl rfl rfl)
        ?_
      rintro _ ⟨⟩
  | markAudioStalled nowMs =>
    refine others ?_ (by rintro _ ⟨⟩)
    simp only [apply, ClockState.markAudioStalled]
    split
    · exact ClockState.continuedBy_of_sameBase rfl rfl rfl rfl rfl
    · exact ClockState.continuedBy_of_folded representable rfl rfl rfl
  | setPodcastSpeed speed =>
    exact others (ClockState.continuedBy_of_folded representable rfl rfl rfl)
      (by rintro _ ⟨⟩)
  | enrichCurrentItem item =>
    refine others ?_ (by rintro _ ⟨⟩)
    simp only [apply, ClockState.enrichCurrentItem]
    split
    · exact ClockState.continuedBy_of_sameBase rfl rfl rfl rfl rfl
    · next current isCurrent =>
      split
      · exact ClockState.continuedBy_of_sameBase rfl rfl rfl rfl rfl
      · exact ClockState.continuedBy_of_merged isCurrent rfl rfl rfl rfl rfl
  | applyDeviceVolume percent seed nowMs =>
    exact others (ClockState.continuedBy_of_sameBase rfl rfl rfl rfl rfl)
      (by rintro _ ⟨⟩)
  | webApiPoll playback revision stateSeq sampledAtMs providerTimestampMs
      onCurrent =>
    refine others ?_ (by rintro _ ⟨⟩)
    rw [apply, ClockState.applyWebApiPoll_of_rejectsForPriority noPosition]
    exact ClockState.continuedBy_of_poll playback.item rfl rfl rfl rfl rfl
  | _ => cases noPosition

end ClockInput

/-- Along a history of the clock, every input without a position keeps the
progress shown, exactly if no resume reaches a clock that has advanced. -/
theorem history_keepsProgress_iff {start : Nat} {actions : List ClockAction}
    (representable : ∀ action ∈ actions, action.input.Representable) :
    playbackClock.StepsMeet
        (fun clock action => action.input.CarriesNoPosition clock →
          action.input.KeepsProgress clock action.now)
        (ClockState.empty start) actions ↔
      playbackClock.StepsMeet
        (fun clock action => ¬action.input.ResumesAdvanced clock action.now)
        (ClockState.empty start) actions := by
  refine playbackClock.stepsMeet_congr ?_ ?_
    (ClockState.representable_empty start) representable
  · intro clock action next clockRepresentable inputRepresentable steps
    cases steps
    exact clockRepresentable.apply inputRepresentable action.now
  · intro clock action clockRepresentable _
    constructor
    · rintro keeps ⟨⟨nowMs, resumes⟩, advanced⟩
      have noPosition : action.input.CarriesNoPosition clock := by
        rw [resumes]
        exact .inr (.inl rfl)
      exact (ClockInput.keepsProgress_iff clockRepresentable noPosition).mp
        (keeps noPosition) ⟨⟨nowMs, resumes⟩, advanced⟩
    · intro kept noPosition
      exact (ClockInput.keepsProgress_iff clockRepresentable noPosition).mpr
        kept

/-- A track without metadata, as a player event names it. -/
def plainTrack : ResourceUri := ⟨⟨"demo", rfl⟩, .track, "track", rfl⟩

def startPlaying (nowMs : Nat) : ClockAction :=
  ⟨.playerEvent (.playbackStarted plainTrack 0) nowMs, nowMs * 1000000⟩

def pausePlaying (nowMs : Nat) : ClockAction :=
  ⟨.playerEvent .playbackPaused nowMs, nowMs * 1000000⟩

def resumePlaying (nowMs : Nat) : ClockAction :=
  ⟨.playerEvent .playbackResumed nowMs, nowMs * 1000000⟩

/-- Pauses and the resumes that end them keep the progress, also repeated
pauses. -/
theorem pausesAndResumes_keepProgress :
    playbackClock.StepsMeet
      (fun clock action => action.input.CarriesNoPosition clock →
        action.input.KeepsProgress clock action.now) (ClockState.empty 0)
      [startPlaying 0, pausePlaying 10000, pausePlaying 12000,
        resumePlaying 20000, pausePlaying 25000] := by
  refine (history_keepsProgress_iff ?_).mpr ?_
  · simp [startPlaying, pausePlaying, resumePlaying,
      ClockInput.Representable]
  · simp [GuardedMachine.StepsMeet, startPlaying, pausePlaying, resumePlaying,
      ClockInput.ResumesAdvanced, ClockInput.apply,
      ClockState.applyPlayerEvent, ClockState.freeze]

/-- A resume ten seconds into a track the clock already plays shows its
beginning again. -/
theorem repeatedResume_loses_progress :
    ¬playbackClock.StepsMeet
      (fun clock action => action.input.CarriesNoPosition clock →
        action.input.KeepsProgress clock action.now) (ClockState.empty 0)
      [startPlaying 0, resumePlaying 10000] := by
  rintro ⟨-, keeps⟩
  have kept := (keeps _ rfl).1 (.inr (.inl rfl))
  simp only [ClockInput.KeepsProgress] at kept
  revert kept
  decide +kernel

end Spotuify
