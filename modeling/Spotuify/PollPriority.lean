import Spotuify.ProgressContinuity
import Mathlib.Data.List.Induction

/-!
# What a poll may change

A poll of the current item leaves the extrapolation to a player event or a
command result that re-seated the clock shortly before it.  An empty poll
clears a clock that shows something only after an earlier one was left
standing long enough.
-/

namespace Spotuify

namespace ClockInput

/-- When an input was sampled. -/
def sampledAtMs? : ClockInput → Option Int
  | .playerEvent _ nowMs | .markAudioStalled nowMs
  | .applyDeviceVolume _ _ nowMs => some nowMs
  | .seedFromCache _ _ sampledAtMs | .commandResult _ sampledAtMs
  | .seek _ sampledAtMs | .prepareWebApiPoll _ sampledAtMs _
  | .webApiPoll _ _ _ sampledAtMs _ _ => some sampledAtMs
  | .setPodcastSpeed _ | .enrichCurrentItem _ => none

/-- A player event that starts, stops or moves the playback away from where
the clock extrapolates it, or a command result that a player event does not
outrank. -/
def Reseats (input : ClockInput) (clock : ClockState) (now : Nat) : Prop :=
  match input with
  | .playerEvent (.positionTick positionMs) _ =>
    (asSigned (clock.currentProgressMs contentMs now) - positionMs).natAbs >
      positionDriftThresholdMs
  | .playerEvent event _ => event.isPlaybackTransition = true
  | .commandResult playback _ =>
    ¬(matchesUri clock.item playback.item = true ∧
      clock.source = .playerEvent)
  | .seek _ _ => True
  | _ => False

def isSeed : ClockInput → Bool
  | .seedFromCache _ _ _ => true
  | _ => false

/-- An input after which an earlier empty poll confirms nothing: an accepted
poll that is not empty, a player event about the playback, a command result,
and whatever else re-seats the clock. -/
def ForgetsEmptyPolls (input : ClockInput) (clock : ClockState) : Prop :=
  match input with
  | .playerEvent (.positionTick _) _ => True
  | .playerEvent event _ => event.isPlaybackTransition = true
  | .seedFromCache _ _ _ | .commandResult _ _ | .seek _ _
  | .applyDeviceVolume _ _ _ => True
  | .markAudioStalled _ => clock.isPlaying = true
  | .webApiPoll playback revision stateSeq _ _ onCurrent =>
    revision.mutationSeq = stateSeq ∧
      revision.playerTransition = clock.playerTransition ∧
      onCurrent = true ∧ playback.hasLiveSignal = true
  | _ => False

/-- A poll without a live signal, sampled at a given time. -/
def IsEmptyPoll (sampledAt : Int) : ClockInput → Prop
  | .prepareWebApiPoll playback sampledAtMs _
  | .webApiPoll playback _ _ sampledAtMs _ _ =>
    playback.hasLiveSignal = false ∧ sampledAtMs = sampledAt
  | _ => False

end ClockInput

/-- The inputs of a history are sampled one after the other. -/
def NonDecreasing (history : List ClockAction) : Prop :=
  (history.filterMap fun action => action.input.sampledAtMs?).Pairwise (· ≤ ·)

instance (history : List ClockAction) : Decidable (NonDecreasing history) :=
  inferInstanceAs (Decidable (List.Pairwise _ _))

namespace ClockState

variable {clock : ClockState} {now : Nat} {since : Int}

/-- The clock was re-seated no earlier than `since`, and no empty poll before
that is left standing. -/
structure HeldSince (clock : ClockState) (since : Int) : Prop where
  source : sourcePriority .remotePoll ≤ sourcePriority clock.source
  sampledAtMs : since ≤ clock.sampledAtMs
  firstEmpty : ∀ firstEmptyMs,
    clock.firstEmptyWebApiPollMs = some firstEmptyMs → since ≤ firstEmptyMs

/-- The window in which the clock keeps its extrapolation. -/
def priorityWindowMs : Int := positionDriftThresholdMs

theorem HeldSince.of_taken (source : PlaybackStateSource)
    (stronger : sourcePriority .remotePoll ≤ sourcePriority source)
    (taken : clock.source = source) (sampled : since ≤ clock.sampledAtMs)
    (forgotten : clock.firstEmptyWebApiPollMs = none) :
    clock.HeldSince since where
  source := by
    rw [taken]
    exact stronger
  sampledAtMs := sampled
  firstEmpty := by
    intro firstEmptyMs marked
    rw [forgotten] at marked
    cases marked

/-- An input that re-seats the clock holds it. -/
theorem heldSince_of_reseats {input : ClockInput}
    (reseats : input.Reseats clock now)
    (sampled : input.sampledAtMs? = some since) :
    (input.apply clock now).HeldSince since := by
  have player : sourcePriority .remotePoll ≤ sourcePriority .playerEvent := by
    decide
  have command : sourcePriority .remotePoll ≤ sourcePriority .commandResult := by
    decide
  cases input with
  | playerEvent event nowMs =>
    cases sampled
    cases event with
    | positionTick positionMs =>
      have drifted : (asSigned (clock.currentProgressMs contentMs now) -
          positionMs).natAbs > positionDriftThresholdMs := reseats
      have sameProgress : currentProgressMs contentMs
          { clock with firstEmptyWebApiPollMs := none } now =
            clock.currentProgressMs contentMs now := rfl
      simp only [ClockInput.apply, applyPlayerEvent,
        PlayerEvent.isPlaybackTransition, Bool.false_eq_true, if_false,
        sameProgress, drifted, if_true]
      exact .of_taken .playerEvent player rfl (le_refl _) rfl
    | playbackStarted uri positionMs =>
      exact .of_taken .playerEvent player rfl (le_refl _) rfl
    | trackChanged uri positionMs =>
      exact .of_taken .playerEvent player rfl (le_refl _) rfl
    | playbackPaused => exact .of_taken .playerEvent player rfl (le_refl _) rfl
    | playbackResumed =>
      exact .of_taken .playerEvent player rfl (le_refl _) rfl
    | deactivated => exact .of_taken .playerEvent player rfl (le_refl _) rfl
    | endOfTrack uri => exact .of_taken .playerEvent player rfl (le_refl _) rfl
    | _ => cases reseats
  | commandResult playback sampledAtMs =>
    cases sampled
    have notOwned : (matchesUri clock.item playback.item &&
        clock.source == .playerEvent) = false := by
      simpa [ClockInput.Reseats] using reseats
    simp only [ClockInput.apply, applyCommandResult, notOwned,
      Bool.false_eq_true, if_false]
    exact .of_taken .commandResult command rfl (le_refl _) rfl
  | seek positionMs sampledAtMs =>
    cases sampled
    exact .of_taken .commandResult command rfl (le_refl _) rfl
  | _ => cases reseats

/-- Within the window an empty poll confirms nothing. -/
theorem HeldSince.not_confirmsEmpty (held : clock.HeldSince since)
    {sampledAtMs : Int} (recent : sampledAtMs ≤ since + priorityWindowMs) :
    ¬clock.ConfirmsEmpty sampledAtMs := by
  rintro ⟨-, firstEmptyMs, marked, longEnough⟩
  have later := held.firstEmpty firstEmptyMs marked
  simp only [saturatingSub, noActiveSessionConfirmMs, priorityWindowMs,
    positionDriftThresholdMs] at *
  omega

/-- An empty poll that confirms nothing moves the marker and the provider's
timestamp. -/
theorem applyEmptyWebApiPoll_of_not_confirmed
    {stretch : PlaybackSpeed → Nat → Nat} {sampledAtMs : Int}
    (notConfirmed : ¬clock.ConfirmsEmpty sampledAtMs)
    (providerTimestampMs : Option Int) :
    ∃ marker timestamp,
      (clock.applyEmptyWebApiPoll stretch sampledAtMs providerTimestampMs
          now).1 =
        { clock with
          firstEmptyWebApiPollMs := marker
          providerTimestampMs := timestamp } ∧
      (marker = none ∨ marker = some sampledAtMs ∨
        marker = clock.firstEmptyWebApiPollMs) := by
  cases live : clock.hasLiveSignal with
  | false =>
    refine ⟨none, providerTimestampMs, ?_, .inl rfl⟩
    simp [applyEmptyWebApiPoll, live]
  | true =>
    cases marked : clock.firstEmptyWebApiPollMs with
    | none =>
      refine ⟨some sampledAtMs, clock.providerTimestampMs, ?_,
        .inr (.inl rfl)⟩
      simp [applyEmptyWebApiPoll, live, marked]
    | some firstEmptyMs =>
      have early : saturatingSub sampledAtMs firstEmptyMs <
          noActiveSessionConfirmMs := by
        by_contra late
        exact notConfirmed ⟨live, firstEmptyMs, marked, by omega⟩
      refine ⟨some firstEmptyMs, clock.providerTimestampMs, ?_,
        .inr (.inr rfl)⟩
      have unchanged : (clock.applyEmptyWebApiPoll stretch sampledAtMs
          providerTimestampMs now).1 = clock := by
        simp [applyEmptyWebApiPoll, live, marked, early]
      rw [unchanged, ← marked]

/-- What an applied poll does to the clock: it is stale, empty, rejected for
priority, or adopted. -/
theorem applyWebApiPoll_cases (clock : ClockState)
    (stretch : PlaybackSpeed → Nat → Nat) (playback : Playback)
    (revision : PlaybackPollRevision) (stateSeq : Nat) (sampledAtMs : Int)
    (providerTimestampMs : Option Int) (onCurrent : Bool) (now : Nat) :
    let after := (clock.applyWebApiPoll stretch playback revision stateSeq
      sampledAtMs providerTimestampMs onCurrent now).1
    let accepted := revision.mutationSeq = stateSeq ∧
      revision.playerTransition = clock.playerTransition ∧ onCurrent = true
    (¬accepted ∧ after = clock) ∨
    (accepted ∧ playback.hasLiveSignal = false ∧
      after = (clock.applyEmptyWebApiPoll stretch sampledAtMs
        providerTimestampMs now).1) ∨
    (accepted ∧ playback.hasLiveSignal = true ∧
      clock.RejectsForPriority playback revision stateSeq sampledAtMs
        onCurrent) ∨
    (accepted ∧ playback.hasLiveSignal = true ∧
      ¬(matchesUri clock.item playback.item = true ∧
        sourcePriority .remotePoll ≤ sourcePriority clock.source ∧
        sampledAtMs - clock.sampledAtMs ≤ positionDriftThresholdMs) ∧
      after =
        { clock with
          item := playback.item
          device := playback.device
          isPlaying := playback.isPlaying
          baseProgressMs := playback.progressMs
          baseInstant := now
          shuffle := playback.shuffle
          «repeat» := playback.repeat
          providerTimestampMs := providerTimestampMs
          source := .remotePoll
          sampledAtMs := sampledAtMs
          firstEmptyWebApiPollMs := none }) := by
  intro after accepted
  by_cases sameSeq : revision.mutationSeq = stateSeq
  swap
  · refine .inl ⟨fun accepted => sameSeq accepted.1, ?_⟩
    simp [after, applyWebApiPoll, sameSeq]
  by_cases current : revision.playerTransition = clock.playerTransition ∧
      onCurrent = true
  swap
  · refine .inl ⟨fun accepted => current accepted.2, ?_⟩
    have stale : revision.playerTransition ≠ clock.playerTransition ∨
        onCurrent = false := by
      by_cases same : revision.playerTransition = clock.playerTransition
      · exact .inr (Bool.eq_false_iff.mpr fun isCurrent =>
          current ⟨same, isCurrent⟩)
      · exact .inl same
    simp only [after, applyWebApiPoll, sameSeq, ne_eq, not_true_eq_false,
      if_false, stale, if_true]
  have isAccepted : accepted := ⟨sameSeq, current⟩
  have notStale : ¬(revision.playerTransition ≠ clock.playerTransition ∨
      onCurrent = false) := by
    rintro (differs | notCurrent)
    · exact differs current.1
    · rw [current.2] at notCurrent
      cases notCurrent
  cases live : playback.hasLiveSignal with
  | false =>
    refine .inr (.inl ⟨isAccepted, rfl, ?_⟩)
    simp only [after, applyWebApiPoll, sameSeq, ne_eq, not_true_eq_false,
      if_false, notStale, live, Bool.not_false, if_true]
  | true =>
    by_cases rejects : matchesUri clock.item playback.item = true ∧
        sourcePriority .remotePoll ≤ sourcePriority clock.source ∧
        sampledAtMs - clock.sampledAtMs ≤ positionDriftThresholdMs
    · exact .inr (.inr (.inl ⟨isAccepted, rfl, sameSeq, current.1, current.2,
        live, rejects⟩))
    · refine .inr (.inr (.inr ⟨isAccepted, rfl, rejects, ?_⟩))
      have adopts : ¬(matchesUri clock.item playback.item = true ∧
          ¬(sourcePriority .remotePoll > sourcePriority clock.source ∨
            sampledAtMs - clock.sampledAtMs > positionDriftThresholdMs)) := by
        rintro ⟨sameUri, weaker⟩
        refine rejects ⟨sameUri, ?_⟩
        omega
      simp only [after, applyWebApiPoll, sameSeq, ne_eq, not_true_eq_false,
        if_false, notStale, live, Bool.not_true, Bool.false_eq_true, adopts]

/-- What only adds to the clock keeps it held. -/
theorem HeldSince.of_same {after : ClockState} (held : clock.HeldSince since)
    (sameSource : after.source = clock.source)
    (sampled : since ≤ after.sampledAtMs)
    (marked : ∀ firstEmptyMs, after.firstEmptyWebApiPollMs = some firstEmptyMs →
      clock.firstEmptyWebApiPollMs = some firstEmptyMs ∨
        since ≤ firstEmptyMs) : after.HeldSince since where
  source := by
    rw [sameSource]
    exact held.source
  sampledAtMs := sampled
  firstEmpty := by
    intro firstEmptyMs isMarked
    rcases marked firstEmptyMs isMarked with earlier | later
    · exact held.firstEmpty firstEmptyMs earlier
    · exact later

theorem HeldSince.applyWebApiPoll (held : clock.HeldSince since)
    {stretch : PlaybackSpeed → Nat → Nat} {playback : Playback}
    {revision : PlaybackPollRevision} {stateSeq : Nat} {sampledAtMs : Int}
    {providerTimestampMs : Option Int} {onCurrent : Bool}
    (later : since ≤ sampledAtMs)
    (recent : sampledAtMs ≤ since + priorityWindowMs) :
    (clock.applyWebApiPoll stretch playback revision stateSeq sampledAtMs
      providerTimestampMs onCurrent now).1.HeldSince since := by
  rcases clock.applyWebApiPoll_cases stretch playback revision stateSeq
      sampledAtMs providerTimestampMs onCurrent now with
    ⟨-, unchanged⟩ | ⟨-, -, empty⟩ | ⟨-, -, rejects⟩ | ⟨-, -, -, adopted⟩
  · rw [unchanged]
    exact held
  · obtain ⟨marker, timestamp, after, marks⟩ :=
      applyEmptyWebApiPoll_of_not_confirmed
        (held.not_confirmsEmpty recent) providerTimestampMs
    rw [empty, after]
    refine held.of_same rfl held.sampledAtMs ?_
    intro firstEmptyMs isMarked
    rcases marks with rfl | rfl | rfl
    · cases isMarked
    · cases isMarked
      exact .inr later
    · exact .inl isMarked
  · rw [applyWebApiPoll_of_rejectsForPriority rejects]
    refine held.of_same rfl held.sampledAtMs ?_
    rintro _ ⟨⟩
  · rw [adopted]
    exact .of_taken .remotePoll (le_refl _) rfl later rfl

/-- Within the window the clock stays held by whatever is applied to it. -/
theorem HeldSince.apply (held : clock.HeldSince since) {input : ClockInput}
    (noSeed : input.isSeed = false)
    (later : ∀ sampledAtMs, input.sampledAtMs? = some sampledAtMs →
      since ≤ sampledAtMs ∧ sampledAtMs ≤ since + priorityWindowMs) :
    (input.apply clock now).HeldSince since := by
  have player : sourcePriority .remotePoll ≤ sourcePriority .playerEvent := by
    decide
  have command : sourcePriority .remotePoll ≤ sourcePriority .commandResult := by
    decide
  have kept : ∀ firstEmptyMs, clock.firstEmptyWebApiPollMs = some firstEmptyMs →
      clock.firstEmptyWebApiPollMs = some firstEmptyMs ∨
        since ≤ firstEmptyMs := fun _ marked => .inl marked
  cases input with
  | seedFromCache playback source sampledAtMs => cases noSeed
  | playerEvent event nowMs =>
    have sampled := (later nowMs rfl).1
    cases event with
    | positionTick positionMs =>
      simp only [ClockInput.apply, applyPlayerEvent,
        PlayerEvent.isPlaybackTransition, Bool.false_eq_true, if_false]
      split
      · exact .of_taken .playerEvent player rfl sampled rfl
      · refine held.of_same rfl held.sampledAtMs ?_
        rintro _ ⟨⟩
    | playbackStarted uri positionMs =>
      exact .of_taken .playerEvent player rfl sampled rfl
    | trackChanged uri positionMs =>
      exact .of_taken .playerEvent player rfl sampled rfl
    | playbackPaused => exact .of_taken .playerEvent player rfl sampled rfl
    | playbackResumed => exact .of_taken .playerEvent player rfl sampled rfl
    | deactivated => exact .of_taken .playerEvent player rfl sampled rfl
    | endOfTrack uri => exact .of_taken .playerEvent player rfl sampled rfl
    | _ => exact held.of_same rfl held.sampledAtMs kept
  | markAudioStalled nowMs =>
    have sampled := (later nowMs rfl).1
    simp only [ClockInput.apply, markAudioStalled]
    split
    · exact held
    · exact .of_taken .playerEvent player rfl sampled rfl
  | setPodcastSpeed speed => exact held.of_same rfl held.sampledAtMs kept
  | enrichCurrentItem item =>
    simp only [ClockInput.apply, enrichCurrentItem]
    split
    · exact held
    · split
      · exact held
      · refine held.of_same rfl held.sampledAtMs ?_
        intro firstEmptyMs marked
        dsimp only at marked
        split at marked
        · cases marked
        · exact .inl marked
  | applyDeviceVolume percent seed nowMs =>
    have sampled := (later nowMs rfl).1
    refine held.of_same rfl sampled ?_
    rintro _ ⟨⟩
  | commandResult playback sampledAtMs =>
    have sampled := (later sampledAtMs rfl).1
    simp only [ClockInput.apply, applyCommandResult]
    split
    · refine held.of_same rfl held.sampledAtMs ?_
      rintro _ ⟨⟩
    · exact .of_taken .commandResult command rfl sampled rfl
  | seek positionMs sampledAtMs =>
    have sampled := (later sampledAtMs rfl).1
    exact .of_taken .commandResult command rfl sampled rfl
  | prepareWebApiPoll playback sampledAtMs providerTimestampMs =>
    have sampled := (later sampledAtMs rfl).1
    simp only [ClockInput.apply, prepareWebApiPoll]
    split
    · exact held
    split
    · refine held.of_same rfl held.sampledAtMs ?_
      rintro _ ⟨⟩
    split
    · refine held.of_same rfl held.sampledAtMs ?_
      rintro _ ⟨⟩
      exact .inr sampled
    split <;> exact held
  | webApiPoll playback revision stateSeq sampledAtMs providerTimestampMs
      onCurrent =>
    have sampled := later sampledAtMs rfl
    exact held.applyWebApiPoll sampled.1 sampled.2

/-- A held clock goes on as before after a poll of its item, apart from a
duration the poll may tell. -/
theorem HeldSince.poll_continues (held : clock.HeldSince since)
    {playback : Playback} {revision : PlaybackPollRevision} {stateSeq : Nat}
    {sampledAtMs : Int} {providerTimestampMs : Option Int} {onCurrent : Bool}
    (sameUri : matchesUri clock.item playback.item = true)
    (recent : sampledAtMs ≤ since + priorityWindowMs) :
    let after := (clock.applyWebApiPoll contentMs playback revision stateSeq
      sampledAtMs providerTimestampMs onCurrent now).1
    after.isPlaying = clock.isPlaying ∧
      ∀ readAt, clock.ContinuedBy after readAt := by
  rcases clock.applyWebApiPoll_cases contentMs playback revision stateSeq
      sampledAtMs providerTimestampMs onCurrent now with
    ⟨-, unchanged⟩ | ⟨-, -, empty⟩ | ⟨-, -, rejects⟩ | ⟨-, -, adopts, -⟩
  · rw [unchanged]
    exact ⟨rfl, fun _ => continuedBy_of_sameBase rfl rfl rfl rfl rfl⟩
  · obtain ⟨marker, timestamp, after, -⟩ :=
      applyEmptyWebApiPoll_of_not_confirmed
        (held.not_confirmsEmpty recent) providerTimestampMs
    rw [empty, after]
    exact ⟨rfl, fun _ => continuedBy_of_sameBase rfl rfl rfl rfl rfl⟩
  · rw [applyWebApiPoll_of_rejectsForPriority rejects]
    refine ⟨rfl, fun readAt => ?_⟩
    exact continuedBy_of_poll playback.item rfl rfl rfl rfl rfl
  · have sampled := held.sampledAtMs
    refine absurd ⟨sameUri, held.source, ?_⟩ adopts
    simp only [priorityWindowMs] at recent
    omega

/-- Within the window a run keeps the clock held. -/
theorem HeldSince.run {final : ClockState} {between : List ClockAction}
    (held : clock.HeldSince since)
    (noSeed : ∀ action ∈ between, action.input.isSeed = false)
    (within : ∀ action ∈ between, ∀ sampledAtMs,
      action.input.sampledAtMs? = some sampledAtMs →
        since ≤ sampledAtMs ∧ sampledAtMs ≤ since + priorityWindowMs)
    (runs : playbackClock.run clock between = some final) :
    final.HeldSince since := by
  induction between generalizing clock with
  | nil =>
    cases runs
    exact held
  | cons action rest ih =>
    obtain ⟨next, steps, runRest⟩ := playbackClock.run_cons_eq_some.mp runs
    cases steps
    have heldNext : (action.input.apply clock action.now).HeldSince since :=
      held.apply (noSeed action List.mem_cons_self)
        (within action List.mem_cons_self)
    apply ih heldNext _ _ runRest
    · exact fun later member =>
        noSeed later (List.mem_cons_of_mem action member)
    · exact fun later member =>
        within later (List.mem_cons_of_mem action member)

/-- What sets the marker of the first empty poll, and what leaves it. -/
theorem firstEmptyWebApiPollMs_apply {input : ClockInput} {firstEmptyMs : Int}
    (marked : (input.apply clock now).firstEmptyWebApiPollMs =
      some firstEmptyMs) :
    (clock.firstEmptyWebApiPollMs = some firstEmptyMs ∧
        ¬input.ForgetsEmptyPolls clock) ∨
      input.IsEmptyPoll firstEmptyMs := by
  cases input with
  | seedFromCache playback source sampledAtMs => cases marked
  | playerEvent event nowMs =>
    cases event with
    | positionTick positionMs =>
      simp only [ClockInput.apply, applyPlayerEvent,
        PlayerEvent.isPlaybackTransition, Bool.false_eq_true, if_false]
        at marked
      split at marked
      · cases marked
      · cases marked
    | playbackStarted uri positionMs => cases marked
    | trackChanged uri positionMs => cases marked
    | playbackPaused => cases marked
    | playbackResumed => cases marked
    | deactivated => cases marked
    | endOfTrack uri => cases marked
    | _ => exact .inl ⟨marked, Bool.false_ne_true⟩
  | markAudioStalled nowMs =>
    simp only [ClockInput.apply, markAudioStalled] at marked
    split at marked
    · next notPlaying =>
      refine .inl ⟨marked, fun playing => ?_⟩
      rw [show clock.isPlaying = true from playing] at notPlaying
      cases notPlaying
    · cases marked
  | setPodcastSpeed speed => exact .inl ⟨marked, id⟩
  | enrichCurrentItem item =>
    refine .inl ⟨?_, id⟩
    simp only [ClockInput.apply, enrichCurrentItem] at marked
    split at marked
    · exact marked
    · split at marked
      · exact marked
      · dsimp only at marked
        split at marked
        · cases marked
        · exact marked
  | applyDeviceVolume percent seed nowMs => cases marked
  | commandResult playback sampledAtMs =>
    simp only [ClockInput.apply, applyCommandResult] at marked
    split at marked
    · cases marked
    · cases marked
  | seek positionMs sampledAtMs => cases marked
  | prepareWebApiPoll playback sampledAtMs providerTimestampMs =>
    simp only [ClockInput.apply, prepareWebApiPoll] at marked
    split at marked
    · exact .inl ⟨marked, id⟩
    · next empty =>
      split at marked
      · cases marked
      split at marked
      · cases marked
        exact .inr ⟨Bool.eq_false_iff.mpr empty, rfl⟩
      · split at marked
        · exact .inl ⟨marked, id⟩
        · exact .inl ⟨marked, id⟩
  | webApiPoll playback revision stateSeq sampledAtMs providerTimestampMs
      onCurrent =>
    simp only [ClockInput.apply] at marked
    rcases clock.applyWebApiPoll_cases contentMs playback revision stateSeq
        sampledAtMs providerTimestampMs onCurrent now with
      ⟨stale, unchanged⟩ | ⟨-, empty, emptied⟩ | ⟨-, -, rejects⟩ |
        ⟨-, -, -, adopted⟩
    · rw [unchanged] at marked
      exact .inl ⟨marked, fun forgets =>
        stale ⟨forgets.1, forgets.2.1, forgets.2.2.1⟩⟩
    · have kept : ¬ClockInput.ForgetsEmptyPolls (.webApiPoll playback revision
          stateSeq sampledAtMs providerTimestampMs onCurrent) clock := by
        rintro ⟨-, -, -, live⟩
        rw [empty] at live
        cases live
      rw [emptied, applyEmptyWebApiPoll] at marked
      split at marked
      · cases marked
      split at marked
      · cases marked
        exact .inr ⟨empty, rfl⟩
      · split at marked
        · exact .inl ⟨marked, kept⟩
        · cases marked
    · rw [applyWebApiPoll_of_rejectsForPriority rejects] at marked
      cases marked
    · rw [adopted] at marked
      cases marked

/-- An empty poll takes the live signal away exactly by confirming. -/
theorem confirmsEmpty_of_clears {playback : Playback}
    {revision : PlaybackPollRevision} {stateSeq : Nat} {sampledAtMs : Int}
    {providerTimestampMs : Option Int} {onCurrent : Bool}
    (live : clock.hasLiveSignal = true)
    (empty : playback.hasLiveSignal = false)
    (cleared : (clock.applyWebApiPoll contentMs playback revision stateSeq
      sampledAtMs providerTimestampMs onCurrent now).1.hasLiveSignal = false) :
    clock.ConfirmsEmpty sampledAtMs := by
  by_contra notConfirmed
  rcases clock.applyWebApiPoll_cases contentMs playback revision stateSeq
      sampledAtMs providerTimestampMs onCurrent now with
    ⟨-, unchanged⟩ | ⟨-, -, emptied⟩ | ⟨-, polled, -⟩ | ⟨-, polled, -⟩
  · rw [unchanged, live] at cleared
    cases cleared
  · obtain ⟨marker, timestamp, after, -⟩ :=
      applyEmptyWebApiPoll_of_not_confirmed notConfirmed providerTimestampMs
    rw [emptied, after] at cleared
    rw [show clock.hasLiveSignal = false from cleared] at live
    cases live
  · rw [empty] at polled
    cases polled
  · rw [empty] at polled
    cases polled

end ClockState

/-- An empty poll of the history, sampled at `firstEmptyMs`, is left standing:
nothing after it makes the clock forget it. -/
def LeftStanding (start : ClockState) (history : List ClockAction)
    (firstEmptyMs : Int) : Prop :=
  ∃ before earlier between clock,
    history = before ++ earlier :: between ∧
    earlier.input.IsEmptyPoll firstEmptyMs ∧
    playbackClock.run start (before ++ [earlier]) = some clock ∧
    playbackClock.StepsMeet
      (fun clock action => ¬action.input.ForgetsEmptyPolls clock) clock between

/-- The marker of a clock is the sample time of an empty poll that is left
standing. -/
theorem leftStanding_of_marked {start clock : ClockState}
    {history : List ClockAction} {firstEmptyMs : Int}
    (unmarked : start.firstEmptyWebApiPollMs = none)
    (runs : playbackClock.run start history = some clock)
    (marked : clock.firstEmptyWebApiPollMs = some firstEmptyMs) :
    LeftStanding start history firstEmptyMs := by
  induction history using List.reverseRecOn generalizing clock with
  | nil =>
    cases runs
    rw [unmarked] at marked
    cases marked
  | append_singleton history action ih =>
    obtain ⟨previous, runHistory, runAction⟩ :=
      playbackClock.run_append_eq_some.mp runs
    obtain ⟨next, steps, ended⟩ := playbackClock.run_cons_eq_some.mp runAction
    cases steps
    cases ended
    rcases ClockState.firstEmptyWebApiPollMs_apply marked with
      ⟨earlierMarked, kept⟩ | empty
    · obtain ⟨before, earlier, between, middle, split, isEmpty, runEarlier,
        unforgotten⟩ := ih runHistory earlierMarked
      have runBetween : playbackClock.run middle between = some previous := by
        rw [split, List.append_cons] at runHistory
        obtain ⟨other, runOther, runRest⟩ :=
          playbackClock.run_append_eq_some.mp runHistory
        rw [runEarlier] at runOther
        cases runOther
        exact runRest
      refine ⟨before, earlier, between ++ [action], middle, ?_, isEmpty,
        runEarlier, ?_⟩
      · rw [split, List.append_assoc, List.cons_append]
      · exact unforgotten.append_of_run playbackClock runBetween
          ⟨kept, fun _ _ => trivial⟩
    · exact ⟨history, action, [], _, rfl, empty, runs, trivial⟩

/-- The inputs between two of an ordered history are sampled between them. -/
theorem NonDecreasing.within {earlier between : List ClockAction}
    {anchor last : ClockAction}
    (ordered : NonDecreasing (earlier ++ anchor :: (between ++ [last])))
    {since upTo : Int}
    (anchored : anchor.input.sampledAtMs? = some since)
    (ends : last.input.sampledAtMs? = some upTo) :
    ∀ action ∈ between, ∀ sampledAtMs,
      action.input.sampledAtMs? = some sampledAtMs →
        since ≤ sampledAtMs ∧ sampledAtMs ≤ upTo := by
  intro action member sampledAtMs sampled
  simp only [NonDecreasing, List.filterMap_append, List.filterMap_cons,
    anchored, ends, List.filterMap_nil, List.pairwise_append,
    List.pairwise_cons] at ordered
  obtain ⟨-, ⟨afterAnchor, -, -, beforeLast⟩, -⟩ := ordered
  have inBetween : sampledAtMs ∈
      between.filterMap fun action => action.input.sampledAtMs? :=
    List.mem_filterMap.mpr ⟨action, member, sampled⟩
  exact ⟨afterAnchor sampledAtMs (List.mem_append_left _ inBetween),
    beforeLast sampledAtMs inBetween upTo (List.mem_singleton_self upTo)⟩

/-- Over every history of the clock: a poll of the current item, sampled in
order and within the window after a player event or a command result that
re-seated the clock, keeps what is shown apart from a newly learned duration;
and an empty poll that clears the clock is the second one, the first being old
enough and not forgotten since. -/
theorem polls_keep_priority_and_confirm (start : Nat) :
    (∀ earlier anchor between clock reseated since playback revision stateSeq
        sampledAtMs providerTimestampMs onCurrent now,
      NonDecreasing (earlier ++ anchor :: (between ++
        [⟨.webApiPoll playback revision stateSeq sampledAtMs
          providerTimestampMs onCurrent, now⟩])) →
      (∀ action ∈ between, action.input.isSeed = false) →
      playbackClock.run (ClockState.empty start) earlier = some clock →
      anchor.input.Reseats clock anchor.now →
      anchor.input.sampledAtMs? = some since →
      sampledAtMs ≤ since + ClockState.priorityWindowMs →
      playbackClock.run (ClockState.empty start)
        (earlier ++ anchor :: between) = some reseated →
      matchesUri reseated.item playback.item = true →
      let after := (reseated.applyWebApiPoll contentMs playback revision
        stateSeq sampledAtMs providerTimestampMs onCurrent now).1
      after.isPlaying = reseated.isPlaying ∧
        ∀ readAt, reseated.ContinuedBy after readAt) ∧
    (∀ history clock playback revision stateSeq sampledAtMs providerTimestampMs
        onCurrent now,
      playbackClock.run (ClockState.empty start) history = some clock →
      clock.hasLiveSignal = true → playback.hasLiveSignal = false →
      (clock.applyWebApiPoll contentMs playback revision stateSeq sampledAtMs
        providerTimestampMs onCurrent now).1.hasLiveSignal = false →
      ∃ firstEmptyMs,
        LeftStanding (ClockState.empty start) history firstEmptyMs ∧
        firstEmptyMs + noActiveSessionConfirmMs ≤ sampledAtMs) := by
  constructor
  · intro earlier anchor between clock reseated since playback revision stateSeq
      sampledAtMs providerTimestampMs onCurrent now ordered noSeed runEarlier
      reseats anchored recent runs sameUri
    obtain ⟨other, runOther, runRest⟩ :=
      playbackClock.run_append_eq_some.mp runs
    rw [runEarlier] at runOther
    cases runOther
    obtain ⟨next, steps, runBetween⟩ :=
      playbackClock.run_cons_eq_some.mp runRest
    cases steps
    have within := ordered.within anchored rfl
    have held := (ClockState.heldSince_of_reseats reseats anchored).run noSeed
      (fun action member sampled isSampled =>
        ⟨(within action member sampled isSampled).1,
          (within action member sampled isSampled).2.trans recent⟩) runBetween
    exact held.poll_continues sameUri recent
  · intro history clock playback revision stateSeq sampledAtMs
      providerTimestampMs onCurrent now runs live empty cleared
    obtain ⟨-, firstEmptyMs, marked, longEnough⟩ :=
      ClockState.confirmsEmpty_of_clears live empty cleared
    refine ⟨firstEmptyMs, leftStanding_of_marked rfl runs marked, ?_⟩
    simp only [saturatingSub, noActiveSessionConfirmMs] at *
    omega

/-- What a provider reports of the plain track. -/
def plainSample (isPlaying : Bool) (durationMs : Nat) : Playback :=
  { emptySample with
    item := some { MediaItem.stub plainTrack.asUri with durationMs := durationMs }
    isPlaying := isPlaying }

def pollAt (playback : Playback) (playerTransition : Nat) (nowMs : Nat) :
    ClockAction :=
  ⟨.webApiPoll playback ⟨0, playerTransition⟩ 0 nowMs none true,
    nowMs * 1000000⟩

def clockAfter (history : List ClockAction) : ClockState :=
  history.foldl (fun clock action => action.input.apply clock action.now)
    (ClockState.empty 0)

/-- A poll half a second after the start keeps the clock playing, and ten
seconds of empty polls clear it. -/
theorem polls_keep_and_confirm_plainTrack :
    (clockAfter [startPlaying 0, pollAt (plainSample false 0) 1 500]).isPlaying =
        true ∧
      ∃ firstEmptyMs,
        LeftStanding (ClockState.empty 0)
          [startPlaying 0, pollAt emptySample 1 1000] firstEmptyMs ∧
        firstEmptyMs + noActiveSessionConfirmMs ≤ 11000 := by
  obtain ⟨keeps, confirms⟩ := polls_keep_priority_and_confirm 0
  constructor
  · have kept := keeps [] (startPlaying 0) [] (ClockState.empty 0)
      (clockAfter [startPlaying 0]) 0 (plainSample false 0) ⟨0, 1⟩ 0 500 none
      true 500000000 (by decide) (by decide) rfl rfl rfl (by decide) rfl
      (by decide)
    exact kept.1
  · exact confirms [startPlaying 0, pollAt emptySample 1 1000]
      (clockAfter [startPlaying 0, pollAt emptySample 1 1000]) emptySample
      ⟨0, 1⟩ 0 11000 none true 11000000000 rfl (by decide +kernel) rfl
      (by decide +kernel)

/-- A poll half a second after a command result, or after a tick too close to
re-seat the clock, stops a clock that a player event started five seconds
earlier; a device that becomes active between two empty polls does not keep the
second from clearing; and the first duration that is heard of clamps the
progress. -/
theorem polls_overrule_plainTrack :
    (∃ clock, clock = clockAfter [startPlaying 0,
        ⟨.commandResult (plainSample true 0) 5000, 5000000000⟩] ∧
      matchesUri clock.item (plainSample false 0).item = true ∧
      clock.isPlaying = true ∧
      ((pollAt (plainSample false 0) 1 5500).input.apply clock
        5500000000).isPlaying = false) ∧
    (∃ clock, clock = clockAfter [startPlaying 0,
        ⟨.playerEvent (.positionTick 5000) 5000, 5000000000⟩] ∧
      matchesUri clock.item (plainSample false 0).item = true ∧
      clock.isPlaying = true ∧
      ((pollAt (plainSample false 0) 1 5500).input.apply clock
        5500000000).isPlaying = false) ∧
    (∃ clock, clock = clockAfter [startPlaying 0, pollAt emptySample 1 1000,
        ⟨.playerEvent .activated 5000, 5000000000⟩] ∧
      clock.hasLiveSignal = true ∧
      ((pollAt emptySample 1 11000).input.apply clock
        11000000000).hasLiveSignal = false) ∧
    (∃ clock, clock = clockAfter [startPlaying 0] ∧
      clock.currentProgressMs contentMs 1200000000 = 1200 ∧
      ((pollAt (plainSample true 1000) 1 1200).input.apply clock
        1200000000).currentProgressMs contentMs 1200000000 = 1000) := by
  refine ⟨⟨_, rfl, ?_⟩, ⟨_, rfl, ?_⟩, ⟨_, rfl, ?_⟩, ⟨_, rfl, ?_⟩⟩
  · decide +kernel
  · decide +kernel
  · decide +kernel
  · decide +kernel

end Spotuify
