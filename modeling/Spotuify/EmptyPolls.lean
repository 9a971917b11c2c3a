import Spotuify.PlaybackClock

/-!
# Empty polls

A poll without a live signal is prepared, persisted and applied in that order.
`prepareWebApiPoll` builds the durable row and `applyWebApiPoll` moves the
clock; the two branches are written apart and are compared here for every
clock state.
-/

namespace Spotuify

/-- Two samples agree on everything a durable row keeps. -/
structure Playback.AgreesWith (first second : Playback) : Prop where
  item : first.item = second.item
  device : first.device = second.device
  isPlaying : first.isPlaying = second.isPlaying
  progressMs : first.progressMs = second.progressMs
  shuffle : first.shuffle = second.shuffle
  «repeat» : first.repeat = second.repeat
  source : first.source = second.source
  sampledAtMs : first.sampledAtMs = second.sampledAtMs
  providerTimestampMs :
    first.providerTimestampMs = second.providerTimestampMs

/-- Two samples show the listener the same playback. -/
structure Playback.ShowsSame (first second : Playback) : Prop where
  item : first.item = second.item
  device : first.device = second.device
  isPlaying : first.isPlaying = second.isPlaying
  progressMs : first.progressMs = second.progressMs
  shuffle : first.shuffle = second.shuffle
  «repeat» : first.repeat = second.repeat

namespace ClockState

variable (stretch : PlaybackSpeed → Nat → Nat)

/-- The poll an empty sample confirms: the clock has a live signal and the
emptiness has lasted long enough. -/
def ConfirmsEmpty (clock : ClockState) (sampledAtMs : Int) : Prop :=
  clock.hasLiveSignal = true ∧
    ∃ firstEmptyMs, clock.firstEmptyWebApiPollMs = some firstEmptyMs ∧
      noActiveSessionConfirmMs ≤ saturatingSub sampledAtMs firstEmptyMs

/-- The clock after preparing and applying one sample with current
revisions. -/
def prepareThenApply (clock : ClockState) (sample : Playback)
    (stateSeq : Nat) (sampledAtMs : Int) (providerTimestampMs : Option Int)
    (now : Nat) : ClockState × Option Playback :=
  let prepared := clock.prepareWebApiPoll stretch sample sampledAtMs
    providerTimestampMs now
  let applied := prepared.1.applyWebApiPoll stretch sample
    ⟨stateSeq, prepared.1.playerTransition⟩ stateSeq sampledAtMs
    providerTimestampMs true now
  (applied.1, prepared.2)

/-- The durable row and the clock agree after the poll: with a candidate the
clock shows the candidate, without one it shows what it showed. -/
def PersistsWhatItShows (clock : ClockState) (sample : Playback)
    (stateSeq : Nat) (sampledAtMs : Int) (providerTimestampMs : Option Int)
    (now : Nat) : Prop :=
  let after := clock.prepareThenApply stretch sample stateSeq sampledAtMs
    providerTimestampMs now
  ∀ readAt, match after.2 with
    | some candidate =>
      (after.1.snapshot stretch readAt).AgreesWith candidate
    | none =>
      (after.1.snapshot stretch readAt).ShowsSame
        (clock.snapshot stretch readAt)

variable {stretch} {clock : ClockState} {sample : Playback}
  {stateSeq now : Nat} {sampledAtMs : Int} {providerTimestampMs : Option Int}

theorem clampToDuration_clampToDuration (clock : ClockState) (ms : Nat) :
    clock.clampToDuration (clock.clampToDuration ms) =
      clock.clampToDuration ms := by
  unfold clampToDuration
  cases clock.item with
  | none => rfl
  | some item =>
    by_cases known : item.durationMs > 0
    · simp [known]
    · simp [known]

/-- Frozen progress is a fixed point of the clamp. -/
theorem clampToDuration_currentProgressMs (clock : ClockState) (now : Nat) :
    clock.clampToDuration (clock.currentProgressMs stretch now) =
      clock.currentProgressMs stretch now := by
  unfold currentProgressMs
  split
  · exact clock.clampToDuration_clampToDuration _
  · exact clock.clampToDuration_clampToDuration _

/-- The durable row of a confirmed empty poll. -/
def emptyCandidate (stretch : PlaybackSpeed → Nat → Nat)
    (clock : ClockState) (sampledAtMs : Int)
    (providerTimestampMs : Option Int) (now : Nat) : Playback where
  item := clock.item
  device := none
  isPlaying := false
  progressMs :=
    if clock.item.isSome then clock.currentProgressMs stretch now else 0
  shuffle := clock.shuffle
  «repeat» := clock.repeat
  sampledAtMs := some sampledAtMs
  providerTimestampMs := providerTimestampMs
  source := some (if clock.item.isSome then .recentFallback else .remotePoll)
  playbackSpeed := some clock.effectiveSpeed

theorem prepareWebApiPoll_of_confirmed
    (empty : sample.hasLiveSignal = false)
    (confirmed : clock.ConfirmsEmpty sampledAtMs) :
    clock.prepareWebApiPoll stretch sample sampledAtMs providerTimestampMs
        now =
      (clock, some (clock.emptyCandidate stretch sampledAtMs
        providerTimestampMs now)) := by
  obtain ⟨live, firstEmptyMs, marked, longEnough⟩ := confirmed
  have notEarly : ¬saturatingSub sampledAtMs firstEmptyMs <
      noActiveSessionConfirmMs := by omega
  simp only [prepareWebApiPoll, empty, live, marked, notEarly]
  rfl

/-- A confirmed empty poll resets the mode of a clock without an item; the
rest of the snapshot is the candidate. -/
theorem snapshot_applyEmptyWebApiPoll_of_confirmed
    (confirmed : clock.ConfirmsEmpty sampledAtMs) (readAt : Nat) :
    (clock.applyEmptyWebApiPoll stretch sampledAtMs providerTimestampMs
        now).1.snapshot stretch readAt =
      { clock.emptyCandidate stretch sampledAtMs providerTimestampMs now with
        shuffle := if clock.item.isNone then false else clock.shuffle,
        «repeat» := if clock.item.isNone then .off else clock.repeat } := by
  obtain ⟨live, firstEmptyMs, marked, longEnough⟩ := confirmed
  have notEarly : ¬saturatingSub sampledAtMs firstEmptyMs <
      noActiveSessionConfirmMs := by omega
  simp only [applyEmptyWebApiPoll, live, marked, notEarly, Bool.not_true,
    Bool.false_eq_true, if_false]
  -- The frozen progress is read back through the clamp.
  have frozen : clock.clampToDuration
      (if clock.item.isSome then clock.currentProgressMs stretch now else 0) =
        if clock.item.isSome then clock.currentProgressMs stretch now
        else 0 := by
    cases item : clock.item with
    | none => simp [clampToDuration, item]
    | some current =>
      exact clock.clampToDuration_currentProgressMs now
  exact congrArg (fun progressMs =>
    { clock.emptyCandidate stretch sampledAtMs providerTimestampMs now with
      progressMs := progressMs,
      shuffle := if clock.item.isNone then false else clock.shuffle,
      «repeat» := if clock.item.isNone then .off else clock.repeat }) frozen

theorem hasLiveSignal_marker (clock : ClockState) (marker : Option Int) :
    hasLiveSignal { clock with firstEmptyWebApiPollMs := marker } =
      clock.hasLiveSignal := rfl

/-- Without a confirmation there is no candidate, and the clock moves only
its confirmation marker and the provider's timestamp. -/
theorem prepareThenApply_of_not_confirmed
    (empty : sample.hasLiveSignal = false)
    (notConfirmed : ¬clock.ConfirmsEmpty sampledAtMs) :
    ∃ marker timestamp,
      clock.prepareThenApply stretch sample stateSeq sampledAtMs
          providerTimestampMs now =
        ({ clock with
            firstEmptyWebApiPollMs := marker,
            providerTimestampMs := timestamp }, none) := by
  cases live : clock.hasLiveSignal with
  | false =>
    refine ⟨none, providerTimestampMs, ?_⟩
    simp [prepareThenApply, prepareWebApiPoll, applyWebApiPoll,
      applyEmptyWebApiPoll, hasLiveSignal_marker, empty, live]
  | true =>
    cases marked : clock.firstEmptyWebApiPollMs with
    | none =>
      -- Preparing sets the marker, so applying finds it zero milliseconds old.
      have early : saturatingSub sampledAtMs sampledAtMs <
          noActiveSessionConfirmMs := by
        simp [saturatingSub, noActiveSessionConfirmMs]
      refine ⟨some sampledAtMs, clock.providerTimestampMs, ?_⟩
      simp [prepareThenApply, prepareWebApiPoll, applyWebApiPoll,
        applyEmptyWebApiPoll, hasLiveSignal_marker, empty, live, marked,
        early]
    | some firstEmptyMs =>
      have early : saturatingSub sampledAtMs firstEmptyMs <
          noActiveSessionConfirmMs := by
        by_contra late
        exact notConfirmed ⟨live, firstEmptyMs, marked, by omega⟩
      have untouched : clock.prepareThenApply stretch sample stateSeq
          sampledAtMs providerTimestampMs now = (clock, none) := by
        simp [prepareThenApply, prepareWebApiPoll, applyWebApiPoll,
          applyEmptyWebApiPoll, empty, live, marked, early]
      exact ⟨clock.firstEmptyWebApiPollMs, clock.providerTimestampMs,
        untouched⟩

/-- Preparing and applying a confirmed empty poll is applying it, next to its
candidate. -/
theorem prepareThenApply_of_confirmed
    (empty : sample.hasLiveSignal = false)
    (confirmed : clock.ConfirmsEmpty sampledAtMs) :
    clock.prepareThenApply stretch sample stateSeq sampledAtMs
        providerTimestampMs now =
      ((clock.applyEmptyWebApiPoll stretch sampledAtMs providerTimestampMs
          now).1,
        some (clock.emptyCandidate stretch sampledAtMs providerTimestampMs
          now)) := by
  simp [prepareThenApply, prepareWebApiPoll_of_confirmed empty confirmed,
    applyWebApiPoll, empty]

/-- What an empty poll persists is what the clock shows, exactly when it does
not clear a clock that has a mode but no item. -/
theorem emptyPoll_persistsWhatItShows_iff
    (stretch : PlaybackSpeed → Nat → Nat) (clock : ClockState)
    (sample : Playback) (stateSeq : Nat) (sampledAtMs : Int)
    (providerTimestampMs : Option Int) (now : Nat)
    (empty : sample.hasLiveSignal = false) :
    clock.PersistsWhatItShows stretch sample stateSeq sampledAtMs
        providerTimestampMs now ↔
      ¬(clock.ConfirmsEmpty sampledAtMs ∧ clock.item = none ∧
        (clock.shuffle = true ∨ clock.repeat ≠ .off)) := by
  by_cases confirmed : clock.ConfirmsEmpty sampledAtMs
  · simp only [PersistsWhatItShows,
      prepareThenApply_of_confirmed empty confirmed,
      snapshot_applyEmptyWebApiPoll_of_confirmed confirmed, confirmed,
      true_and]
    constructor
    · rintro agrees ⟨noItem, hasMode⟩
      have agreement := agrees now
      rcases hasMode with shuffled | repeating
      · have sameShuffle := agreement.shuffle
        simp [noItem, emptyCandidate, shuffled] at sameShuffle
      · have sameRepeat := agreement.repeat
        simp only [noItem, emptyCandidate, Option.isNone_none, if_true]
          at sameRepeat
        exact repeating sameRepeat.symm
    · intro noLostMode _
      refine ⟨rfl, rfl, rfl, rfl, ?_, ?_, rfl, rfl, rfl⟩
      · cases item : clock.item with
        | none => simp_all [emptyCandidate]
        | some current => simp [emptyCandidate]
      · cases item : clock.item with
        | none => simp_all [emptyCandidate]
        | some current => simp [emptyCandidate]
  · obtain ⟨marker, timestamp, after⟩ : ∃ marker timestamp,
        clock.prepareThenApply stretch sample stateSeq sampledAtMs
            providerTimestampMs now =
          ({ clock with
              firstEmptyWebApiPollMs := marker,
              providerTimestampMs := timestamp }, none) :=
      prepareThenApply_of_not_confirmed empty confirmed
    simp only [PersistsWhatItShows, after, confirmed, false_and,
      not_false_eq_true, iff_true]
    intro readAt
    exact ⟨rfl, rfl, rfl, rfl, rfl, rfl⟩

end ClockState

/-- What a provider reports without an active session. -/
def emptySample : Playback where
  item := none
  device := none
  isPlaying := false
  progressMs := 0
  shuffle := false
  «repeat» := .off
  sampledAtMs := none
  providerTimestampMs := none
  source := none
  playbackSpeed := none

/-- An idle active device with shuffle on and nothing loaded. -/
def idleShuffledSample : Playback :=
  { emptySample with
    device := some
      { id := some "d1", name := "Kitchen", kind := "speaker",
        isActive := true, isRestricted := false, volumePercent := some 40,
        supportsVolume := true },
    shuffle := true }

/-- The clock of a fresh daemon after a poll of `sample` and one empty
poll. -/
def clockAfterFirstEmpty (sample : Playback) : ClockState :=
  let polled := ((ClockState.empty 0).applyWebApiPoll (fun _ ms => ms) sample
    ⟨0, 0⟩ 0 1000 none true 0).1
  (polled.prepareThenApply (fun _ ms => ms) emptySample 0 2000 none 0).1

/-- A paused track with shuffle on. -/
def pausedShuffledSample : Playback :=
  { emptySample with
    item := some (MediaItem.stub "spotify:track:a"), shuffle := true }

/-- An unconfirmed empty poll persists nothing and shows nothing new; one that
confirms ten seconds of silence persists the cleared clock of a track. -/
theorem emptyPoll_persistsWhatItShows_confirmed :
    emptySample.hasLiveSignal = false ∧
      (clockAfterFirstEmpty idleShuffledSample).PersistsWhatItShows
        (fun _ ms => ms) emptySample 0 3000 none 0 ∧
      (clockAfterFirstEmpty pausedShuffledSample).ConfirmsEmpty 12000 ∧
      (clockAfterFirstEmpty pausedShuffledSample).PersistsWhatItShows
        (fun _ ms => ms) emptySample 0 12000 none 0 := by
  refine ⟨rfl, (ClockState.emptyPoll_persistsWhatItShows_iff _ _ _ _ _ _ _
    rfl).mpr ?_, ?_, (ClockState.emptyPoll_persistsWhatItShows_iff _ _ _ _ _ _ _
    rfl).mpr ?_⟩
  · rintro ⟨⟨_, firstEmptyMs, marked, longEnough⟩, _⟩
    cases marked
    exact absurd longEnough (by decide)
  · exact ⟨rfl, 2000, rfl, by decide⟩
  · rintro ⟨_, noItem, _⟩
    cases noItem

/-- Ten seconds later the row keeps shuffle on while the clock turns it
off. -/
theorem emptyPoll_drops_shuffle :
    ¬(clockAfterFirstEmpty idleShuffledSample).PersistsWhatItShows
      (fun _ ms => ms) emptySample 0 12000 none 0 := by
  intro persists
  have sameShuffle := (persists 0).shuffle
  exact absurd sameShuffle (by decide)

end Spotuify
