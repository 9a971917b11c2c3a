import Spotuify.GuardedMachine
import Spotuify.PausedListening
import Mathlib.Algebra.Ring.Nat

/-!
# Metered listening sessions

The sink chain counts the samples it writes and starts counting again whenever
it is started.  The tracker takes the counter's reading at the start of a
session from its reading when the spawned finalization runs.  Writes, restarts,
player events and finalizations are interleaved freely, and what was written
in all is kept beside the counter.
-/

namespace Spotuify

/-- What a counter that shows whole units gained is within one unit of what
was added to it. -/
theorem div_sub_div_near {unit before added : Nat} (unitPos : 0 < unit) :
    ((before + added) / unit - before / unit) * unit < added + unit ∧
      added < ((before + added) / unit - before / unit + 1) * unit := by
  have monotone : before / unit ≤ (before + added) / unit :=
    Nat.div_le_div_right (Nat.le_add_right _ _)
  have lower := Nat.div_mul_le_self before unit
  have upper := Nat.lt_div_mul_add unitPos (a := before)
  have lowerSum := Nat.div_mul_le_self (before + added) unit
  have upperSum := Nat.lt_div_mul_add unitPos (a := before + added)
  rw [Nat.add_mul, Nat.sub_mul]
  have product := Nat.mul_le_mul_right unit monotone
  omega

structure AudioCounterHandle where
  samples : Nat
  sampleRate : Nat
  channels : Nat
  deriving DecidableEq

namespace AudioCounterHandle

def new : AudioCounterHandle where
  samples := 0
  sampleRate := 44100
  channels := 2

def reset (counter : AudioCounterHandle) : AudioCounterHandle :=
  { counter with samples := 0 }

def setFormat (counter : AudioCounterHandle) (sampleRate channels : Nat) :
    AudioCounterHandle :=
  { counter with sampleRate := sampleRate, channels := max channels 1 }

def addSamples (counter : AudioCounterHandle) (count : Nat) :
    AudioCounterHandle :=
  { counter with samples := (counter.samples + count) % 2 ^ 64 }

/-- The samples that last a second. -/
def samplesPerSecond (counter : AudioCounterHandle) : Nat :=
  counter.sampleRate * max counter.channels 1

def audibleMs (counter : AudioCounterHandle) : Nat :=
  if counter.sampleRate = 0 then 0
  else counter.samples * 1000 % 2 ^ 64 / counter.samplesPerSecond

end AudioCounterHandle

/-- The counter, and what the sink did up to now. -/
structure AudioMoment where
  counter : AudioCounterHandle
  writtenSamples : Nat
  restarts : Nat
  deriving DecidableEq

namespace AudioMoment

def initial : AudioMoment where
  counter := .new
  writtenSamples := 0
  restarts := 0

/-- `tap_packet`, on a packet of that many samples. -/
def tapPacket (moment : AudioMoment) (length : Nat) : AudioMoment :=
  { moment with
    counter := moment.counter.addSamples length,
    writtenSamples := moment.writtenSamples + length }

/-- `LibrespotSinkChain::start`. -/
def startChain (moment : AudioMoment) (sampleRate : Nat) : AudioMoment :=
  { moment with
    counter := moment.counter.reset.setFormat sampleRate 2,
    restarts := moment.restarts + 1 }

/-- `AudioCounterTap::start`. -/
def startTap (moment : AudioMoment) : AudioMoment :=
  { moment with
    counter := moment.counter.reset,
    restarts := moment.restarts + 1 }

/-- The counter has a format and reads what it counted. -/
structure InRange (moment : AudioMoment) : Prop where
  rate : 0 < moment.counter.sampleRate
  samples : moment.counter.samples * 1000 < 2 ^ 63

/-- A moment comes after another; the counter went on counting unless it was
restarted. -/
structure LeadsTo (first second : AudioMoment) : Prop where
  written : first.writtenSamples ≤ second.writtenSamples
  restarts : first.restarts ≤ second.restarts
  counter : first.restarts = second.restarts →
    second.counter =
      { first.counter with
        samples := first.counter.samples +
          (second.writtenSamples - first.writtenSamples) }

variable {first second third moment : AudioMoment}

theorem LeadsTo.refl (moment : AudioMoment) : moment.LeadsTo moment where
  written := le_rfl
  restarts := le_rfl
  counter := by simp

theorem LeadsTo.trans (former : first.LeadsTo second)
    (latter : second.LeadsTo third) : first.LeadsTo third where
  written := former.written.trans latter.written
  restarts := former.restarts.trans latter.restarts
  counter := by
    intro unbroken
    have formerRestarts := former.restarts
    have latterRestarts := latter.restarts
    have formerWritten := former.written
    have latterWritten := latter.written
    rw [latter.counter (by omega), former.counter (by omega)]
    simp only [AudioCounterHandle.mk.injEq, and_true]
    omega

theorem initial_inRange : initial.InRange where
  rate := by decide
  samples := by decide

theorem tapPacket_samples {length : Nat}
    (fits : (moment.counter.samples + length) * 1000 < 2 ^ 63) :
    (moment.tapPacket length).counter.samples =
      moment.counter.samples + length := by
  apply Nat.mod_eq_of_lt
  omega

theorem InRange.tapPacket {length : Nat} (inRange : moment.InRange)
    (fits : (moment.counter.samples + length) * 1000 < 2 ^ 63) :
    (moment.tapPacket length).InRange where
  rate := inRange.rate
  samples := by
    rw [tapPacket_samples fits]
    exact fits

theorem leadsTo_tapPacket {length : Nat}
    (fits : (moment.counter.samples + length) * 1000 < 2 ^ 63) :
    moment.LeadsTo (moment.tapPacket length) where
  written := Nat.le_add_right _ _
  restarts := le_rfl
  counter := by
    intro _
    have counted := tapPacket_samples fits
    simp only [AudioMoment.tapPacket, AudioCounterHandle.addSamples] at *
    rw [counted, Nat.add_sub_cancel_left]

theorem InRange.startChain {sampleRate : Nat} (ratePos : 0 < sampleRate) :
    (moment.startChain sampleRate).InRange where
  rate := ratePos
  samples := by
    change 0 * 1000 < 2 ^ 63
    decide

theorem InRange.startTap (inRange : moment.InRange) :
    moment.startTap.InRange where
  rate := inRange.rate
  samples := by
    change 0 * 1000 < 2 ^ 63
    decide

/-- A start only has to come later. -/
theorem LeadsTo.of_restart {counter : AudioCounterHandle} :
    moment.LeadsTo
      { moment with counter := counter, restarts := moment.restarts + 1 } where
  written := le_rfl
  restarts := Nat.le_succ _
  counter := by
    intro unbroken
    exact absurd unbroken (Nat.ne_of_lt (Nat.lt_succ_self _))

theorem InRange.audibleMs_eq (inRange : moment.InRange) :
    moment.counter.audibleMs =
      moment.counter.samples * 1000 / moment.counter.samplesPerSecond := by
  have counted := inRange.samples
  have rate := inRange.rate
  rw [AudioCounterHandle.audibleMs, if_neg (by omega),
    Nat.mod_eq_of_lt (by omega)]

theorem InRange.samplesPerSecond_pos (inRange : moment.InRange) :
    0 < moment.counter.samplesPerSecond :=
  Nat.mul_pos inRange.rate (Nat.lt_of_lt_of_le Nat.one_pos (le_max_right _ _))

/-- The milliseconds that samples written last, as whole readings of a counter
show them: to within a millisecond, and rounded down when the counter was at
zero. -/
structure Shows (first second : AudioMoment) (measuredMs : Nat) : Prop where
  upper : measuredMs * second.counter.samplesPerSecond <
    (second.writtenSamples - first.writtenSamples) * 1000 +
      second.counter.samplesPerSecond
  lower : (second.writtenSamples - first.writtenSamples) * 1000 <
    (measuredMs + 1) * second.counter.samplesPerSecond
  exact : first.counter.samples = 0 →
    measuredMs = (second.writtenSamples - first.writtenSamples) * 1000 /
      second.counter.samplesPerSecond

/-- Two readings without a restart between them differ by what was written. -/
theorem LeadsTo.shows (later : first.LeadsTo second)
    (firstInRange : first.InRange) (secondInRange : second.InRange)
    (unbroken : first.restarts = second.restarts) :
    Shows first second
      (second.counter.audibleMs - first.counter.audibleMs) := by
  have counter := later.counter unbroken
  have samples : second.counter.samples * 1000 =
      first.counter.samples * 1000 +
        (second.writtenSamples - first.writtenSamples) * 1000 := by
    rw [counter, ← Nat.add_mul]
  have format : first.counter.samplesPerSecond =
      second.counter.samplesPerSecond := by
    rw [counter]
    rfl
  have near := @div_sub_div_near second.counter.samplesPerSecond
    (first.counter.samples * 1000)
    ((second.writtenSamples - first.writtenSamples) * 1000)
    secondInRange.samplesPerSecond_pos
  rw [firstInRange.audibleMs_eq, secondInRange.audibleMs_eq, format, samples]
  constructor
  · exact near.1
  · exact near.2
  · intro atZero
    rw [atZero]
    simp

end AudioMoment

/-- Why an event ends the open session. -/
def PlayerEvent.skipReason : PlayerEvent → Option SkipReason
  | .trackChanged _ _ => some .userNext
  | .endOfTrack _ => some .trackEnd
  | .sessionDisconnected _ | .deactivated => some .sessionDied
  | _ => none

def SessionState.session? : SessionState → Option ListenSession
  | .idle => none
  | .playing session | .paused session _ => some session

/-- A finalization that was spawned and has not run, and the moment its
session started. -/
structure SpawnedFinalization where
  snapshot : SessionState
  reason : SkipReason
  startedAt : AudioMoment

/-- The tracker wired to the counter. -/
structure MeteredTracker where
  audio : AudioMoment
  tracker : SessionState
  startedAt : AudioMoment
  finalizations : List SpawnedFinalization

inductive MeterEvent where
  | samplesWritten (length : Nat)
  | chainStarted
  | tapStarted
  | observed (observation : Observation)
  | finalizationRan (index : Nat)

namespace MeteredTracker

def initial : MeteredTracker where
  audio := .initial
  tracker := .idle
  startedAt := .initial
  finalizations := []

def surroundings (metered : MeteredTracker) (observation : Observation)
    (cachedDurationMs : String → Option Nat) : Surroundings :=
  { observation.surroundings cachedDurationMs with
    audibleCounter := some metered.audio.counter.audibleMs }

variable (sampleRate : Nat) (cachedDurationMs : String → Option Nat)

/-- An observed event; a finalization it spawns runs later. -/
def observe (metered : MeteredTracker) (observation : Observation) :
    MeteredTracker :=
  { metered with
    tracker :=
      (metered.tracker.observe observation.event
        (metered.surroundings observation cachedDurationMs)).1,
    startedAt :=
      match observation.event with
      | .playbackStarted _ _ => metered.audio
      | _ => metered.startedAt,
    finalizations :=
      match observation.event.skipReason with
      | some reason =>
        metered.finalizations ++ [⟨metered.tracker, reason, metered.startedAt⟩]
      | none => metered.finalizations }

/-- What a finalization records when it runs. -/
def fact (metered : MeteredTracker) (task : SpawnedFinalization)
    (reading : Observation) : Option ListenFact :=
  task.snapshot.finalize task.reason
    (metered.surroundings reading cachedDurationMs)

/-- The counter is not run past what its reading can show. -/
def machine : GuardedMachine MeteredTracker MeterEvent where
  step metered event :=
    match event with
    | .samplesWritten length =>
      if (metered.audio.counter.samples + length) * 1000 < 2 ^ 63 then
        some { metered with audio := metered.audio.tapPacket length }
      else none
    | .chainStarted =>
      some { metered with audio := metered.audio.startChain sampleRate }
    | .tapStarted => some { metered with audio := metered.audio.startTap }
    | .observed observation =>
      some (metered.observe cachedDurationMs observation)
    | .finalizationRan index =>
      if index < metered.finalizations.length then
        some { metered with
          finalizations := metered.finalizations.eraseIdx index }
      else none

variable {sampleRate cachedDurationMs} {metered next : MeteredTracker}
  {tracker : SessionState} {event : PlayerEvent} {surroundings : Surroundings}
  {startedAt now latest : AudioMoment}

/-- Only a start takes a new baseline. -/
theorem observe_session?
    (goesOn : ∀ uri positionMs, event ≠ .playbackStarted uri positionMs)
    {session : ListenSession}
    (remains : (tracker.observe event surroundings).1.session? =
      some session) :
    ∃ before, tracker.session? = some before ∧
      session.audibleBaselineMs = before.audibleBaselineMs := by
  cases event with
  | playbackStarted uri positionMs => exact absurd rfl (goesOn uri positionMs)
  | playbackPaused =>
    cases tracker with
    | idle => cases remains
    | playing before => exact ⟨session, remains, rfl⟩
    | paused before pausedAtMs => exact ⟨session, remains, rfl⟩
  | playbackResumed =>
    cases tracker with
    | idle => cases remains
    | playing before => exact ⟨session, remains, rfl⟩
    | paused before pausedAtMs =>
      cases remains
      exact ⟨before, rfl, rfl⟩
  | positionTick positionMs =>
    cases tracker with
    | idle => cases remains
    | playing before =>
      cases remains
      exact ⟨before, rfl, rfl⟩
    | paused before pausedAtMs => exact ⟨session, remains, rfl⟩
  | trackChanged => cases remains
  | endOfTrack => cases remains
  | sessionDisconnected => cases remains
  | deactivated => cases remains
  | _ => exact ⟨session, remains, rfl⟩

/-- The open session's baseline is the reading it was started at. -/
structure Baselined (startedAt now : AudioMoment) (session : ListenSession) :
    Prop where
  inRange : startedAt.InRange
  leadsTo : startedAt.LeadsTo now
  baseline : session.audibleBaselineMs = startedAt.counter.audibleMs

theorem Baselined.later {session : ListenSession}
    (baselined : Baselined startedAt now session)
    (leadsTo : now.LeadsTo latest) : Baselined startedAt latest session where
  inRange := baselined.inRange
  leadsTo := baselined.leadsTo.trans leadsTo
  baseline := baselined.baseline

/-- Every session not yet finalized knows its baseline. -/
structure Accountable (metered : MeteredTracker) : Prop where
  inRange : metered.audio.InRange
  tracked : ∀ session, metered.tracker.session? = some session →
    Baselined metered.startedAt metered.audio session
  spawned : ∀ task ∈ metered.finalizations, ∀ session,
    task.snapshot.session? = some session →
      Baselined task.startedAt metered.audio session

theorem initial_accountable : initial.Accountable where
  inRange := AudioMoment.initial_inRange
  tracked := by
    rintro session ⟨⟩
  spawned := by
    rintro task ⟨⟩

/-- The sink goes on. -/
theorem Accountable.audio (accountable : metered.Accountable)
    (inRange : latest.InRange) (leadsTo : metered.audio.LeadsTo latest) :
    Accountable { metered with audio := latest } where
  inRange := inRange
  tracked session opened := (accountable.tracked session opened).later leadsTo
  spawned task member session opened :=
    (accountable.spawned task member session opened).later leadsTo

theorem Accountable.observe (accountable : metered.Accountable)
    (observation : Observation) :
    (metered.observe cachedDurationMs observation).Accountable where
  inRange := accountable.inRange
  tracked := by
    intro session opened
    rw [MeteredTracker.observe] at opened ⊢
    dsimp only at opened ⊢
    split
    · rename_i uri positionMs started
      rw [started] at opened
      cases opened
      exact ⟨accountable.inRange, .refl _, rfl⟩
    · rename_i notStarted
      obtain ⟨before, opened, same⟩ := observe_session? notStarted opened
      have baselined := accountable.tracked before opened
      exact ⟨baselined.inRange, baselined.leadsTo,
        same.trans baselined.baseline⟩
  spawned := by
    intro task member
    rw [MeteredTracker.observe] at member ⊢
    dsimp only at member ⊢
    split at member
    · rw [List.mem_append, List.mem_singleton] at member
      cases member with
      | inl earlier => exact accountable.spawned task earlier
      | inr spawned =>
        subst spawned
        exact accountable.tracked
    · exact accountable.spawned task member

theorem step_accountable {event : MeterEvent} (ratePos : 0 < sampleRate)
    (accountable : metered.Accountable)
    (steps : (machine sampleRate cachedDurationMs).step metered event =
      some next) :
    next.Accountable := by
  cases event with
  | samplesWritten length =>
    rw [machine, Option.ite_none_right_eq_some] at steps
    obtain ⟨fits, taken⟩ := steps
    cases taken
    exact accountable.audio (accountable.inRange.tapPacket fits)
      (AudioMoment.leadsTo_tapPacket fits)
  | chainStarted =>
    cases steps
    exact accountable.audio (.startChain ratePos) .of_restart
  | tapStarted =>
    cases steps
    exact accountable.audio accountable.inRange.startTap .of_restart
  | observed observation =>
    cases steps
    exact accountable.observe observation
  | finalizationRan index =>
    rw [machine, Option.ite_none_right_eq_some] at steps
    obtain ⟨inBounds, taken⟩ := steps
    cases taken
    constructor
    · exact accountable.inRange
    · exact accountable.tracked
    · intro task member
      exact accountable.spawned task (List.mem_of_mem_eraseIdx member)

theorem finalize_eq_some {reason : SkipReason} {fact : ListenFact} :
    tracker.finalize reason surroundings = some fact ↔
      ∃ session, tracker.session? = some session ∧
        session.finalize reason surroundings = fact := by
  cases tracker <;> simp [SessionState.finalize, SessionState.session?]

/-- A reading above the baseline is capped at the elapsed time; any other
reading leaves the session to the wall clock. -/
theorem finalize_audibleMs {session : ListenSession} {reason : SkipReason}
    {current : Nat} (counter : surroundings.audibleCounter = some current)
    (small : current < 2 ^ 63) :
    let fact := session.finalize reason surroundings
    fact.audibleMs =
      if current - session.audibleBaselineMs = 0 then
        session.audibleMs fact.elapsedMs none
      else
        min ((current - session.audibleBaselineMs : Nat) : Int)
          fact.elapsedMs := by
  have signed : asSigned (current - session.audibleBaselineMs) =
      ((current - session.audibleBaselineMs : Nat) : Int) := by
    rw [asSigned, if_pos (by omega)]
  simp only [ListenSession.finalize, ListenSession.audibleMs, counter, signed]
  split
  · rename_i measured
    rw [if_neg measured.2.ne', max_eq_right (le_max_left _ _)]
  · rw [if_pos (by omega)]

/-- In every run, a session that the sink was not restarted in has what was
written since its start recorded, up to the elapsed time, and the wall-clock
time when that is nothing; so has one whose reading fell to its baseline. -/
theorem finalized_audibleMs {events : List MeterEvent}
    {task : SpawnedFinalization} {reading : Observation} {fact : ListenFact}
    (ratePos : 0 < sampleRate)
    (runs : (machine sampleRate cachedDurationMs).run initial events =
      some metered)
    (spawned : task ∈ metered.finalizations)
    (recorded : metered.fact cachedDurationMs task reading = some fact) :
    ∃ session, task.snapshot.session? = some session ∧
      (task.startedAt.restarts = metered.audio.restarts →
        ∃ measuredMs, task.startedAt.Shows metered.audio measuredMs ∧
          fact.audibleMs =
            if measuredMs = 0 then session.audibleMs fact.elapsedMs none
            else min (measuredMs : Int) fact.elapsedMs) ∧
      (metered.audio.counter.audibleMs ≤
          task.startedAt.counter.audibleMs →
        fact.audibleMs = session.audibleMs fact.elapsedMs none) := by
  have accountable : metered.Accountable :=
    (machine sampleRate cachedDurationMs).run_preserves
      (fun _ _ _ => step_accountable ratePos) initial_accountable runs
  obtain ⟨session, opened, finalized⟩ := finalize_eq_some.mp recorded
  have baselined := accountable.spawned task spawned session opened
  have small : metered.audio.counter.audibleMs < 2 ^ 63 := by
    rw [accountable.inRange.audibleMs_eq]
    exact (Nat.div_le_self _ _).trans_lt accountable.inRange.samples
  have audible := @finalize_audibleMs
    (metered.surroundings reading cachedDurationMs) session task.reason
    metered.audio.counter.audibleMs rfl small
  rw [finalized, baselined.baseline] at audible
  refine ⟨session, opened, ?_, ?_⟩
  · intro unbroken
    exact ⟨_, baselined.leadsTo.shows baselined.inRange accountable.inRange
      unbroken, audible⟩
  · intro fell
    rw [audible, if_pos (Nat.sub_eq_zero_of_le fell)]

def reads (event : PlayerEvent) (nowMs : Int) : MeterEvent :=
  .observed ⟨event, nowMs, 0, none⟩

/-- Two seconds without a sample. -/
def stalledTrack : List MeterEvent :=
  [.chainStarted, reads (.playbackStarted TrackedSession.someTrack 0) 1000,
    reads (.endOfTrack TrackedSession.someTrack) 3000]

/-- A second of samples, a pause, and two more seconds of samples. -/
def resumedTrack (onResume : List MeterEvent) : List MeterEvent :=
  [.chainStarted, reads (.playbackStarted TrackedSession.someTrack 0) 1000,
      .samplesWritten 88200, reads .playbackPaused 2000] ++ onResume ++
    [reads .playbackResumed 8000, .samplesWritten 176400,
      reads (.endOfTrack TrackedSession.someTrack) 11000]

/-- Both sides of a pause are recorded when the sink keeps running. -/
theorem resumedTrack_audibleMs :
    ∃ metered task fact,
      (machine 44100 fun _ => none).run initial (resumedTrack []) =
        some metered ∧
      task ∈ metered.finalizations ∧
      metered.fact (fun _ => none) task ⟨.deactivated, 11000, 0, none⟩ =
        some fact ∧
      fact.audibleMs = 3000 := by
  refine ⟨_, _, _, rfl, List.mem_singleton_self _, rfl, ?_⟩
  obtain ⟨session, opened, counted, -⟩ :=
    @finalized_audibleMs 44100 (fun _ => none) _ (resumedTrack []) _
      ⟨.deactivated, 11000, 0, none⟩ _ (by decide) rfl
      (List.mem_singleton_self _) rfl
  obtain ⟨measuredMs, shows, audible⟩ := counted rfl
  have measured : measuredMs = 3000 := shows.exact rfl
  rw [audible, measured]
  rfl

/-- A session that nothing was written in has its wall-clock time recorded,
and one that the sink was restarted in loses what came before. -/
theorem stalled_and_restarted_audibleMs_ne :
    (∃ metered task fact,
      (machine 44100 fun _ => none).run initial stalledTrack = some metered ∧
      task ∈ metered.finalizations ∧
      metered.fact (fun _ => none) task ⟨.deactivated, 3000, 0, none⟩ =
        some fact ∧
      fact.audibleMs = 2000 ∧
      metered.audio.writtenSamples - task.startedAt.writtenSamples = 0) ∧
    ∃ metered task fact,
      (machine 44100 fun _ => none).run initial
          (resumedTrack [.chainStarted]) = some metered ∧
      task ∈ metered.finalizations ∧
      metered.fact (fun _ => none) task ⟨.deactivated, 11000, 0, none⟩ =
        some fact ∧
      fact.audibleMs = 2000 ∧
      metered.audio.writtenSamples - task.startedAt.writtenSamples =
        3 * 88200 :=
  ⟨⟨_, _, _, rfl, List.mem_singleton_self _, rfl, rfl, rfl⟩,
    _, _, _, rfl, List.mem_singleton_self _, rfl, rfl, rfl⟩

end MeteredTracker

end Spotuify
