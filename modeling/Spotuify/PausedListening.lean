import Spotuify.GuardedMachine
import Spotuify.ListenSessions

/-!
# Paused time in listen facts

The tracker is run on arbitrary player events without a sink tap, and the time
its open session was in the playing state is kept beside it.  An open session
accounts for all the time since it started; finalizing it leaves out the pause
it is in.
-/

namespace Spotuify

/-- The events that end the open session. -/
def PlayerEvent.finalizes : PlayerEvent → Bool
  | .trackChanged _ _ | .endOfTrack _ | .sessionDisconnected _
  | .deactivated => true
  | _ => false

/-- A player event and what the tracker reads from its surroundings.  The
reading of an event that finalizes is taken by the spawned finalization. -/
structure Observation where
  event : PlayerEvent
  nowMs : Int
  newSessionId : Nat
  currentContext : Option String

def Observation.surroundings (observation : Observation)
    (cachedDurationMs : String → Option Nat) : Surroundings where
  nowMs := observation.nowMs
  audibleCounter := none
  newSessionId := observation.newSessionId
  currentContext := observation.currentContext
  cachedDurationMs := cachedDurationMs

/-- The tracker, the reading of the last event it observed, and the time its
session was in the playing state up to then. -/
structure TrackedSession where
  nowMs : Int
  tracker : SessionState
  playedMs : Int

namespace TrackedSession

def initial : TrackedSession where
  nowMs := 0
  tracker := .idle
  playedMs := 0

/-- The time in the playing state up to a later reading. -/
def playedAt (tracked : TrackedSession) (nowMs : Int) : Int :=
  match tracked.tracker with
  | .playing _ => tracked.playedMs + (nowMs - tracked.nowMs)
  | _ => tracked.playedMs

variable (cachedDurationMs : String → Option Nat)

/-- What is written for an observed event. -/
def fact (tracked : TrackedSession) (observation : Observation) :
    Option ListenFact :=
  (tracked.tracker.observe observation.event
    (observation.surroundings cachedDurationMs)).2

def next (tracked : TrackedSession) (observation : Observation) :
    TrackedSession where
  -- The next event may be observed before a spawned finalization runs.
  nowMs :=
    if observation.event.finalizes then tracked.nowMs else observation.nowMs
  tracker :=
    (tracked.tracker.observe observation.event
      (observation.surroundings cachedDurationMs)).1
  playedMs :=
    match observation.event with
    | .playbackStarted _ _ => 0
    | _ => tracked.playedAt observation.nowMs

/-- Events are observed under a clock that does not go back. -/
def machine : GuardedMachine TrackedSession Observation where
  step tracked observation :=
    if tracked.nowMs ≤ observation.nowMs ∧ observation.nowMs < 2 ^ 63 then
      some (tracked.next cachedDurationMs observation)
    else none

/-- An open session accounts for the time since it started. -/
inductive Accounts (nowMs playedMs : Int) : SessionState → Prop
  | idle : Accounts nowMs playedMs .idle
  | playing (session : ListenSession)
    (started : 0 ≤ session.startedAtMs)
    (played : 0 ≤ playedMs) (paused : 0 ≤ session.accumulatedPausedMs)
    (total : session.startedAtMs + session.accumulatedPausedMs + playedMs =
      nowMs) :
    Accounts nowMs playedMs (.playing session)
  | paused (session : ListenSession) (pausedAtMs : Int)
    (started : 0 ≤ session.startedAtMs)
    (played : 0 ≤ playedMs) (paused : 0 ≤ session.accumulatedPausedMs)
    (total : session.startedAtMs + session.accumulatedPausedMs + playedMs =
      pausedAtMs)
    (before : pausedAtMs ≤ nowMs) :
    Accounts nowMs playedMs (.paused session pausedAtMs)

/-- The tracker accounts for the time up to its last reading. -/
structure Balanced (tracked : TrackedSession) : Prop where
  nonneg : 0 ≤ tracked.nowMs
  bounded : tracked.nowMs < 2 ^ 63
  accounts : Accounts tracked.nowMs tracked.playedMs tracked.tracker

variable {cachedDurationMs} {tracked : TrackedSession}
  {observation : Observation}

theorem initial_balanced : initial.Balanced where
  nonneg := le_rfl
  bounded := by decide
  accounts := .idle

/-- Time passes without an event. -/
theorem Accounts.pass {nowMs : Int}
    (accounts : Accounts tracked.nowMs tracked.playedMs tracked.tracker)
    (later : tracked.nowMs ≤ nowMs) :
    Accounts nowMs (tracked.playedAt nowMs) tracked.tracker := by
  unfold playedAt
  generalize tracked.tracker = tracker at accounts
  cases accounts with
  | idle => exact .idle
  | playing session started played paused total =>
    apply Accounts.playing session started _ paused
    · dsimp only
      omega
    · dsimp only
      omega
  | paused session pausedAtMs started played paused total before =>
    exact .paused session pausedAtMs started played paused total
      (before.trans later)

/-- What an event leaves is accounted for, up to the reading of the event. -/
theorem Accounts.observe {nowMs playedMs : Int} {tracker : SessionState}
    {surroundings : Surroundings} {event : PlayerEvent}
    (accounts : Accounts nowMs playedMs tracker) (nonneg : 0 ≤ nowMs)
    (bounded : nowMs < 2 ^ 63) (reads : surroundings.nowMs = nowMs)
    (goesOn : ∀ uri positionMs, event ≠ .playbackStarted uri positionMs) :
    Accounts nowMs playedMs (tracker.observe event surroundings).1 := by
  cases event with
  | playbackStarted uri positionMs => exact absurd rfl (goesOn uri positionMs)
  | playbackPaused =>
    cases accounts with
    | idle => exact .idle
    | playing session started played paused total =>
      refine .paused session surroundings.nowMs started played paused ?_ ?_
      · rw [reads]
        exact total
      · exact reads.le
    | paused session pausedAtMs started played paused total before =>
      exact .paused session pausedAtMs started played paused total before
  | playbackResumed =>
    cases accounts with
    | idle => exact .idle
    | playing session started played paused total =>
      exact .playing session started played paused total
    | paused session pausedAtMs started played paused total before =>
      have added : saturatingAddSigned session.accumulatedPausedMs
          (saturatingSub surroundings.nowMs pausedAtMs) =
            session.accumulatedPausedMs + (nowMs - pausedAtMs) := by
        unfold saturatingAddSigned saturatingSub
        omega
      apply Accounts.playing
      · exact started
      · exact played
      · dsimp only
        rw [added]
        omega
      · dsimp only
        rw [added]
        omega
  | positionTick positionMs =>
    cases accounts with
    | idle => exact .idle
    | playing session started played paused total =>
      exact .playing { session with lastPositionMs := positionMs } started
        played paused total
    | paused session pausedAtMs started played paused total before =>
      exact .paused session pausedAtMs started played paused total before
  | trackChanged => exact .idle
  | endOfTrack => exact .idle
  | sessionDisconnected => exact .idle
  | deactivated => exact .idle
  | _ => exact accounts

theorem observe_of_finalizes {tracker : SessionState} {event : PlayerEvent}
    {surroundings : Surroundings} (finalizes : event.finalizes = true) :
    ∃ reason, tracker.observe event surroundings =
      (.idle, tracker.finalize reason surroundings) := by
  cases event with
  | trackChanged => exact ⟨.userNext, rfl⟩
  | endOfTrack => exact ⟨.trackEnd, rfl⟩
  | sessionDisconnected => exact ⟨.sessionDied, rfl⟩
  | deactivated => exact ⟨.sessionDied, rfl⟩
  | _ => cases finalizes

/-- Only a finalization writes a fact. -/
theorem observe_of_not_finalizes {tracker : SessionState} {event : PlayerEvent}
    {surroundings : Surroundings} (goesOn : event.finalizes = false) :
    (tracker.observe event surroundings).2 = none := by
  cases event with
  | trackChanged => cases goesOn
  | endOfTrack => cases goesOn
  | sessionDisconnected => cases goesOn
  | deactivated => cases goesOn
  | playbackPaused => cases tracker <;> rfl
  | playbackResumed => cases tracker <;> rfl
  | positionTick => cases tracker <;> rfl
  | _ => rfl

theorem Balanced.next (balanced : tracked.Balanced)
    (later : tracked.nowMs ≤ observation.nowMs)
    (bounded : observation.nowMs < 2 ^ 63) :
    (tracked.next cachedDurationMs observation).Balanced := by
  have nonneg := balanced.nonneg
  by_cases finalizes : observation.event.finalizes = true
  · constructor
    · rw [TrackedSession.next, if_pos finalizes]
      exact nonneg
    · rw [TrackedSession.next, if_pos finalizes]
      exact balanced.bounded
    · obtain ⟨reason, observed⟩ := observe_of_finalizes finalizes
      rw [TrackedSession.next, observed]
      exact .idle
  · constructor
    · rw [TrackedSession.next, if_neg finalizes]
      exact nonneg.trans later
    · rw [TrackedSession.next, if_neg finalizes]
      exact bounded
    · rw [TrackedSession.next, if_neg finalizes]
      have passed := balanced.accounts.pass later
      dsimp only
      split
      · rename_i uri positionMs started
        rw [started]
        apply Accounts.playing
        · exact nonneg.trans later
        · exact le_rfl
        · exact le_rfl
        · simp [Observation.surroundings]
      · rename_i notStarted
        exact passed.observe (nonneg.trans later) bounded rfl notStarted

theorem step_balanced {next : TrackedSession} (balanced : tracked.Balanced)
    (steps : (machine cachedDurationMs).step tracked observation = some next) :
    next.Balanced := by
  rw [machine, Option.ite_none_right_eq_some] at steps
  obtain ⟨⟨later, bounded⟩, taken⟩ := steps
  cases taken
  exact balanced.next later bounded

theorem audibleMs_of_elapsed {playedMs elapsedMs : Int}
    {session : ListenSession}
    (elapsed : elapsedMs = session.accumulatedPausedMs + playedMs)
    (played : 0 ≤ playedMs) (paused : 0 ≤ session.accumulatedPausedMs)
    (bounded : elapsedMs < 2 ^ 63) :
    session.audibleMs elapsedMs none = playedMs := by
  simp only [ListenSession.audibleMs, saturatingSub]
  omega

/-- A finalized session has its time in the playing state recorded just when
it is not in a pause. -/
theorem Accounts.finalize {nowMs playedMs : Int} {tracker : SessionState}
    {surroundings : Surroundings} {reason : SkipReason} {fact : ListenFact}
    (accounts : Accounts nowMs playedMs tracker) (bounded : nowMs < 2 ^ 63)
    (reads : surroundings.nowMs = nowMs)
    (noCounter : surroundings.audibleCounter = none)
    (written : tracker.finalize reason surroundings = some fact) :
    fact.audibleMs = playedMs ↔
      ∀ session pausedAtMs, tracker = .paused session pausedAtMs →
        pausedAtMs = nowMs := by
  cases accounts with
  | idle => cases written
  | playing session started played paused total =>
    cases written
    have elapsed : max 0 (saturatingSub surroundings.nowMs
        session.startedAtMs) = session.accumulatedPausedMs + playedMs := by
      rw [reads]
      unfold saturatingSub
      omega
    have audible := audibleMs_of_elapsed elapsed played paused (by omega)
    simp only [ListenSession.finalize, noCounter, audible, true_iff]
    rintro other pausedAtMs ⟨⟩
  | paused session pausedAtMs started played paused total before =>
    cases written
    have elapsed : max 0 (saturatingSub surroundings.nowMs
        session.startedAtMs) =
          session.accumulatedPausedMs + (playedMs + (nowMs - pausedAtMs)) := by
      rw [reads]
      unfold saturatingSub
      omega
    have audible := audibleMs_of_elapsed elapsed (by omega) paused (by omega)
    simp only [ListenSession.finalize, noCounter, audible]
    constructor
    · rintro same other _ ⟨⟩
      omega
    · intro ends
      have now := ends session pausedAtMs rfl
      omega

/-- In every run, a fact records the time its session was in the playing state
just when the session is not in a pause that began before the finalization. -/
theorem audibleMs_eq_playedAt_iff {observations : List Observation}
    {fact : ListenFact}
    (runs : (machine cachedDurationMs).run initial observations = some tracked)
    (later : tracked.nowMs ≤ observation.nowMs)
    (bounded : observation.nowMs < 2 ^ 63)
    (written : tracked.fact cachedDurationMs observation = some fact) :
    fact.audibleMs = tracked.playedAt observation.nowMs ↔
      ∀ session pausedAtMs, tracked.tracker = .paused session pausedAtMs →
        pausedAtMs = observation.nowMs := by
  have balanced : tracked.Balanced :=
    (machine cachedDurationMs).run_preserves
      (fun _ _ _ => step_balanced) initial_balanced runs
  rw [TrackedSession.fact] at written
  cases ends : observation.event.finalizes with
  | false =>
    rw [observe_of_not_finalizes ends] at written
    cases written
  | true =>
    obtain ⟨reason, observed⟩ := observe_of_finalizes ends
    rw [observed] at written
    exact (balanced.accounts.pass later).finalize bounded rfl rfl written

theorem trackId_valid : validateBareId "4uLU6hMCjMI75M1A2tKUQC" = .ok () := by
  decide

def someTrack : ResourceUri :=
  ⟨.spotify, .track, "4uLU6hMCjMI75M1A2tKUQC", trackId_valid⟩

/-- A second of playback, and a pause. -/
def pausedTrack : List Observation :=
  [⟨.playbackStarted someTrack 0, 1000, 0, none⟩,
    ⟨.playbackPaused, 2000, 1, none⟩]

/-- A resumed session has both of its seconds in the playing state recorded. -/
theorem resumed_audibleMs_eq :
    ∃ tracked fact,
      (machine fun _ => none).run initial
          (pausedTrack ++ [⟨.playbackResumed, 5000, 2, none⟩]) =
        some tracked ∧
      tracked.fact (fun _ => none) ⟨.endOfTrack someTrack, 6000, 3, none⟩ =
        some fact ∧
      fact.audibleMs = tracked.playedAt 6000 := by
  refine ⟨_, _, rfl, rfl, ?_⟩
  refine (@audibleMs_eq_playedAt_iff (fun _ => none) _
    ⟨.endOfTrack someTrack, 6000, 3, none⟩
    (pausedTrack ++ [⟨.playbackResumed, 5000, 2, none⟩]) _ rfl
    (by decide) (by decide) rfl).mpr ?_
  rintro session pausedAtMs ⟨⟩

/-- A session that ends in a pause has the pause counted. -/
theorem paused_audibleMs_ne :
    ∃ tracked fact,
      (machine fun _ => none).run initial pausedTrack = some tracked ∧
      tracked.fact (fun _ => none) ⟨.deactivated, 5000, 2, none⟩ =
        some fact ∧
      fact.audibleMs = 4000 ∧ tracked.playedAt 5000 = 1000 :=
  ⟨_, _, rfl, rfl, rfl, rfl⟩

end TrackedSession

end Spotuify
