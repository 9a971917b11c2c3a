import Spotuify.GuardedMachine
import Spotuify.ListenSessions
import Mathlib.Algebra.BigOperators.Group.List.Basic

/-!
# One fact for each listening period

What the listener did is described without the tracker: a listening period
opens at a track's first `Playing`, survives pauses, and ends with the event
that ends the track.  The tracker is run beside that description on the
translated events, and their two accounts are compared over whole histories.
-/

namespace Spotuify

/-- One track's listening, from its first `Playing` on. -/
structure ListeningPeriod where
  uri : String
  playedMs : Int
  isPlaying : Bool
  deriving DecidableEq

/-- What was listened to so far. -/
structure Listening where
  current : Option ListeningPeriod
  ended : List ListeningPeriod
  deriving DecidableEq

namespace Listening

/-- Time passes; it counts while the track plays. -/
def pass (listening : Listening) (elapsedMs : Int) : Listening :=
  { listening with
    current := listening.current.map fun period =>
      if period.isPlaying then
        { period with playedMs := period.playedMs + elapsedMs }
      else period }

/-- The open period ends. -/
def finish (listening : Listening) : Listening where
  current := none
  ended := listening.ended ++ listening.current.toList

/-- What an event means for the listener. -/
def hear (listening : Listening) : LibrespotPlayerEvent → Listening
  | .playing trackId _ =>
    match listening.current with
    | some period =>
      if period.uri = trackId then
        { listening with current := some { period with isPlaying := true } }
      else
        { listening.finish with current := some ⟨trackId, 0, true⟩ }
    | none => { listening with current := some ⟨trackId, 0, true⟩ }
  | .paused _ _ =>
    { listening with
      current := listening.current.map fun period =>
        { period with isPlaying := false } }
  | .trackChanged _ | .endOfTrack _ | .stopped _ | .sessionDisconnected =>
    listening.finish
  | _ => listening

/-- The wall time spent in the playing state by ended periods. -/
def endedMs (listening : Listening) : Int :=
  (listening.ended.map ListeningPeriod.playedMs).sum

/-- The wall time spent in the playing state. -/
def playedMs (listening : Listening) : Int :=
  listening.endedMs + (listening.current.map ListeningPeriod.playedMs).getD 0

end Listening

/-- An event, when it arrives, and the playback context at that time. -/
structure TimedEvent where
  event : LibrespotPlayerEvent
  nowMs : Int
  currentContext : Option String

/-- The tracker and its facts beside what was listened to. -/
structure ListenHistory where
  nowMs : Int
  tracker : SessionState
  facts : List ListenFact
  sessionCount : Nat
  listening : Listening
  deriving DecidableEq

def ListenHistory.initial : ListenHistory where
  nowMs := 0
  tracker := .idle
  facts := []
  sessionCount := 0
  listening := ⟨none, []⟩

section

variable (cachedDurationMs : String → Option Nat)

/-- What a tracker without a sink tap reads when an event arrives. -/
def surroundingsAt (history : ListenHistory) (timed : TimedEvent) :
    Surroundings where
  nowMs := timed.nowMs
  audibleCounter := none
  newSessionId := history.sessionCount
  currentContext := timed.currentContext
  cachedDurationMs := cachedDurationMs

/-- Events arrive under a clock that does not go back. -/
def listenMachine : GuardedMachine ListenHistory TimedEvent where
  step history timed :=
    if history.nowMs ≤ timed.nowMs ∧ timed.nowMs < 2 ^ 63 then
      let listening := history.listening.pass (timed.nowMs - history.nowMs)
      let observed :=
        match translateLibrespotPlayerEvent timed.event with
        | some event => history.tracker.observe event
            (surroundingsAt cachedDurationMs history timed)
        | none => (history.tracker, none)
      some
        { nowMs := timed.nowMs,
          tracker := observed.1,
          facts := history.facts ++ observed.2.toList,
          sessionCount := history.sessionCount + 1,
          listening := listening.hear timed.event }
    else
      none

end

/-- The events that finalize the tracker's session. -/
def LibrespotPlayerEvent.finalizes : LibrespotPlayerEvent → Bool
  | .trackChanged _ | .endOfTrack _ | .sessionDisconnected => true
  | _ => false

def IsSpotifyUri (raw : String) : Prop :=
  ∃ uri, parseSpotifyResourceUri raw = .ok uri

namespace ListenHistory

/-- Finalizing now does not count a pause: the session is not paused or was
paused this instant. -/
def CountsNoPause (history : ListenHistory) (nowMs : Int) : Prop :=
  ∀ session pausedAtMs, history.tracker = .paused session pausedAtMs →
    pausedAtMs = nowMs

/-- The tracker understands an event: its URI is canonical, a track starts or
stops only while no session is open, and a finalized session counts no
pause. -/
def Understands (history : ListenHistory) (timed : TimedEvent) : Prop :=
  match timed.event with
  | .playing trackId _ => IsSpotifyUri trackId ∧ history.tracker = .idle
  | .stopped _ => history.tracker = .idle
  | .trackChanged uri | .endOfTrack uri =>
    IsSpotifyUri uri ∧ history.CountsNoPause timed.nowMs
  | .sessionDisconnected => history.CountsNoPause timed.nowMs
  | _ => True

/-- Nothing is being listened to, every period has its one fact, and no
audible time is lost. -/
structure Recorded (history : ListenHistory) : Prop where
  settled : history.listening.current = none
  oneFactEach : history.facts.map ListenFact.trackUri =
    history.listening.ended.map ListeningPeriod.uri
  nothingLost : (history.facts.map ListenFact.audibleMs).sum =
    history.listening.playedMs

end ListenHistory

/-- An open session is the open period, and no pause was added to it. -/
structure ListenSession.Follows (session : ListenSession)
    (period : ListeningPeriod) : Prop where
  sameTrack : session.uri = period.uri
  startedNonneg : 0 ≤ session.startedAtMs
  playedNonneg : 0 ≤ period.playedMs
  noPauses : session.accumulatedPausedMs = 0

/-- The tracker's state is the listener's. -/
inductive SessionState.Mirrors (nowMs : Int) :
    SessionState → Option ListeningPeriod → Prop
  | idle : Mirrors nowMs .idle none
  | playing {session : ListenSession} {period : ListeningPeriod} :
      session.Follows period →
      period.isPlaying = true →
      period.playedMs = nowMs - session.startedAtMs →
      Mirrors nowMs (.playing session) (some period)
  | paused {session : ListenSession} {pausedAtMs : Int}
      {period : ListeningPeriod} :
      session.Follows period →
      period.isPlaying = false →
      period.playedMs = pausedAtMs - session.startedAtMs →
      pausedAtMs ≤ nowMs →
      Mirrors nowMs (.paused session pausedAtMs) (some period)

/-- Facts and ended periods pair up, and the tracker mirrors the listener. -/
structure ListenHistory.Faithful (history : ListenHistory) : Prop where
  nowNonneg : 0 ≤ history.nowMs
  nowBounded : history.nowMs < 2 ^ 63
  paired : (history.facts.map fun fact => (fact.trackUri, fact.audibleMs)) =
    history.listening.ended.map fun period => (period.uri, period.playedMs)
  mirrors : history.tracker.Mirrors history.nowMs history.listening.current

/-- A saturating difference of two clock readings is their difference. -/
theorem saturatingSub_of_le {later earlier : Int} (earlierNonneg : 0 ≤ earlier)
    (laterBounded : later < 2 ^ 63) (ordered : earlier ≤ later) :
    saturatingSub later earlier = later - earlier := by
  unfold saturatingSub
  omega

/-- Time passing keeps the mirror. -/
theorem SessionState.Mirrors.pass {nowMs later : Int}
    {tracker : SessionState} {listening : Listening}
    (mirrors : tracker.Mirrors nowMs listening.current)
    (ordered : nowMs ≤ later) :
    tracker.Mirrors later (listening.pass (later - nowMs)).current := by
  generalize currentEq : listening.current = current at mirrors
  simp only [Listening.pass, currentEq]
  cases mirrors with
  | idle => exact .idle
  | playing follows isPlaying played =>
    simp only [Option.map_some, isPlaying, if_true]
    refine .playing ⟨follows.sameTrack, follows.startedNonneg, ?_,
      follows.noPauses⟩ rfl ?_
    · have := follows.playedNonneg
      simp only
      omega
    · simp only
      omega
  | paused follows isPaused played pausedBefore =>
    simp only [Option.map_some, isPaused, Bool.false_eq_true, if_false]
    exact .paused follows isPaused played (by omega)

/-- Without a tap and without pauses all the time of a session is audible. -/
theorem ListenSession.Follows.audibleMs_eq {session : ListenSession}
    {period : ListeningPeriod} (follows : session.Follows period)
    (bounded : period.playedMs < 2 ^ 63) :
    session.audibleMs period.playedMs none = period.playedMs := by
  have playedNonneg := follows.playedNonneg
  simp only [audibleMs, follows.noPauses]
  unfold saturatingSub
  omega

/-- Finalizing a mirrored session records its period. -/
theorem SessionState.Mirrors.finalize {nowMs : Int}
    {tracker : SessionState} {current : Option ListeningPeriod}
    {surroundings : Surroundings}
    (mirrors : tracker.Mirrors nowMs current) (bounded : nowMs < 2 ^ 63)
    (sameNow : surroundings.nowMs = nowMs)
    (noTap : surroundings.audibleCounter = none)
    (counts : ∀ session pausedAtMs, tracker = .paused session pausedAtMs →
      pausedAtMs = nowMs)
    (reason : SkipReason) :
    ((tracker.finalize reason surroundings).toList.map
        fun fact => (fact.trackUri, fact.audibleMs)) =
      current.toList.map fun period => (period.uri, period.playedMs) := by
  have recorded : ∀ {session : ListenSession} {period : ListeningPeriod},
      session.Follows period →
      period.playedMs = nowMs - session.startedAtMs →
        (session.finalize reason surroundings).trackUri = period.uri ∧
        (session.finalize reason surroundings).audibleMs =
          period.playedMs := by
    intro session period follows played
    have startedNonneg := follows.startedNonneg
    have playedNonneg := follows.playedNonneg
    have elapsed : max 0 (saturatingSub surroundings.nowMs
        session.startedAtMs) = period.playedMs := by
      rw [sameNow, saturatingSub_of_le startedNonneg bounded (by omega)]
      omega
    have audible := follows.audibleMs_eq (by omega)
    simp only [ListenSession.finalize, elapsed, noTap, audible,
      follows.sameTrack, and_self]
  cases mirrors with
  | idle => rfl
  | playing follows isPlaying played =>
    obtain ⟨sameTrack, sameTime⟩ := recorded follows played
    simp [SessionState.finalize, sameTrack, sameTime]
  | @paused session pausedAtMs period follows isPaused played pausedBefore =>
    have now := counts session pausedAtMs rfl
    obtain ⟨sameTrack, sameTime⟩ := recorded follows (by omega)
    simp [SessionState.finalize, sameTrack, sameTime]

/-- A pause leaves a mirrored pair mirrored. -/
theorem SessionState.Mirrors.pause {nowMs : Int}
    {tracker : SessionState} {listening : Listening}
    (mirrors : tracker.Mirrors nowMs listening.current)
    (surroundings : Surroundings) (trackId : String) (positionMs : Nat)
    (sameNow : surroundings.nowMs = nowMs) :
    (tracker.observe .playbackPaused surroundings).1.Mirrors nowMs
        (listening.hear (.paused trackId positionMs)).current ∧
      (tracker.observe .playbackPaused surroundings).2 = none := by
  generalize currentEq : listening.current = current at mirrors
  simp only [Listening.hear, currentEq]
  cases mirrors with
  | idle => exact ⟨.idle, rfl⟩
  | playing follows isPlaying played =>
    refine ⟨.paused ⟨follows.sameTrack, follows.startedNonneg,
      follows.playedNonneg, follows.noPauses⟩ rfl ?_ ?_,
      rfl⟩
    · rw [sameNow]
      exact played
    · exact le_of_eq sameNow
  | paused follows isPaused played pausedBefore =>
    exact ⟨.paused ⟨follows.sameTrack, follows.startedNonneg,
      follows.playedNonneg, follows.noPauses⟩ rfl played
      pausedBefore, rfl⟩

/-- A position tick leaves a mirrored pair mirrored. -/
theorem SessionState.Mirrors.tick {nowMs : Int}
    {tracker : SessionState} {current : Option ListeningPeriod}
    (positionMs : Nat) (surroundings : Surroundings)
    (mirrors : tracker.Mirrors nowMs current) :
    (tracker.observe (.positionTick positionMs) surroundings).1.Mirrors
        nowMs current ∧
      (tracker.observe (.positionTick positionMs) surroundings).2 =
        none := by
  cases mirrors with
  | idle => exact ⟨.idle, rfl⟩
  | playing follows isPlaying played =>
    exact ⟨.playing ⟨follows.sameTrack, follows.startedNonneg,
      follows.playedNonneg, follows.noPauses⟩ isPlaying
      played, rfl⟩
  | paused follows isPaused played pausedBefore =>
    exact ⟨.paused follows isPaused played pausedBefore, rfl⟩

/-- An idle tracker mirrors silence. -/
theorem SessionState.Mirrors.eq_idle {nowMs : Int}
    {tracker : SessionState} {current : Option ListeningPeriod}
    (mirrors : tracker.Mirrors nowMs current)
    (isIdle : tracker = .idle) : current = none := by
  cases mirrors with
  | idle => rfl
  | playing => cases isIdle
  | paused => cases isIdle

namespace ListenHistory

/-- The history after an event that records nothing. -/
theorem Faithful.quiet {history : ListenHistory} {nowMs : Int}
    {tracker : SessionState} {sessionCount : Nat} {listening : Listening}
    (faithful : history.Faithful) (ordered : history.nowMs ≤ nowMs)
    (bounded : nowMs < 2 ^ 63)
    (sameEnded : listening.ended = history.listening.ended)
    (mirrors : tracker.Mirrors nowMs listening.current) :
    Faithful
      { nowMs := nowMs, tracker := tracker,
        facts := history.facts ++ (none : Option ListenFact).toList,
        sessionCount := sessionCount, listening := listening } := by
  have nowNonneg := faithful.nowNonneg
  refine ⟨?_, bounded, ?_, mirrors⟩
  · simp only
    omega
  · simpa [sameEnded] using faithful.paired

/-- The history after a position tick. -/
theorem Faithful.ticked {history : ListenHistory} {nowMs : Int}
    {sessionCount : Nat} {surroundings : Surroundings}
    (faithful : history.Faithful) (ordered : history.nowMs ≤ nowMs)
    (bounded : nowMs < 2 ^ 63) (positionMs : Nat) :
    Faithful
      { nowMs := nowMs,
        tracker :=
          (history.tracker.observe (.positionTick positionMs) surroundings).1,
        facts := history.facts ++
          (history.tracker.observe (.positionTick positionMs)
            surroundings).2.toList,
        sessionCount := sessionCount,
        listening := history.listening.pass (nowMs - history.nowMs) } := by
  obtain ⟨ticked, nothing⟩ :=
    (faithful.mirrors.pass ordered).tick positionMs surroundings
  rw [nothing]
  exact faithful.quiet ordered bounded rfl ticked

/-- The history after an event that finalizes the session. -/
theorem Faithful.finalized {history : ListenHistory} {nowMs : Int}
    {sessionCount : Nat} {surroundings : Surroundings}
    (faithful : history.Faithful) (ordered : history.nowMs ≤ nowMs)
    (bounded : nowMs < 2 ^ 63) (sameNow : surroundings.nowMs = nowMs)
    (noTap : surroundings.audibleCounter = none)
    (counts : history.CountsNoPause nowMs) (reason : SkipReason) :
    Faithful
      { nowMs := nowMs, tracker := .idle,
        facts := history.facts ++
          (history.tracker.finalize reason surroundings).toList,
        sessionCount := sessionCount,
        listening :=
          (history.listening.pass (nowMs - history.nowMs)).finish } := by
  have nowNonneg := faithful.nowNonneg
  have recorded := (faithful.mirrors.pass ordered).finalize bounded sameNow
    noTap counts reason
  refine ⟨?_, bounded, ?_, .idle⟩
  · simp only
    omega
  · simp only [Listening.finish, List.map_append]
    rw [recorded]
    exact congrArg (· ++ _) faithful.paired

/-- One understood event keeps the account faithful. -/
theorem Faithful.step {cachedDurationMs : String → Option Nat}
    {history next : ListenHistory} {timed : TimedEvent}
    (faithful : history.Faithful) (understands : Understands history timed)
    (steps : (listenMachine cachedDurationMs).step history timed =
      some next) :
    next.Faithful := by
  simp only [listenMachine] at steps
  split at steps
  · rename_i arrives
    obtain ⟨ordered, bounded⟩ := arrives
    obtain ⟨event, nowMs, currentContext⟩ := timed
    have mirrors := faithful.mirrors.pass ordered
    have nowNonneg := faithful.nowNonneg
    simp only at ordered bounded mirrors
    cases steps
    cases event with
    | playing trackId positionMs =>
      obtain ⟨⟨uri, parsed⟩, isIdle⟩ := understands
      have silent := mirrors.eq_idle isIdle
      have sameUri : uri.asUri = trackId := by
        unfold parseSpotifyResourceUri at parsed
        split at parsed
        · cases parsed
        · rename_i read
          split at parsed
          · cases parsed
          · cases parsed
            exact ResourceUri.asUri_of_parse read
      simp only [translateLibrespotPlayerEvent, parsed,
        SessionState.observe, Listening.hear, silent]
      refine faithful.quiet ordered bounded rfl (.playing ?_ rfl ?_)
      · exact ⟨sameUri, by simp only [surroundingsAt]; omega, le_rfl, rfl⟩
      · simp [surroundingsAt]
    | paused trackId positionMs =>
      obtain ⟨paused, nothing⟩ := mirrors.pause
        (surroundingsAt cachedDurationMs history
          ⟨.paused trackId positionMs, nowMs, currentContext⟩)
        trackId positionMs rfl
      simp only [translateLibrespotPlayerEvent, nothing]
      exact faithful.quiet ordered bounded rfl paused
    | trackChanged audioItemUri =>
      obtain ⟨⟨uri, parsed⟩, counts⟩ := understands
      simp only [translateLibrespotPlayerEvent, parsed]
      exact faithful.finalized ordered bounded rfl rfl counts .userNext
    | endOfTrack trackId =>
      obtain ⟨⟨uri, parsed⟩, counts⟩ := understands
      simp only [translateLibrespotPlayerEvent, parsed]
      exact faithful.finalized ordered bounded rfl rfl counts .trackEnd
    | sessionDisconnected =>
      exact faithful.finalized ordered bounded rfl rfl understands .sessionDied
    | stopped trackId =>
      have silent := mirrors.eq_idle understands
      refine faithful.quiet ordered bounded ?_ ?_
      · simp only [Listening.hear, Listening.finish, silent]
        simp [Listening.pass]
      · rw [silent] at mirrors
        exact mirrors
    | positionChanged positionMs =>
      exact faithful.ticked ordered bounded positionMs
    | positionCorrection positionMs =>
      exact faithful.ticked ordered bounded positionMs
    | seeked positionMs =>
      exact faithful.ticked ordered bounded positionMs
    | timeToPreloadNextTrack trackId =>
      simp only [translateLibrespotPlayerEvent]
      split <;> exact faithful.quiet ordered bounded rfl mirrors
    | _ => exact faithful.quiet ordered bounded rfl mirrors
  · cases steps

theorem Faithful.initially : ListenHistory.initial.Faithful :=
  ⟨le_rfl, by decide, rfl, .idle⟩

/-- A finalizing event leaves no open period. -/
theorem settled_of_finalizes {cachedDurationMs : String → Option Nat}
    {history next : ListenHistory}
    {timed : TimedEvent} (finalizes : timed.event.finalizes = true)
    (steps : (listenMachine cachedDurationMs).step history timed =
      some next) :
    next.listening.current = none := by
  obtain ⟨event, nowMs, currentContext⟩ := timed
  simp only [listenMachine] at steps
  split at steps
  · cases steps
    cases event <;>
      first
      | rfl
      | cases finalizes
  · cases steps

/-- A faithful account without an open period is a complete record. -/
theorem Faithful.recorded {history : ListenHistory}
    (faithful : history.Faithful)
    (settled : history.listening.current = none) : history.Recorded := by
  have tracks := congrArg (List.map Prod.fst) faithful.paired
  have times := congrArg (List.map Prod.snd) faithful.paired
  simp only [List.map_map, Function.comp_def] at tracks times
  refine ⟨settled, tracks, ?_⟩
  have allEnded : history.listening.playedMs = history.listening.endedMs := by
    simp [Listening.playedMs, settled]
  rw [allEnded, Listening.endedMs]
  exact congrArg List.sum times

end ListenHistory

/-- Without a sink tap, every history of understood events that ends with a
finalizing one is recorded with one fact for each listening period and without
losing audible time. -/
theorem listens_recorded_of_understood
    (cachedDurationMs : String → Option Nat) (events : List TimedEvent)
    (last : TimedEvent) (final : ListenHistory)
    (runs : (listenMachine cachedDurationMs).run .initial
      (events ++ [last]) = some final)
    (understood : (listenMachine cachedDurationMs).StepsMeet
      ListenHistory.Understands .initial (events ++ [last]))
    (finalizes : last.event.finalizes = true) : final.Recorded := by
  have faithful : final.Faithful :=
    (listenMachine cachedDurationMs).run_preserves_of_stepsMeet
      (fun _ _ _ before understands steps => before.step understands steps)
      ListenHistory.Faithful.initially understood runs
  obtain ⟨middle, _, runLast⟩ :=
    (listenMachine cachedDurationMs).run_append_eq_some.mp runs
  obtain ⟨next, steps, rest⟩ :=
    (listenMachine cachedDurationMs).run_cons_eq_some.mp runLast
  cases rest
  exact faithful.recorded (ListenHistory.settled_of_finalizes finalizes steps)

/-- A first track is skipped and a second one is paused after a while. -/
def skippedAndPaused : List TimedEvent :=
  [⟨.playing "spotify:track:a" 0, 1000, none⟩,
    ⟨.trackChanged "spotify:track:b", 5000, none⟩,
    ⟨.playing "spotify:track:b" 0, 5000, none⟩,
    ⟨.paused "spotify:track:b" 2000, 7000, none⟩]

def endedAsPaused : TimedEvent := ⟨.endOfTrack "spotify:track:b", 7000, none⟩

/-- Ending the second track in the instant it is paused loses nothing. -/
theorem listens_recorded_two_tracks :
    ∃ final, (listenMachine fun _ => none).run .initial
        (skippedAndPaused ++ [endedAsPaused]) = some final ∧
      final.Recorded := by
  refine ⟨_, rfl, listens_recorded_of_understood (fun _ => none)
    skippedAndPaused endedAsPaused _ rfl ?_ rfl⟩
  refine .cons _ rfl ⟨⟨_, rfl⟩, rfl⟩ ?_
  refine .cons _ rfl ⟨⟨_, rfl⟩, nofun⟩ ?_
  refine .cons _ rfl ⟨⟨_, rfl⟩, rfl⟩ ?_
  refine .cons _ rfl trivial ?_
  refine .cons _ rfl ⟨⟨_, rfl⟩, ?_⟩ trivial
  rintro _ _ ⟨⟩
  rfl

/-- A paused and resumed track loses what was heard before the pause. -/
theorem listens_lost_by_resuming :
    ∃ final, (listenMachine fun _ => none).run .initial
        [⟨.playing "spotify:track:a" 0, 1000, none⟩,
          ⟨.paused "spotify:track:a" 1000, 2000, none⟩,
          ⟨.playing "spotify:track:a" 1000, 3000, none⟩,
          ⟨.endOfTrack "spotify:track:a", 4000, none⟩] = some final ∧
      final.facts.map ListenFact.audibleMs = [1000] ∧
      final.listening.ended.map ListeningPeriod.playedMs = [2000] ∧
      ¬final.Recorded := by
  refine ⟨_, rfl, rfl, rfl, ?_⟩
  intro recorded
  exact absurd recorded.nothingLost (by decide)

end Spotuify
