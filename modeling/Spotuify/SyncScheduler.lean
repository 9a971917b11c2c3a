import Spotuify.GuardedMachine
import Spotuify.Cooldowns
import Mathlib.Algebra.Ring.Nat
import Mathlib.Logic.Function.Basic

/-!
# The sync lanes of one provider

A fast and a slow lane run the sync targets of one provider and share a global
backoff: a 429 of any target trips it, and a success whose target started
under the current epoch resets it.  Each lane samples the time once per tick
and checks the shared backoff against that sample, before the tick and again
before some of its targets.  Times are milliseconds.  What makes a target due
is not modelled: every check may be followed by a run or not.
-/

namespace Spotuify

def backoffBase : Nat := 15 * 1000

def backoffMax : Nat := 2 * 60 * 1000

def globalBackoffBase : Nat := 60 * 1000

def globalBackoffMax : Nat := 10 * 60 * 1000

/-- The targets the lanes run. -/
inductive SyncTargetData where
  | playback
  | queue
  | devices
  | recent
  | playlists
  | library
  deriving DecidableEq

/-- What a target's sync ends with; a 429 may carry a `Retry-After`. -/
inductive SyncResult where
  | ok
  | rateLimited (retryAfter : Option Nat)
  | failed
  deriving DecidableEq

/-- The failures are a `u32` and the epoch a `u64`. -/
structure TargetBackoff where
  failures : Nat
  nextAllowed : Option Nat
  epoch : Nat
  deriving DecidableEq

namespace TargetBackoff

def default : TargetBackoff where
  failures := 0
  nextAllowed := none
  epoch := 0

variable (backoff : TargetBackoff)

def nextFailures : Nat := min (backoff.failures + 1) (2 ^ 32 - 1)

def nextEpoch : Nat := min (backoff.epoch + 1) (2 ^ 64 - 1)

def shouldRun (now : Nat) : Bool :=
  match backoff.nextAllowed with
  | none => true
  | some next => next ≤ now

def recordSuccess : TargetBackoff :=
  { backoff with failures := 0, nextAllowed := none }

def recordSuccessIfEpoch (observedEpoch : Nat) : TargetBackoff :=
  if backoff.epoch = observedEpoch then backoff.recordSuccess else backoff

/-- The daemon's own backoff after one more failure. -/
def escalated : Nat :=
  min (globalBackoffBase * 2 ^ min (backoff.nextFailures - 1) 4)
    globalBackoffMax

def noteRateLimit (now retryAfter : Nat) : TargetBackoff where
  failures := backoff.nextFailures
  epoch := backoff.nextEpoch
  nextAllowed :=
    some (now + min (max retryAfter backoff.escalated) globalBackoffMax)

/-- `record_failure` with its error. -/
def recordFailure (now : Nat) : SyncResult → TargetBackoff
  | .rateLimited retryAfter =>
    { backoff with
      failures := backoff.nextFailures,
      nextAllowed := some (now + retryAfter.getD backoffBase) }
  | _ =>
    { backoff with
      failures := backoff.nextFailures,
      nextAllowed := some (now + min
        (backoffBase * 2 ^ min (backoff.nextFailures - 1) 3) backoffMax) }

/-- A target's own backoff after its sync. -/
def afterSync (now : Nat) : SyncResult → TargetBackoff
  | .ok => backoff.recordSuccess
  | error => backoff.recordFailure now error

end TargetBackoff

/-- `rate_limit_retry_after` of a sync that ran. -/
def rateLimitRetryAfter : SyncResult → Option Nat
  | .rateLimited retryAfter => some (retryAfter.getD globalBackoffBase)
  | _ => none

/-- `record_global_at`. -/
def recordGlobalAt (global : TargetBackoff) (completedAt observedEpoch : Nat)
    (result : SyncResult) : TargetBackoff :=
  match rateLimitRetryAfter result with
  | some retry => global.noteRateLimit completedAt retry
  | none =>
    if result = .ok then global.recordSuccessIfEpoch observedEpoch else global

inductive SyncLane where
  | fast
  | slow
  deriving DecidableEq

def SyncLane.targets : SyncLane → List SyncTargetData
  | .fast => [.playback, .queue, .devices, .recent]
  | .slow => [.playlists, .library]

/-- The targets before which the fast lane checks the shared backoff again. -/
def SyncTargetData.checksAgain : SyncTargetData → Bool
  | .queue | .devices | .recent => true
  | .playback | .playlists | .library => false

/-- Where a lane is in its loop; `now` is the time its tick sampled. -/
inductive LanePhase where
  | idle
  | ticked (now : Nat)
  | considering (now : Nat) (remaining : List SyncTargetData)
  | permitted (now : Nat) (target : SyncTargetData) (remaining : List SyncTargetData)
  | syncing (now : Nat) (target : SyncTargetData) (epoch : Nat)
      (remaining : List SyncTargetData)

def LanePhase.sampled? : LanePhase → Option Nat
  | .idle => none
  | .ticked now | .considering now _ | .permitted now _ _
  | .syncing now _ _ _ => some now

/-- A 429 noted at a time with its `Retry-After`. -/
structure RateLimitNote where
  notedAt : Nat
  retryAfter : Nat
  deriving DecidableEq

def RateLimitNote.endsAt (note : RateLimitNote) : Nat :=
  note.notedAt + note.retryAfter

/-- A check of the shared backoff: when it was made, after how many noted
429s, and whether it let a target run. -/
structure MayRunCheck where
  notedBefore : Nat
  checkedAt : Nat
  allowed : Bool
  deriving DecidableEq

/-- The two lanes over their shared backoff, each target's own backoff, and
the 429s and checks so far, oldest first. -/
structure SyncScheduler where
  clock : Nat
  global : TargetBackoff
  targets : SyncTargetData → TargetBackoff
  lanes : SyncLane → LanePhase
  notes : List RateLimitNote
  checks : List MayRunCheck

inductive SchedulerAction where
  | elapse (time : Nat)
  | tick (lane : SyncLane)
  | checkTick (lane : SyncLane)
  | consider (lane : SyncLane) (due : Bool)
  | start (lane : SyncLane)
  | complete (lane : SyncLane) (result : SyncResult)
  | restart (lane : SyncLane)

namespace SyncScheduler

/-- The lanes as spawned, over a backoff that a persisted cooldown may have
seeded. -/
def started (clock : Nat) (global : TargetBackoff) : SyncScheduler where
  clock := clock
  global := global
  targets := fun _ => .default
  lanes := fun _ => .idle
  notes := []
  checks := []

variable (scheduler : SyncScheduler)

def setLane (lane : SyncLane) (phase : LanePhase) : SyncScheduler :=
  { scheduler with lanes := Function.update scheduler.lanes lane phase }

/-- Check the shared backoff against a sampled time. -/
def mayRun (now : Nat) : SyncScheduler :=
  { scheduler with
    checks := scheduler.checks ++
      [{ notedBefore := scheduler.notes.length,
         checkedAt := scheduler.clock,
         allowed := scheduler.global.shouldRun now }] }

/-- The end of a target's sync: its own backoff, then the shared one. -/
def completed (target : SyncTargetData) (epoch : Nat) (result : SyncResult) :
    SyncScheduler :=
  { scheduler with
    targets := Function.update scheduler.targets target
      ((scheduler.targets target).afterSync scheduler.clock result),
    global := recordGlobalAt scheduler.global scheduler.clock epoch result,
    notes := scheduler.notes ++
      (rateLimitRetryAfter result).toList.map fun retry =>
        { notedAt := scheduler.clock, retryAfter := retry } }

/-- After a 429 of the playlists the slow lane does not go on to the library. -/
def phaseAfter (target : SyncTargetData) (result : SyncResult) (now : Nat)
    (remaining : List SyncTargetData) : LanePhase :=
  if target = .playlists ∧ (rateLimitRetryAfter result).isSome then .idle
  else .considering now remaining

def step (scheduler : SyncScheduler) :
    SchedulerAction → Option SyncScheduler
  | .elapse time => some { scheduler with clock := scheduler.clock + time }
  | .tick lane =>
    match scheduler.lanes lane with
    | .idle => some (scheduler.setLane lane (.ticked scheduler.clock))
    | _ => none
  | .checkTick lane =>
    match scheduler.lanes lane with
    | .ticked now =>
      some ((scheduler.mayRun now).setLane lane
        (if scheduler.global.shouldRun now then
          .considering now lane.targets
        else .idle))
    | _ => none
  | .consider lane due =>
    match scheduler.lanes lane with
    | .considering _ [] => some (scheduler.setLane lane .idle)
    | .considering now (target :: remaining) =>
      if target.checksAgain then
        some ((scheduler.mayRun now).setLane lane
          (if scheduler.global.shouldRun now && due then
            .permitted now target remaining
          else .considering now remaining))
      else
        some (scheduler.setLane lane
          (if due then .permitted now target remaining
          else .considering now remaining))
    | _ => none
  | .start lane =>
    match scheduler.lanes lane with
    | .permitted now target remaining =>
      some (scheduler.setLane lane
        (if (scheduler.targets target).shouldRun scheduler.clock then
          .syncing now target scheduler.global.epoch remaining
        else .considering now remaining))
    | _ => none
  | .complete lane result =>
    match scheduler.lanes lane with
    | .syncing now target epoch remaining =>
      some ((scheduler.completed target epoch result).setLane lane
        (phaseAfter target result now remaining))
    | _ => none
  | .restart lane =>
    some
      { scheduler.setLane lane .idle with
        targets := fun target =>
          if target ∈ lane.targets then .default
          else scheduler.targets target }

def machine : GuardedMachine SyncScheduler SchedulerAction where
  step := step

/-- No check let a target run while a 429 noted before it was asking to
wait. -/
def HonoursRetryAfter : Prop :=
  ∀ check ∈ scheduler.checks, check.allowed = true →
    ∀ note ∈ scheduler.notes.take check.notedBefore,
      note.endsAt ≤ check.checkedAt

/-- The noted 429s have ended by a time. -/
def EndedBy (time : Nat) : Prop :=
  ∀ note ∈ scheduler.notes, note.endsAt ≤ time

/-- A completion does not cut a noted 429 short: its own `Retry-After` is not
above the cap, the pause it causes is not shorter than the ones still running,
and a success that resets the backoff comes after all of them. -/
def KeepsCooldown : SchedulerAction → Prop
  | .complete lane result =>
    match scheduler.lanes lane with
    | .syncing _ _ epoch _ =>
      match rateLimitRetryAfter result with
      | some retry =>
        retry ≤ globalBackoffMax ∧
          scheduler.EndedBy
            (scheduler.clock + max retry scheduler.global.escalated)
      | none =>
        result = .ok → scheduler.global.epoch = epoch →
          scheduler.EndedBy scheduler.clock
    | _ => True
  | _ => True

instance (time : Nat) : Decidable (scheduler.EndedBy time) :=
  inferInstanceAs (Decidable (∀ note ∈ scheduler.notes, _))

instance (action : SchedulerAction) :
    Decidable (scheduler.KeepsCooldown action) := by
  cases action with
  | complete lane result =>
    unfold KeepsCooldown
    dsimp only
    split
    · split <;> infer_instance
    · infer_instance
  | _ => exact isTrue trivial

variable {scheduler} {next : SyncScheduler}

/-- When the noted 429s end. -/
def deadlines (scheduler : SyncScheduler) : Set Nat :=
  { time | ∃ note ∈ scheduler.notes, note.endsAt = time }

/-- The noted 429s a check came after have ended by a time. -/
def SeenEndedBy (scheduler : SyncScheduler) (notedBefore time : Nat) :
    Prop :=
  notedBefore ≤ scheduler.notes.length ∧
    ∀ note ∈ scheduler.notes.take notedBefore, note.endsAt ≤ time

/-- The shared backoff covers the noted 429s, the lanes sampled no later time
than the present one, and no check let a target run too early. -/
structure Covered (scheduler : SyncScheduler) : Prop where
  stored : Cooldown.Covers scheduler.global.nextAllowed scheduler.clock
    scheduler.deadlines
  sampled : ∀ lane now, (scheduler.lanes lane).sampled? = some now →
    now ≤ scheduler.clock
  checked : ∀ check ∈ scheduler.checks, check.allowed = true →
    scheduler.SeenEndedBy check.notedBefore check.checkedAt

theorem started_covered (clock : Nat) (global : TargetBackoff) :
    (started clock global).Covered := by
  constructor
  · rintro deadline ⟨note, member, _⟩
    cases member
  · intro lane now sampled
    cases sampled
  · intro check member
    cases member

theorem Covered.honours (covered : scheduler.Covered) :
    scheduler.HonoursRetryAfter := by
  intro check member allowed note seen
  exact (covered.checked check member allowed).2 note seen

theorem shouldRun_eq_true {backoff : TargetBackoff} {now : Nat} :
    backoff.shouldRun now = true ↔
      Cooldown.OpenAt backoff.nextAllowed now := by
  unfold TargetBackoff.shouldRun Cooldown.OpenAt
  cases backoff.nextAllowed <;> simp

/-- A lane may change its phase as long as it keeps its sample. -/
theorem Covered.setLane (covered : scheduler.Covered) {lane : SyncLane}
    {phase : LanePhase}
    (sampled : ∀ now, phase.sampled? = some now → now ≤ scheduler.clock) :
    (scheduler.setLane lane phase).Covered := by
  refine ⟨covered.stored, ?_, covered.checked⟩
  intro other now
  unfold SyncScheduler.setLane
  by_cases same : other = lane
  · subst same
    dsimp only
    rw [Function.update_self]
    exact sampled now
  · dsimp only
    rw [Function.update_of_ne same]
    exact covered.sampled other now

/-- A check against a past sample that lets a target run is late for every
noted 429. -/
theorem Covered.mayRun (covered : scheduler.Covered) {now : Nat}
    (past : now ≤ scheduler.clock) : (scheduler.mayRun now).Covered := by
  refine ⟨covered.stored, covered.sampled, ?_⟩
  intro check member allowed
  rcases List.mem_append.mp member with old | new
  · exact covered.checked check old allowed
  · cases List.mem_singleton.mp new
    refine ⟨Nat.le_refl _, ?_⟩
    intro note seen
    dsimp only at seen ⊢
    have recorded : note ∈ scheduler.notes := List.mem_of_mem_take seen
    apply covered.stored.le_of_openAt (Nat.le_refl _)
    · intro stored storedEq
      exact (shouldRun_eq_true.mp allowed stored storedEq).trans past
    · exact ⟨note, recorded, rfl⟩

/-- Noting more 429s does not change what a check came after. -/
theorem SeenEndedBy.append {notedBefore time : Nat}
    (seen : scheduler.SeenEndedBy notedBefore time) {later : SyncScheduler}
    {added : List RateLimitNote}
    (noted : later.notes = scheduler.notes ++ added) :
    later.SeenEndedBy notedBefore time := by
  obtain ⟨inRange, ended⟩ := seen
  constructor
  · rw [noted, List.length_append]
    omega
  · rw [noted, List.take_append_of_le_length inRange]
    exact ended

/-- What the end of a sync does to the shared backoff. -/
theorem completed_stored (covered : scheduler.Covered)
    {target : SyncTargetData} {epoch : Nat} {result : SyncResult}
    (limited : ∀ retry, rateLimitRetryAfter result = some retry →
      retry ≤ globalBackoffMax ∧ scheduler.EndedBy
        (scheduler.clock + max retry scheduler.global.escalated))
    (reset : rateLimitRetryAfter result = none → result = .ok →
      scheduler.global.epoch = epoch →
        scheduler.EndedBy scheduler.clock) :
    Cooldown.Covers (scheduler.completed target epoch result).global.nextAllowed
      scheduler.clock (scheduler.completed target epoch result).deadlines := by
  unfold completed recordGlobalAt deadlines
  dsimp only
  cases noted : rateLimitRetryAfter result with
  | some retry =>
    obtain ⟨capped, longest⟩ := limited retry noted
    -- The cap does not shorten the pause: neither part of it is above.
    have pause : min (max retry scheduler.global.escalated) globalBackoffMax =
        max retry scheduler.global.escalated := by
      apply Nat.min_eq_left
      exact Nat.max_le.mpr ⟨capped, Nat.min_le_right _ _⟩
    dsimp only [TargetBackoff.noteRateLimit]
    rw [pause]
    rintro deadline ⟨note, member, rfl⟩
    refine Or.inr ⟨_, rfl, ?_⟩
    rcases List.mem_append.mp member with old | new
    · exact longest note old
    · obtain ⟨_, isRetry, rfl⟩ := List.mem_map.mp new
      cases Option.mem_toList.mp isRetry
      exact Nat.add_le_add_left (Nat.le_max_left _ _) _
  | none =>
    rw [Option.toList_none, List.map_nil, List.append_nil]
    dsimp only
    by_cases succeeded : result = .ok
    · rw [if_pos succeeded]
      unfold TargetBackoff.recordSuccessIfEpoch
      by_cases current : scheduler.global.epoch = epoch
      · rw [if_pos current]
        apply Cooldown.covers_clear
        rintro deadline ⟨note, member, rfl⟩
        exact reset noted succeeded current note member
      · rw [if_neg current]
        exact covered.stored
    · rw [if_neg succeeded]
      exact covered.stored

theorem Covered.completed (covered : scheduler.Covered) {lane : SyncLane}
    {now : Nat} {target : SyncTargetData} {epoch : Nat}
    {remaining : List SyncTargetData} {result : SyncResult}
    (syncing : scheduler.lanes lane = .syncing now target epoch remaining)
    (keeps : scheduler.KeepsCooldown (.complete lane result)) :
    (scheduler.completed target epoch result).Covered := by
  simp only [KeepsCooldown, syncing] at keeps
  refine ⟨?_, covered.sampled, ?_⟩
  · apply completed_stored covered
    · intro retry noted
      rw [noted] at keeps
      exact keeps
    · intro noted
      rw [noted] at keeps
      exact keeps
  · intro check member allowed
    exact (covered.checked check member allowed).append rfl

theorem Covered.step {action : SchedulerAction} (covered : scheduler.Covered)
    (keeps : scheduler.KeepsCooldown action)
    (steps : scheduler.step action = some next) : next.Covered := by
  cases action with
  | elapse time =>
    cases steps
    refine ⟨covered.stored.of_le (Nat.le_add_right _ _), ?_,
      covered.checked⟩
    intro lane now sampled
    exact (covered.sampled lane now sampled).trans (Nat.le_add_right _ _)
  | tick lane =>
    cases phase : scheduler.lanes lane with
    | idle =>
      simp only [SyncScheduler.step, phase] at steps
      cases steps
      apply covered.setLane
      rintro now ⟨⟩
      exact Nat.le_refl _
    | _ => simp [SyncScheduler.step, phase] at steps
  | checkTick lane =>
    cases phase : scheduler.lanes lane with
    | ticked now =>
      simp only [SyncScheduler.step, phase] at steps
      cases steps
      have past := covered.sampled lane now (by rw [phase]; rfl)
      apply (covered.mayRun past).setLane
      intro sampled
      split
      · rintro ⟨⟩
        exact past
      · rintro ⟨⟩
    | _ => simp [SyncScheduler.step, phase] at steps
  | consider lane due =>
    cases phase : scheduler.lanes lane with
    | considering now remaining =>
      have past := covered.sampled lane now (by rw [phase]; rfl)
      cases remaining with
      | nil =>
        simp only [SyncScheduler.step, phase] at steps
        cases steps
        apply covered.setLane
        rintro sampled ⟨⟩
      | cons target remaining =>
        simp only [SyncScheduler.step, phase] at steps
        split at steps
        · cases steps
          apply (covered.mayRun past).setLane
          intro sampled
          split <;>
          · rintro ⟨⟩
            exact past
        · cases steps
          apply covered.setLane
          intro sampled
          split <;>
          · rintro ⟨⟩
            exact past
    | _ => simp [SyncScheduler.step, phase] at steps
  | start lane =>
    cases phase : scheduler.lanes lane with
    | permitted now target remaining =>
      have past := covered.sampled lane now (by rw [phase]; rfl)
      simp only [SyncScheduler.step, phase] at steps
      cases steps
      apply covered.setLane
      intro sampled
      split <;>
      · rintro ⟨⟩
        exact past
    | _ => simp [SyncScheduler.step, phase] at steps
  | complete lane result =>
    cases phase : scheduler.lanes lane with
    | syncing now target epoch remaining =>
      have past := covered.sampled lane now (by rw [phase]; rfl)
      simp only [SyncScheduler.step, phase] at steps
      cases steps
      apply (covered.completed phase keeps).setLane
      intro sampled
      unfold phaseAfter
      split
      · rintro ⟨⟩
      · rintro ⟨⟩
        exact past
    | _ => simp [SyncScheduler.step, phase] at steps
  | restart lane =>
    cases steps
    have changed : (scheduler.setLane lane .idle).Covered :=
      covered.setLane (by rintro now ⟨⟩)
    exact ⟨changed.stored, changed.sampled, changed.checked⟩

end SyncScheduler

/-- No completion cuts a noted 429 short, so no check lets a target run before
its `Retry-After` has passed. -/
theorem retryAfter_honoured (clock : Nat) (global : TargetBackoff)
    {actions : List SchedulerAction} {scheduler : SyncScheduler}
    (keeps : SyncScheduler.machine.StepsMeet SyncScheduler.KeepsCooldown
      (.started clock global) actions)
    (runs : SyncScheduler.machine.run (.started clock global) actions =
      some scheduler) :
    scheduler.HonoursRetryAfter := by
  have covered : scheduler.Covered :=
    SyncScheduler.machine.run_preserves_of_stepsMeet
      (fun _ _ _ holds keeps steps => holds.step keeps steps)
      (SyncScheduler.started_covered clock global) keeps runs
  exact covered.honours

/-- The first target of a lane's tick is checked and started. -/
def startFirst (lane : SyncLane) : List SchedulerAction :=
  [.tick lane, .checkTick lane, .consider lane true, .start lane]

/-- The playlists are rate limited for two minutes; the fast lane, which waits
for them, then succeeds. -/
def patientLanes : List SchedulerAction :=
  startFirst .slow ++
    [.complete .slow (.rateLimited (some 120000)), .elapse 120000] ++
    startFirst .fast ++ [.complete .fast .ok]

theorem retryAfter_honoured_patientLanes :
    ∃ scheduler, SyncScheduler.machine.run (.started 0 .default)
        patientLanes = some scheduler ∧
      (⟨1, 120000, true⟩ : MayRunCheck) ∈ scheduler.checks ∧
      scheduler.notes.length = 1 ∧ scheduler.HonoursRetryAfter := by
  refine ⟨_, rfl, by decide, rfl, ?_⟩
  exact @retryAfter_honoured 0 .default patientLanes _ (by decide +kernel) rfl

/-- Both lanes are rate limited, the playback for ten minutes and then the
playlists for half a minute; two minutes later the slow lane runs again. -/
def shortenedCooldown : List SchedulerAction :=
  startFirst .fast ++ startFirst .slow ++
    [.complete .fast (.rateLimited (some 600000)),
      .complete .slow (.rateLimited (some 30000)), .elapse 130000] ++
    startFirst .slow

theorem shortenedCooldown_not_honoured :
    ¬ ∀ actions scheduler, SyncScheduler.machine.run (.started 0 .default)
        actions = some scheduler → scheduler.HonoursRetryAfter := by
  intro claimed
  have honours := claimed shortenedCooldown _ rfl
  have ended := honours ⟨2, 130000, true⟩ (by decide) rfl ⟨0, 600000⟩
    (by decide)
  exact absurd ended (by decide)

end Spotuify
