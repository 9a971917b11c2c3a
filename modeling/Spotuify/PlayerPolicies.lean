import Spotuify.GuardedMachine
import Spotuify.OperationLog
import Mathlib.Algebra.Ring.Nat
import Mathlib.Logic.Function.Basic

/-!
# Provider policies and their barriers

A provider policy blocks local playback until an operation that started after
the policy was seen succeeds.  Every operation takes a barrier when it starts,
and its success clears the policy only if the policy's generation is still the
barrier's.  Reports of the same reason are collapsed for a short window, which
also drops a stale repeat of a reason that a newer one has replaced.  The
redaction of a reason is a parameter: nothing here depends on it.
-/

namespace Spotuify

structure ActivePlayerPolicy where
  reason : String
  generation : Nat
  deriving DecidableEq

structure PlayerPolicyBarrier where
  provider : ProviderId
  generation : Option Nat
  deriving DecidableEq

/-- `recent` holds when a reason was last reported as new. -/
structure PlayerPolicyState where
  active : ProviderId → Option ActivePlayerPolicy
  recent : ProviderId → String → Option Nat
  nextGeneration : Nat

def policyDedupWindowMs : Nat := 30000

/-- Generations are `u64` and wrap. -/
def policyGenerations : Nat := 2 ^ 64

namespace PlayerPolicyState

def initial : PlayerPolicyState where
  active := fun _ => none
  recent := fun _ _ => none
  nextGeneration := 0

variable (sanitize : String → String) (state : PlayerPolicyState)

/-- The reasons still remembered at a time. -/
def recentAt (now : Nat) (provider : ProviderId) (reason : String) :
    Option Nat :=
  (state.recent provider reason).filter fun seen =>
    now - seen < policyDedupWindowMs

/-- Activate a reason under the next generation. -/
def activate (provider : ProviderId) (reason : String) :
    PlayerPolicyState :=
  let generation := (state.nextGeneration + 1) % policyGenerations
  { state with
    active := Function.update state.active provider
      (some { reason := reason, generation := generation }),
    nextGeneration := generation }

/-- A repeat inside the window of a reason that is not the active one. -/
def isStaleRepeat (provider : ProviderId) (reason : String)
    (now : Nat) : Bool :=
  (state.recentAt now provider reason).isSome &&
    decide ((state.active provider).map ActivePlayerPolicy.reason ≠
      some reason)

/-- `emit_for_provider`; the flag is whether the event was emitted. -/
def emitForProvider (provider : ProviderId) (reason : String) (now : Nat) :
    PlayerPolicyState × Bool :=
  let reason := sanitize reason
  let pruned : PlayerPolicyState := { state with recent := state.recentAt now }
  if (pruned.recent provider reason).isSome then
    if (pruned.active provider).any fun active => active.reason = reason then
      (pruned.activate provider reason, false)
    else (pruned, false)
  else
    let remembered : PlayerPolicyState :=
      { pruned with
        recent := Function.update pruned.recent provider
          (Function.update (pruned.recent provider) reason (some now)) }
    (remembered.activate provider reason, true)

/-- `barrier_for_provider`. -/
def barrierForProvider (provider : ProviderId) : PlayerPolicyBarrier where
  provider := provider
  generation := (state.active provider).map ActivePlayerPolicy.generation

/-- `clear_if_unchanged`; the flag is whether the policy was cleared. -/
def clearIfUnchanged (barrier : PlayerPolicyBarrier) :
    PlayerPolicyState × Bool :=
  match state.active barrier.provider with
  | none => (state, false)
  | some active =>
    if some active.generation ≠ barrier.generation then (state, false)
    else
      ({ state with
          active := Function.update state.active barrier.provider none,
          recent := Function.update state.recent barrier.provider
            fun _ => none },
        true)

end PlayerPolicyState

/-- What happened to the policies, as reports and successful clears. -/
inductive PolicyEvent where
  | reported (provider : ProviderId) (reason : String) (stale : Bool)
  | cleared (provider : ProviderId)
  deriving DecidableEq

/-- The policies, the barriers taken so far with the length of the history at
that time, and the history, newest event first. -/
structure PolicySystem where
  policy : PlayerPolicyState
  barriers : List (PlayerPolicyBarrier × Nat)
  history : List PolicyEvent

inductive PolicyAction where
  | emit (provider : ProviderId) (reason : String) (now : Nat)
  | barrier (provider : ProviderId)
  | clear (index : Nat)

/-- The reason a provider reported last since its last successful clear, stale
repeats not counted. -/
def lastReported (provider : ProviderId) : List PolicyEvent → Option String
  | [] => none
  | .reported other reason stale :: older =>
    if other = provider ∧ stale = false then some reason
    else lastReported provider older
  | .cleared other :: older =>
    if other = provider then none else lastReported provider older

/-- How many reports a history holds. -/
def reportCount (history : List PolicyEvent) : Nat :=
  history.countP fun
    | .reported .. => true
    | .cleared _ => false

namespace PolicySystem

def initial : PolicySystem where
  policy := .initial
  barriers := []
  history := []

variable (sanitize : String → String) (system : PolicySystem)

/-- The events since the history had a length. -/
def eventsSince (length : Nat) : List PolicyEvent :=
  system.history.take (system.history.length - length)

def step (system : PolicySystem) : PolicyAction → Option PolicySystem
  | .emit provider reason now =>
    some
      { system with
        policy := (system.policy.emitForProvider sanitize provider reason
          now).1,
        history := .reported provider (sanitize reason)
          (system.policy.isStaleRepeat provider (sanitize reason) now) ::
            system.history }
  | .barrier provider =>
    some
      { system with
        barriers := system.barriers ++
          [(system.policy.barrierForProvider provider,
            system.history.length)] }
  | .clear index =>
    match system.barriers[index]? with
    | none => none
    | some (barrier, _) =>
      let cleared := system.policy.clearIfUnchanged barrier
      some
        { system with
          policy := cleared.1,
          history :=
            if cleared.2 then .cleared barrier.provider :: system.history
            else system.history }

def machine : GuardedMachine PolicySystem PolicyAction where
  step := step sanitize

end PolicySystem

namespace PlayerPolicyState

variable {sanitize : String → String} {state : PlayerPolicyState}
  {provider : ProviderId} {reason : String} {now : Nat}

/-- A stale repeat only forgets old reasons. -/
theorem emitForProvider_of_stale
    (stale : state.isStaleRepeat provider (sanitize reason) now = true) :
    (state.emitForProvider sanitize provider reason now).1 =
      { state with recent := state.recentAt now } := by
  simp only [isStaleRepeat, Bool.and_eq_true, decide_eq_true_eq] at stale
  obtain ⟨remembered, notActive⟩ := stale
  have inactive : ((state.active provider).any fun active =>
      active.reason = sanitize reason) = false := by
    cases active : state.active provider with
    | none => rfl
    | some active' => simpa [active] using notActive
  simp [emitForProvider, remembered, inactive]

/-- Any other report becomes the active policy under a new generation. -/
theorem emitForProvider_of_fresh
    (fresh : state.isStaleRepeat provider (sanitize reason) now = false) :
    (state.emitForProvider sanitize provider reason now).1.active =
        Function.update state.active provider
          (some
            { reason := sanitize reason,
              generation := (state.nextGeneration + 1) % policyGenerations }) ∧
      (state.emitForProvider sanitize provider reason now).1.nextGeneration =
        (state.nextGeneration + 1) % policyGenerations := by
  cases remembered : (state.recentAt now provider (sanitize reason)).isSome with
  | false => simp [emitForProvider, remembered, activate]
  | true =>
    have isActive : ((state.active provider).any fun active =>
        active.reason = sanitize reason) = true := by
      simp only [isStaleRepeat, remembered, Bool.true_and,
        decide_eq_false_iff_not, not_not, Option.map_eq_some_iff] at fresh
      obtain ⟨active, activeEq, reasonEq⟩ := fresh
      simp [activeEq, reasonEq]
    simp [emitForProvider, remembered, isActive, activate]

/-- A clear that fails changes nothing. -/
theorem clearIfUnchanged_of_false {barrier : PlayerPolicyBarrier}
    (refused : (state.clearIfUnchanged barrier).2 = false) :
    (state.clearIfUnchanged barrier).1 = state := by
  unfold clearIfUnchanged at refused ⊢
  cases active : state.active barrier.provider with
  | none => simp
  | some policy =>
    by_cases same : some policy.generation = barrier.generation
    · simp [active, same] at refused
    · simp [same]

/-- A clear that succeeds found the barrier's generation active, and removes
that provider's policy and remembered reasons only. -/
theorem clearIfUnchanged_of_true {barrier : PlayerPolicyBarrier}
    (succeeded : (state.clearIfUnchanged barrier).2 = true) :
    (∃ policy, state.active barrier.provider = some policy ∧
        barrier.generation = some policy.generation) ∧
      (state.clearIfUnchanged barrier).1 =
        { state with
          active := Function.update state.active barrier.provider none,
          recent := Function.update state.recent barrier.provider
            fun _ => none } := by
  unfold clearIfUnchanged at succeeded ⊢
  cases active : state.active barrier.provider with
  | none => simp [active] at succeeded
  | some policy =>
    by_cases same : some policy.generation = barrier.generation
    · simp [same]
    · simp [active, same] at succeeded

/-- No clear touches another provider. -/
theorem clearIfUnchanged_other (state : PlayerPolicyState)
    (barrier : PlayerPolicyBarrier) {other : ProviderId}
    (different : other ≠ barrier.provider) :
    (state.clearIfUnchanged barrier).1.active other = state.active other ∧
      (state.clearIfUnchanged barrier).1.recent other =
        state.recent other := by
  cases outcome : (state.clearIfUnchanged barrier).2 with
  | false =>
    rw [clearIfUnchanged_of_false outcome]
    exact ⟨rfl, rfl⟩
  | true =>
    rw [(clearIfUnchanged_of_true outcome).2]
    exact ⟨Function.update_of_ne different _ _,
      Function.update_of_ne different _ _⟩

end PlayerPolicyState

namespace PolicySystem

variable {sanitize : String → String} {system next : PolicySystem}

/-- The active policies are the last ones reported. -/
def ActiveIsLast (system : PolicySystem) : Prop :=
  ∀ provider,
    (system.policy.active provider).map ActivePlayerPolicy.reason =
      lastReported provider system.history

/-- Generations count the reports that became active, and a barrier whose
generation is still active saw every such report of its provider. -/
structure GenerationsFresh (system : PolicySystem) : Prop where
  counted : system.policy.nextGeneration ≤ reportCount system.history
  activeOld : ∀ provider policy,
    system.policy.active provider = some policy →
      policy.generation ≤ system.policy.nextGeneration
  barrierOld : ∀ barrier taken, (barrier, taken) ∈ system.barriers →
    taken ≤ system.history.length ∧
      ∀ generation, barrier.generation = some generation →
        generation ≤ system.policy.nextGeneration
  barrierSaw : ∀ barrier taken, (barrier, taken) ∈ system.barriers →
    ∀ policy, system.policy.active barrier.provider = some policy →
      barrier.generation = some policy.generation →
        ∀ reason, .reported barrier.provider reason false ∉
          system.eventsSince taken

theorem ActiveIsLast.step {action : PolicyAction}
    (holds : system.ActiveIsLast)
    (steps : system.step sanitize action = some next) :
    next.ActiveIsLast := by
  intro other
  cases action with
  | emit provider reason now =>
    cases steps
    dsimp only
    cases stale : system.policy.isStaleRepeat provider (sanitize reason) now with
    | true =>
      rw [PlayerPolicyState.emitForProvider_of_stale stale, lastReported,
        if_neg (by simp)]
      exact holds other
    | false =>
      rw [(PlayerPolicyState.emitForProvider_of_fresh stale).1, lastReported]
      by_cases same : provider = other
      · simp [same]
      · rw [Function.update_of_ne (Ne.symm same), if_neg (by simp [same])]
        exact holds other
  | barrier provider =>
    cases steps
    exact holds other
  | clear index =>
    simp only [PolicySystem.step] at steps
    split at steps
    · cases steps
    · rename_i barrier taken _
      cases steps
      dsimp only
      cases outcome : (system.policy.clearIfUnchanged barrier).2 with
      | false =>
        rw [PlayerPolicyState.clearIfUnchanged_of_false outcome]
        exact holds other
      | true =>
        rw [(PlayerPolicyState.clearIfUnchanged_of_true outcome).2, if_pos rfl,
          lastReported]
        dsimp only
        by_cases same : barrier.provider = other
        · simp [same]
        · rw [Function.update_of_ne (Ne.symm same), if_neg same]
          exact holds other

/-- A later event is one of the events since a barrier. -/
private theorem mem_eventsSince_cons {event newest : PolicyEvent}
    {history : List PolicyEvent} {taken : Nat}
    (inRange : taken ≤ history.length)
    (member : event ∈ (newest :: history).take
      ((newest :: history).length - taken)) :
    event = newest ∨ event ∈ history.take (history.length - taken) := by
  rw [List.length_cons, Nat.succ_sub inRange, List.take_succ_cons] at member
  exact List.mem_cons.mp member

/-- A repeated report changes nothing but the history. -/
theorem GenerationsFresh.emit_stale {provider : ProviderId} {reason : String}
    {now : Nat} (holds : system.GenerationsFresh)
    (steps : system.step sanitize (.emit provider reason now) = some next)
    (stale : system.policy.isStaleRepeat provider (sanitize reason) now =
      true) :
    next.GenerationsFresh := by
  cases steps
  have oneMore : reportCount (.reported provider (sanitize reason) true ::
      system.history) = reportCount system.history + 1 := by
    simp [reportCount]
  have counted := holds.counted
  have kept := PlayerPolicyState.emitForProvider_of_stale stale
  constructor
  · rw [kept]
    dsimp only
    rw [stale]
    omega
  · rw [kept]
    exact holds.activeOld
  · rw [kept]
    intro barrier taken member
    obtain ⟨inRange, old⟩ := holds.barrierOld barrier taken member
    exact ⟨Nat.le_succ_of_le inRange, old⟩
  · rw [kept]
    intro barrier taken member policy active same later later'
    have inRange := (holds.barrierOld barrier taken member).1
    rcases mem_eventsSince_cons inRange later' with new | old
    · rw [stale] at new
      cases new
    · exact holds.barrierSaw barrier taken member policy active same later
        old

/-- Without a wrap the generation of a new report is larger than all before. -/
theorem GenerationsFresh.emit_fresh {provider : ProviderId} {reason : String}
    {now : Nat} (holds : system.GenerationsFresh)
    (steps : system.step sanitize (.emit provider reason now) = some next)
    (stale : system.policy.isStaleRepeat provider (sanitize reason) now = false)
    (unwrapped : reportCount next.history < policyGenerations) :
    next.GenerationsFresh := by
  cases steps
  dsimp only at unwrapped
  have oneMore : reportCount (.reported provider (sanitize reason)
      (system.policy.isStaleRepeat provider (sanitize reason) now) ::
        system.history) = reportCount system.history + 1 := by
    simp [reportCount]
  have counted := holds.counted
  obtain ⟨activeEq, generationEq⟩ :=
    PlayerPolicyState.emitForProvider_of_fresh stale
  -- No wrap has happened yet, so the new generation is larger than all.
  have noWrap : (system.policy.nextGeneration + 1) % policyGenerations =
      system.policy.nextGeneration + 1 := by
    apply Nat.mod_eq_of_lt
    rw [oneMore] at unwrapped
    omega
  rw [noWrap] at activeEq generationEq
  constructor
  · rw [generationEq]
    dsimp only
    omega
  · intro other policy active
    rw [activeEq] at active
    rw [generationEq]
    by_cases same : other = provider
    · subst same
      rw [Function.update_self] at active
      cases active
      exact Nat.le_refl _
    · rw [Function.update_of_ne same] at active
      exact Nat.le_succ_of_le (holds.activeOld other policy active)
  · intro barrier taken member
    obtain ⟨inRange, old⟩ := holds.barrierOld barrier taken member
    refine ⟨Nat.le_succ_of_le inRange, ?_⟩
    intro generation generationIs
    rw [generationEq]
    exact Nat.le_succ_of_le (old generation generationIs)
  · intro barrier taken member policy active same later later'
    obtain ⟨inRange, old⟩ := holds.barrierOld barrier taken member
    rw [activeEq] at active
    by_cases sameProvider : barrier.provider = provider
    · rw [sameProvider, Function.update_self] at active
      cases active
      have tooOld : system.policy.nextGeneration + 1 ≤
          system.policy.nextGeneration := old _ same
      omega
    · rw [Function.update_of_ne sameProvider] at active
      rcases mem_eventsSince_cons inRange later' with new | earlier
      · rw [stale] at new
        cases new
        exact sameProvider rfl
      · exact holds.barrierSaw barrier taken member policy active same
          later earlier

theorem GenerationsFresh.barrier {provider : ProviderId}
    (holds : system.GenerationsFresh)
    (steps : system.step sanitize (.barrier provider) = some next) :
    next.GenerationsFresh := by
  cases steps
  have fresh : ∀ barrier taken, (barrier, taken) ∈ system.barriers ++
      [(system.policy.barrierForProvider provider,
        system.history.length)] →
      (barrier, taken) ∈ system.barriers ∨
        (barrier = system.policy.barrierForProvider provider ∧
          taken = system.history.length) := by
    intro barrier taken member
    rcases List.mem_append.mp member with old | new
    · exact Or.inl old
    · cases List.mem_singleton.mp new
      exact Or.inr ⟨rfl, rfl⟩
  constructor
  · exact holds.counted
  · exact holds.activeOld
  · intro barrier taken member
    rcases fresh barrier taken member with old | ⟨rfl, rfl⟩
    · exact holds.barrierOld barrier taken old
    · refine ⟨Nat.le_refl _, ?_⟩
      intro generation generationIs
      obtain ⟨policy, active, rfl⟩ := Option.map_eq_some_iff.mp generationIs
      exact holds.activeOld provider policy active
  · intro barrier taken member
    rcases fresh barrier taken member with old | ⟨rfl, rfl⟩
    · exact holds.barrierSaw barrier taken old
    · intro policy _ _ reason later
      simp [eventsSince] at later

theorem GenerationsFresh.clear {index : Nat}
    (holds : system.GenerationsFresh)
    (steps : system.step sanitize (.clear index) = some next) :
    next.GenerationsFresh := by
  simp only [PolicySystem.step] at steps
  split at steps
  · cases steps
  · rename_i cleared _ _
    cases steps
    cases outcome : (system.policy.clearIfUnchanged cleared).2 with
    | false =>
      rw [PlayerPolicyState.clearIfUnchanged_of_false outcome]
      exact ⟨holds.counted, holds.activeOld, holds.barrierOld,
        holds.barrierSaw⟩
    | true =>
      rw [(PlayerPolicyState.clearIfUnchanged_of_true outcome).2, if_pos rfl]
      have stillActive : ∀ provider policy,
          Function.update system.policy.active cleared.provider none
            provider = some policy →
          system.policy.active provider = some policy := by
        intro provider policy active
        by_cases same : provider = cleared.provider
        · rw [same, Function.update_self] at active
          cases active
        · rwa [Function.update_of_ne same] at active
      constructor
      · have : reportCount (.cleared cleared.provider :: system.history) =
            reportCount system.history := by
          simp [reportCount]
        rw [this]
        exact holds.counted
      · intro provider policy active
        exact holds.activeOld provider policy
          (stillActive provider policy active)
      · intro barrier taken member
        obtain ⟨inRange, old⟩ := holds.barrierOld barrier taken member
        exact ⟨Nat.le_succ_of_le inRange, old⟩
      · intro barrier taken member policy active same reason later
        have inRange := (holds.barrierOld barrier taken member).1
        rcases mem_eventsSince_cons inRange later with new | earlier
        · cases new
        · exact holds.barrierSaw barrier taken member policy
            (stillActive _ _ active) same reason earlier

theorem GenerationsFresh.step {action : PolicyAction}
    (holds : system.GenerationsFresh)
    (steps : system.step sanitize action = some next)
    (unwrapped : reportCount next.history < policyGenerations) :
    next.GenerationsFresh := by
  cases action with
  | emit provider reason now =>
    cases stale : system.policy.isStaleRepeat provider (sanitize reason) now with
    | true => exact holds.emit_stale steps stale
    | false => exact holds.emit_fresh steps stale unwrapped
  | barrier provider => exact holds.barrier steps
  | clear index => exact holds.clear steps

/-- Reports are never forgotten. -/
theorem reportCount_step {action : PolicyAction}
    (steps : system.step sanitize action = some next) :
    reportCount system.history ≤ reportCount next.history := by
  cases action with
  | emit provider reason now =>
    cases steps
    simp [reportCount]
  | barrier provider =>
    cases steps
    exact Nat.le_refl _
  | clear index =>
    simp only [PolicySystem.step] at steps
    split at steps
    · cases steps
    · cases steps
      dsimp only
      split
      · simp [reportCount]
      · exact Nat.le_refl _

theorem run_reportCount {actions : List PolicyAction}
    (runs : (machine sanitize).run system actions = some next) :
    reportCount system.history ≤ reportCount next.history := by
  induction actions generalizing system with
  | nil =>
    cases runs
    exact Nat.le_refl _
  | cons action rest inductionHypothesis =>
    obtain ⟨middle, steps, runRest⟩ :=
      (machine sanitize).run_cons_eq_some.mp runs
    exact Nat.le_trans (reportCount_step steps) (inductionHypothesis runRest)

theorem run_generationsFresh {actions : List PolicyAction}
    (holds : system.GenerationsFresh)
    (runs : (machine sanitize).run system actions = some next)
    (unwrapped : reportCount next.history < policyGenerations) :
    next.GenerationsFresh := by
  induction actions generalizing system with
  | nil =>
    cases runs
    exact holds
  | cons action rest inductionHypothesis =>
    obtain ⟨middle, steps, runRest⟩ :=
      (machine sanitize).run_cons_eq_some.mp runs
    have middleUnwrapped := Nat.lt_of_le_of_lt (run_reportCount runRest)
      unwrapped
    exact inductionHypothesis (holds.step steps middleUnwrapped) runRest

theorem initial_generationsFresh : initial.GenerationsFresh := by
  constructor <;> simp [initial, PlayerPolicyState.initial]

end PolicySystem

/-- A policy that was reported after a barrier survives its clear. -/
theorem policy_survives_older_barrier (sanitize : String → String)
    {actions : List PolicyAction} {system : PolicySystem}
    (runs : (PolicySystem.machine sanitize).run .initial actions =
      some system) :
    (∀ provider,
      (system.policy.active provider).map ActivePlayerPolicy.reason =
        lastReported provider system.history) ∧
    ∀ barrier taken, (barrier, taken) ∈ system.barriers →
      (∀ other, other ≠ barrier.provider →
        (system.policy.clearIfUnchanged barrier).1.active other =
            system.policy.active other ∧
          (system.policy.clearIfUnchanged barrier).1.recent other =
            system.policy.recent other) ∧
      ((system.policy.clearIfUnchanged barrier).2 = false →
        (system.policy.clearIfUnchanged barrier).1 = system.policy) ∧
      ((system.policy.clearIfUnchanged barrier).2 = true →
        (system.policy.clearIfUnchanged barrier).1.active barrier.provider =
            none ∧
          (reportCount system.history < policyGenerations →
            ∀ reason, .reported barrier.provider reason false ∉
              system.eventsSince taken)) := by
  constructor
  · have lastIs : system.ActiveIsLast :=
      (PolicySystem.machine sanitize).run_preserves
        (fun _ _ _ => PolicySystem.ActiveIsLast.step) (fun _ => rfl) runs
    exact lastIs
  · intro barrier taken member
    refine ⟨?_, PlayerPolicyState.clearIfUnchanged_of_false, ?_⟩
    · intro other different
      exact system.policy.clearIfUnchanged_other barrier different
    · intro succeeded
      obtain ⟨⟨policy, active, same⟩, cleared⟩ :=
        PlayerPolicyState.clearIfUnchanged_of_true succeeded
      refine ⟨?_, ?_⟩
      · rw [cleared]
        exact Function.update_self ..
      · intro unwrapped
        have fresh := PolicySystem.run_generationsFresh
          PolicySystem.initial_generationsFresh runs unwrapped
        exact fresh.barrierSaw barrier taken member policy active same

def spotifyProvider : ProviderId := ⟨"spotify"⟩

/-- Two restrictions, a barrier, and a repeat of the older one. -/
def repeatedRestriction : List PolicyAction :=
  [.emit spotifyProvider "old restriction" 0,
    .emit spotifyProvider "new restriction" 1,
    .barrier spotifyProvider,
    .emit spotifyProvider "old restriction" 2]

/-- The last clear of such a run removes the newer restriction; the repeat of
the older one is the only report since the barrier. -/
theorem policy_survives_older_barrier_repeated :
    ∃ system, (PolicySystem.machine id).run .initial repeatedRestriction =
        some system ∧
      ∃ barrier taken, (barrier, taken) ∈ system.barriers ∧
        (system.policy.clearIfUnchanged barrier).2 = true ∧
        ∀ reason, .reported barrier.provider reason false ∉
          system.eventsSince taken := by
  refine ⟨_, rfl, ⟨spotifyProvider, some 2⟩, 2, by decide, by decide, ?_⟩
  have survives := @policy_survives_older_barrier id repeatedRestriction _ rfl
  exact ((survives.2 ⟨spotifyProvider, some 2⟩ 2 (by decide)).2.2
    (by decide)).2 (by decide)

/-- A report after the barrier does not always keep the policy: a stale
repeat neither becomes active nor stops the clear. -/
theorem stale_report_is_cleared :
    ¬ ∀ actions system,
      (PolicySystem.machine id).run .initial actions = some system →
        (∀ barrier taken, (barrier, taken) ∈ system.barriers →
          (system.policy.clearIfUnchanged barrier).2 = true →
            ∀ reason stale, .reported barrier.provider reason stale ∉
              system.eventsSince taken) := by
  intro claimed
  exact claimed repeatedRestriction _ rfl ⟨spotifyProvider, some 2⟩ 2
    (by decide) (by decide) "old restriction" true (by decide)

end Spotuify
