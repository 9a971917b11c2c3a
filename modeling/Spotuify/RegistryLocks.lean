import Spotuify.RegistryCommits

/-!
# The locks around the provider registry

Each stage of a call changes one thing at most.  A call holds just the locks its
stage asks for, and takes them in one order, so no set of calls can wait for one
another.
-/

namespace Spotuify

variable {Providers Credentials : Type}

namespace RegistrySystem

variable {key : ProviderRegistryKey}
  {authConfigChanged : AcceptedConfig Providers → AcceptedConfig Providers →
    Bool}
  {system changed next : RegistrySystem Providers Credentials}
  {outcome : StageOutcome} {stage : RegistryStage Providers Credentials}

/-- The system with a registry installed. -/
def withRegistry (system : RegistrySystem Providers Credentials)
    (key : ProviderRegistryKey) (built : RegistryBuild Providers Credentials) :
    RegistrySystem Providers Credentials :=
  { system with
    cache := { system.cache with key := some key, registry := some built } }

/-- What the cache, the configuration and the credentials are after a stage. -/
inductive StageChange (key : ProviderRegistryKey)
    (system : RegistrySystem Providers Credentials) :
    RegistryStage Providers Credentials →
      RegistrySystem Providers Credentials → Prop where
  | nothing (current : RegistryStage Providers Credentials)
      (keeps : ∀ guarded, current ≠ .dropCache guarded) :
      StageChange key system current system
  | applied (purpose generation built)
      (isCurrent : system.cache.generation = generation) :
      StageChange key system (.check purpose generation built)
        (system.applyOutcome built)
  | installed (generation built)
      (isCurrent : system.cache.generation = generation) :
      StageChange key system (.install generation built)
        (system.withRegistry key built)
  | accepted (config guarded) :
      StageChange key system (.accept config guarded)
        { system with snapshot := some config }
  | dropped (current : RegistryStage Providers Credentials)
      (atHand : Option Credentials)
      (drops : current = .invalidate ∨ current = .recover ∨
        ∃ guarded, current = .dropCache guarded) :
      StageChange key system current (system.hold atHand).invalidate
  | held (current : RegistryStage Providers Credentials)
      (atHand : Option Credentials)
      (keeps : ∀ guarded, current ≠ .dropCache guarded) :
      StageChange key system current (system.hold atHand)
  | written (credentials) :
      StageChange key system (.save (some credentials))
        (system.write credentials)
  | output (device) :
      StageChange key system (.setOutput device)
        { system with
          snapshot := system.snapshot.map fun config =>
            { config with audioOutput := device } }

theorem installProviderRegistry_eq_some {generation : Nat}
    {built : RegistryBuild Providers Credentials}
    {answer : Option (RegistryBuild Providers Credentials)} :
    system.installProviderRegistry key generation built =
        some (changed, answer) ↔
      system.cache.generation = generation ∧
        ((system.cache.key = some key ∧ changed = system ∧
            answer = system.cache.registry) ∨
          (system.cache.key ≠ some key ∧
            changed = system.withRegistry key built ∧ answer = some built)) := by
  unfold installProviderRegistry
  by_cases isCurrent : system.cache.generation = generation
  · rw [if_neg (not_not.mpr isCurrent)]
    by_cases isCached : system.cache.key = some key
    · simp [isCurrent, isCached, eq_comm]
    · simp [isCurrent, isCached, withRegistry, eq_comm]
  · simp [isCurrent]

theorem installProviderRegistry_change {generation : Nat}
    {built : RegistryBuild Providers Credentials}
    {answer : Option (RegistryBuild Providers Credentials)}
    (isInstalled : system.installProviderRegistry key generation built =
      some (changed, answer)) :
    StageChange key system (.install generation built) changed := by
  obtain ⟨isCurrent, ⟨_, rfl, _⟩ | ⟨_, rfl, _⟩⟩ :=
    installProviderRegistry_eq_some.mp isInstalled
  · exact .nothing _ (by simp)
  · exact .installed generation built isCurrent

theorem runStage_change :
    StageChange key system stage
      (system.runStage key authConfigChanged outcome stage).1 := by
  fun_cases runStage
  all_goals
    first
    | exact .nothing _ (by simp)
    | exact .applied _ _ _ (not_not.mp ‹_›)
    | exact installProviderRegistry_change ‹_›
    | exact .accepted _ _
    | exact .written _
    | exact .output _
    | exact .held _ _ (by simp)
    | exact .dropped _ system.atHand (by simp)
    | exact .dropped _ none (by simp)

theorem StageChange.locks (change : StageChange key system stage changed) :
    changed.locks = system.locks := by
  cases change <;> rfl

theorem StageChange.calls (change : StageChange key system stage changed) :
    changed.calls = system.calls := by
  cases change <;> rfl

/-- A call waits only for the lock of its next stage, and that lock is above
those it holds. -/
structure Ordered (call : RegistryCall Providers Credentials) : Prop where
  ascending : call.demand.Ascending
  wanted : ∀ lock stage, call = .waiting lock stage → lock ∈ stage.holds

/-- A call holds a lock exactly when the lock is taken by it. -/
structure LocksSound (system : RegistrySystem Providers Credentials) :
    Prop where
  locked : ∀ lock call, system.locks lock = some call ↔
    lock ∈ (system.calls call).demand.holds
  ordered : ∀ call, Ordered (system.calls call)

theorem ordered_of_wants_nothing {call : RegistryCall Providers Credentials}
    (nothing : call.demand.wants = none) : Ordered call := by
  constructor
  · intro wanted isWanted
    rw [nothing] at isWanted
    cases isWanted
  · rintro lock stage rfl
    cases nothing

theorem ordered_waiting {lock : DaemonLock} (inStage : lock ∈ stage.holds)
    (below : ∀ held ∈ stage.holds, held ≤ lock) :
    Ordered (.waiting lock stage) := by
  constructor
  · intro wanted isWanted held isHeld
    cases isWanted
    obtain ⟨heldInStage, different⟩ := List.mem_filter.mp isHeld
    exact lt_of_le_of_ne (below held heldInStage) (of_decide_eq_true different)
  · rintro _ _ ⟨⟩
    exact inStage

theorem le_providerCommit (held : DaemonLock) :
    held ≤ DaemonLock.providerCommit := by
  cases held <;> decide

/-- A call comes to hold a lock only by acquiring it. -/
theorem runStage_holds {lock : DaemonLock}
    (isHeld : lock ∈
      (system.runStage key authConfigChanged outcome stage).2.demand.holds) :
    lock ∈ stage.holds := by
  revert isHeld
  fun_cases runStage <;>
    simp only [RegistryCall.demand, RegistryCall.ended, RegistryStage.holds,
      List.mem_filter, List.mem_cons, List.not_mem_nil, or_false,
      false_implies, decide_eq_true_eq, ite_true, ite_false, Bool.false_eq_true]
  all_goals tauto

theorem runStage_ordered :
    Ordered (system.runStage key authConfigChanged outcome stage).2 := by
  fun_cases runStage
  all_goals
    first
    | exact ordered_of_wants_nothing rfl
    | exact ordered_waiting (by simp [RegistryStage.holds])
        fun held _ => le_providerCommit held
    | exact ordered_waiting (by simp [RegistryStage.holds])
        (by simp [RegistryStage.holds]; decide)

theorem entry_holds (request : RegistryRequest Providers Credentials) :
    request.entry.demand.holds = [] := by
  cases request <;> rfl

theorem entry_ordered (request : RegistryRequest Providers Credentials) :
    Ordered request.entry := by
  cases request <;>
    exact ordered_waiting (List.mem_singleton.mpr rfl) fun held isHeld =>
      (List.mem_singleton.mp isHeld).le

/-- A call that moves leaves the others where they are. -/
theorem calls_move_of_ne {call other : Nat}
    {arrives : RegistryCall Providers Credentials} (different : other ≠ call) :
    (system.move call arrives).calls other = system.calls other :=
  Function.update_of_ne different _ _

theorem calls_move_self {call : Nat}
    {arrives : RegistryCall Providers Credentials} :
    (system.move call arrives).calls call = arrives :=
  Function.update_self _ _ _

/-- A call that goes on keeps what it still holds, and nothing else changes
hands. -/
theorem LocksSound.move {call : Nat}
    {arrives : RegistryCall Providers Credentials}
    (sound : system.LocksSound) (locks : changed.locks = system.locks)
    (calls : changed.calls = system.calls)
    (kept : ∀ lock ∈ arrives.demand.holds,
      lock ∈ (system.calls call).demand.holds)
    (ordered : Ordered arrives) :
    (changed.move call arrives).LocksSound := by
  constructor
  · intro lock other
    simp only [RegistrySystem.move, locks, calls, Function.update_apply]
    by_cases isCall : other = call
    · subst isCall
      rw [if_pos rfl]
      by_cases isKept : lock ∈ arrives.demand.holds
      · simp [isKept, (sound.locked lock other).mpr (kept lock isKept)]
      · by_cases isTaken : system.locks lock = some other
        · simp [isKept, isTaken]
        · simp [isKept, isTaken]
    · rw [if_neg isCall, ← sound.locked]
      by_cases isTaken : system.locks lock = some call
      · simp [isTaken, Ne.symm isCall]
      · simp [isTaken]
  · intro other
    simp only [RegistrySystem.move, calls, Function.update_apply]
    by_cases isCall : other = call
    · rw [if_pos isCall]
      exact ordered
    · rw [if_neg isCall]
      exact sound.ordered other

theorem LocksSound.acquire {call : Nat} {lock : DaemonLock}
    (sound : system.LocksSound)
    (waits : system.calls call = .waiting lock stage)
    (free : system.locks lock = none) :
    LocksSound
      { system with
        locks := Function.update system.locks lock (some call)
        calls := Function.update system.calls call (.running stage) } := by
  have inStage := (sound.ordered call).wanted lock stage waits
  constructor
  · intro other owner
    simp only [Function.update_apply]
    by_cases isCall : owner = call
    · subst isCall
      have held := sound.locked other owner
      rw [waits] at held
      by_cases isLock : other = lock
      · subst isLock
        simp [RegistryCall.demand, inStage]
      · simp [isLock, held, RegistryCall.demand]
    · rw [if_neg isCall, ← sound.locked]
      by_cases isLock : other = lock
      · subst isLock
        simp [free, Ne.symm isCall]
      · simp [isLock]
  · intro other
    simp only [Function.update_apply]
    by_cases isCall : other = call
    · rw [if_pos isCall]
      exact ordered_of_wants_nothing rfl
    · rw [if_neg isCall]
      exact sound.ordered other

/-- What one step does. -/
inductive RegistryStep (key : ProviderRegistryKey)
    (authConfigChanged : AcceptedConfig Providers → AcceptedConfig Providers →
      Bool) (system : RegistrySystem Providers Credentials) :
    RegistrySystem Providers Credentials → Prop where
  | start (call : Nat) (request : RegistryRequest Providers Credentials)
      (answer : Option (RegistryAnswer Providers Credentials))
      (isOver : system.calls call = .finished answer) :
      RegistryStep key authConfigChanged system
        (system.move call request.entry)
  | acquire (call : Nat) (lock : DaemonLock)
      (stage : RegistryStage Providers Credentials)
      (waits : system.calls call = .waiting lock stage)
      (free : system.locks lock = none) :
      RegistryStep key authConfigChanged system
        { system with
          locks := Function.update system.locks lock (some call)
          calls := Function.update system.calls call (.running stage) }
  | advance (call : Nat) (outcome : StageOutcome)
      (stage : RegistryStage Providers Credentials)
      (runs : system.calls call = .running stage) :
      RegistryStep key authConfigChanged system
        ((system.runStage key authConfigChanged outcome stage).1.move call
          (system.runStage key authConfigChanged outcome stage).2)
  | written (credentials : Credentials) :
      RegistryStep key authConfigChanged system (system.write credentials)
  | held (atHand : Option Credentials) :
      RegistryStep key authConfigChanged system (system.hold atHand)

theorem registryStep {action : RegistryAction Providers Credentials}
    (steps : system.step key authConfigChanged action = some next) :
    RegistryStep key authConfigChanged system next := by
  cases action with
  | start call request =>
    simp only [step] at steps
    split at steps
    · next answer isOver =>
      cases steps
      exact .start call request answer isOver
    · cases steps
  | acquire call =>
    simp only [step] at steps
    split at steps
    · next lock stage waits =>
      split at steps
      · next free =>
        cases steps
        exact .acquire call lock stage waits free
      · cases steps
    · cases steps
  | advance call outcome =>
    simp only [step] at steps
    split at steps
    · next stage runs =>
      cases steps
      exact .advance call outcome stage runs
    · cases steps
  | writeCredentials credentials =>
    cases steps
    exact .written credentials
  | holdCredentials atHand =>
    cases steps
    exact .held atHand

theorem LocksSound.step (sound : system.LocksSound)
    (steps : RegistryStep key authConfigChanged system next) :
    next.LocksSound := by
  cases steps with
  | start call request answer isOver =>
    refine sound.move rfl rfl ?_ (entry_ordered request)
    intro lock isHeld
    rw [entry_holds] at isHeld
    cases isHeld
  | acquire call lock stage waits free => exact sound.acquire waits free
  | advance call outcome stage runs =>
    refine sound.move runStage_change.locks runStage_change.calls ?_
      runStage_ordered
    intro lock isHeld
    rw [runs]
    exact runStage_holds isHeld
  | written | held => exact ⟨sound.locked, sound.ordered⟩

theorem initial_locksSound (snapshot : Option (AcceptedConfig Providers))
    (credentials : Credentials) :
    (initial snapshot credentials).LocksSound :=
  ⟨fun _ _ => by simp [initial, RegistryCall.ended, RegistryCall.demand],
    fun _ => ordered_of_wants_nothing rfl⟩

/-- The states of the daemon. -/
def Reachable (key : ProviderRegistryKey)
    (authConfigChanged : AcceptedConfig Providers → AcceptedConfig Providers →
      Bool) (system : RegistrySystem Providers Credentials) : Prop :=
  (machine key authConfigChanged).Reachable
    (fun start => ∃ snapshot credentials, start = initial snapshot credentials)
    system

theorem Reachable.locksSound
    (reachable : Reachable key authConfigChanged system) :
    system.LocksSound := by
  refine GuardedMachine.Reachable.induction _ ?_ ?_ reachable
  · rintro _ ⟨snapshot, credentials, rfl⟩
    exact initial_locksSound snapshot credentials
  · intro state action after sound steps
    exact sound.step (registryStep steps)

/-- As long as a call has not answered, some call can take a lock it waits for
or go on. -/
theorem registry_calls_progress
    (reachable : Reachable key authConfigChanged system) {call : Nat}
    (unanswered : ∀ answer, system.calls call ≠ .finished answer) :
    ∃ other, (∀ answer, system.calls other ≠ .finished answer) ∧
      ((system.step key authConfigChanged (.acquire other)).isSome = true ∨
        (system.step key authConfigChanged
          (.advance other .goesOn)).isSome = true) := by
  have sound := reachable.locksSound
  obtain ⟨other, unblocked, isOpen⟩ :=
    @LockDemand.exists_unblocked DaemonLock Nat _ _
      (fun task => (system.calls task).demand)
      (fun task => (sound.ordered task).ascending) call
  have otherOpen : ∀ answer, system.calls other ≠ .finished answer := by
    rcases isOpen with rfl | holdsSome
    · exact unanswered
    · intro answer isOver
      rw [isOver] at holdsSome
      exact holdsSome rfl
  cases state : system.calls other with
  | finished answer => exact absurd state (otherOpen answer)
  | waiting lock stage =>
    have free : system.locks lock = none := by
      by_contra taken
      obtain ⟨holder, isTaken⟩ := Option.ne_none_iff_exists'.mp taken
      refine unblocked lock ?_ holder ((sound.locked lock holder).mp isTaken)
      simp [state, RegistryCall.demand]
    refine ⟨other, otherOpen, Or.inl ?_⟩
    simp only [RegistrySystem.step, state]
    rw [if_pos free]
    rfl
  | running stage =>
    refine ⟨other, otherOpen, Or.inr ?_⟩
    simp only [RegistrySystem.step, state]
    rfl

/-- A call for the registry that holds the build lock, and a config reload that
waits for it. -/
def contendedActions : List (RegistryAction Unit Unit) :=
  [.start 0 .providers, .acquire 0, .start 1 (.applyRuntimeConfig ⟨(), none⟩)]

theorem registry_calls_progress_started :
    ∃ system : RegistrySystem Unit Unit,
      system.locks .providerBuild = some 0 ∧
        system.calls 1 = .waiting .providerBuild (.guard ⟨(), none⟩) ∧
        ∃ other, (∀ answer, system.calls other ≠ .finished answer) ∧
          ((system.step .configured (fun _ _ => false)
              (.acquire other)).isSome = true ∨
            (system.step .configured (fun _ _ => false)
              (.advance other .goesOn)).isSome = true) := by
  have contends : ((machine .configured fun _ _ => false).run (initial none ())
      contendedActions).any (fun system =>
        decide (system.locks .providerBuild = some 0 ∧
          system.calls 1 =
            .waiting .providerBuild (.guard ⟨(), none⟩))) = true := by
    decide +kernel
  obtain ⟨system, runs, holds⟩ := (Option.any_eq_true _ _).mp contends
  obtain ⟨isHeld, waits⟩ := of_decide_eq_true holds
  refine ⟨system, isHeld, waits, @registry_calls_progress _ _ _ _ _
    ⟨initial none (), contendedActions, ⟨none, (), rfl⟩, runs⟩ 1 ?_⟩
  intro answer isOver
  rw [waits] at isOver
  cases isOver

end RegistrySystem
end Spotuify
