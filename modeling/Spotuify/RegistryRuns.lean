import Spotuify.RegistryLocks

/-!
# No registry is older than the configuration and the cache

A build is let through only if the cache was not dropped since the build looked
at it, and the configuration changes only under the lock that the build holds.
So what is cached is built from the accepted configuration, by a build that saw
every drop of the cache.  A call still has to await the player before it
answers: its registry is then the cached one unless the cache was dropped since.
-/

namespace Spotuify

variable {Providers Credentials : Type}

namespace RegistrySystem

variable {key : ProviderRegistryKey}
  {authConfigChanged : AcceptedConfig Providers → AcceptedConfig Providers →
    Bool}
  {system changed next : RegistrySystem Providers Credentials}
  {outcome : StageOutcome} {stage : RegistryStage Providers Credentials}

/-- The configuration is the accepted one, but for the output device. -/
def Agrees (system : RegistrySystem Providers Credentials)
    (config : Option (AcceptedConfig Providers)) : Prop :=
  config.map AcceptedConfig.providers =
    system.snapshot.map AcceptedConfig.providers

/-- No reload has accepted a configuration without having dropped the
cache. -/
def Settled (system : RegistrySystem Providers Credentials) : Prop :=
  ∀ call guarded, system.calls call ≠ .running (.dropCache guarded)

/-- What holds of a registry that a call took from the cache. -/
structure Presents (system : RegistrySystem Providers Credentials)
    (answer : RegistryAnswer Providers Credentials) : Prop where
  config : system.Agrees answer.registry.config
  dropped : answer.registry.dropped = answer.lookedUp
  lookedUp : answer.lookedUp ≤ system.dropped
  cached : answer.lookedUp = system.dropped →
    system.cache.registry = some answer.registry

/-- What a holder of the build lock can rely on while others go on. -/
structure Spares (before after : RegistrySystem Providers Credentials) :
    Prop where
  snapshot : after.snapshot = before.snapshot
  dropped : before.dropped ≤ after.dropped
  registry : before.dropped = after.dropped →
    after.cache.registry = before.cache.registry

theorem Presents.spares {before after : RegistrySystem Providers Credentials}
    {answer : RegistryAnswer Providers Credentials}
    (presents : before.Presents answer) (spares : before.Spares after) :
    after.Presents answer where
  config := by
    rw [Agrees, spares.snapshot]
    exact presents.config
  dropped := presents.dropped
  lookedUp := presents.lookedUp.trans spares.dropped
  cached := by
    intro isLast
    have same : before.dropped = after.dropped :=
      le_antisymm spares.dropped (isLast ▸ presents.lookedUp)
    rw [spares.registry same]
    exact presents.cached (isLast.trans same.symm)

/-- Only a holder of the build lock accepts another configuration or installs
another registry. -/
theorem StageChange.spares (change : StageChange key system stage changed) :
    DaemonLock.providerBuild ∈ stage.holds ∨ system.Spares changed := by
  cases change with
  | accepted config guarded =>
    left
    cases guarded <;> simp [RegistryStage.holds]
  | output device =>
    left
    simp [RegistryStage.holds]
  | installed generation built isCurrent =>
    left
    simp [RegistryStage.holds]
  | dropped current atHand drops =>
    exact Or.inr ⟨rfl, Nat.le_succ _, fun same =>
      absurd same (Nat.ne_of_lt (Nat.lt_succ_self _))⟩
  | nothing | applied | written | held =>
    exact Or.inr ⟨rfl, le_rfl, fun _ => rfl⟩

theorem StageChange.dropped_le (change : StageChange key system stage changed) :
    system.dropped ≤ changed.dropped := by
  cases change with
  | dropped current atHand drops => exact Nat.le_succ _
  | nothing | applied | installed | accepted | written | held | output =>
    exact le_rfl

/-- What a call remembers at a stage. -/
def StageSound (system : RegistrySystem Providers Credentials) :
    RegistryStage Providers Credentials → Prop
  | .snapshot _ dropped generation =>
    dropped ≤ system.dropped ∧ generation = dropped % 2 ^ 64
  | .build _ dropped generation config =>
    dropped ≤ system.dropped ∧ generation = dropped % 2 ^ 64 ∧
      system.Agrees config
  | .check _ generation built | .install generation built =>
    built.dropped ≤ system.dropped ∧ generation = built.dropped % 2 ^ 64 ∧
      system.Agrees built.config
  | .present _ answer => system.Presents answer
  | _ => True

/-- A call that waits for the build lock remembers nothing. -/
def CallSound (system : RegistrySystem Providers Credentials) :
    RegistryCall Providers Credentials → Prop
  | .finished _ => True
  | .running stage => system.StageSound stage
  | .waiting lock stage =>
    system.StageSound stage ∧
      (lock = .providerBuild → ∀ other, StageSound other stage)

theorem StageSound.spares {before after : RegistrySystem Providers Credentials}
    (sound : before.StageSound stage)
    (spares : DaemonLock.providerBuild ∈ stage.holds →
      before.Spares after) : after.StageSound stage := by
  have agrees : ∀ config, before.Spares after → before.Agrees config →
      after.Agrees config := by
    intro config spared agreed
    rw [Agrees, spared.snapshot]
    exact agreed
  cases stage with
  | snapshot purpose dropped generation =>
    exact ⟨sound.1.trans (spares List.mem_cons_self).dropped, sound.2⟩
  | build purpose dropped generation config =>
    have spared := spares List.mem_cons_self
    exact ⟨sound.1.trans spared.dropped, sound.2.1,
      agrees config spared sound.2.2⟩
  | check purpose generation built =>
    have spared := spares List.mem_cons_self
    exact ⟨sound.1.trans spared.dropped, sound.2.1,
      agrees _ spared sound.2.2⟩
  | install generation built =>
    have spared := spares List.mem_cons_self
    exact ⟨sound.1.trans spared.dropped, sound.2.1,
      agrees _ spared sound.2.2⟩
  | present guarded answer =>
    refine Presents.spares sound (spares ?_)
    cases guarded <;> simp [RegistryStage.holds]
  | look | guard | cancelSessions | accept | dropCache | save | invalidate
    | forget | gate | recover | setOutput => trivial

theorem CallSound.spares {before after : RegistrySystem Providers Credentials}
    {call : RegistryCall Providers Credentials}
    (sound : before.CallSound call)
    (spares : DaemonLock.providerBuild ∈ call.demand.holds →
      before.Spares after) : after.CallSound call := by
  cases call with
  | finished answer => trivial
  | running stage => exact StageSound.spares sound spares
  | waiting lock stage =>
    refine ⟨?_, sound.2⟩
    by_cases isBuild : lock = .providerBuild
    · exact sound.2 isBuild after
    · refine sound.1.spares fun isHeld => spares ?_
      exact List.mem_filter.mpr ⟨isHeld, by simpa using Ne.symm isBuild⟩

structure RegistrySound (system : RegistrySystem Providers Credentials) :
    Prop where
  generation : system.cache.generation = system.dropped % 2 ^ 64
  calls : ∀ call, system.CallSound (system.calls call)
  cached : ∀ built ∈ system.cache.registry, built.dropped = system.dropped
  agrees : ∀ built ∈ system.cache.registry, system.Settled →
    system.Agrees built.config
  applied : ∀ entry ∈ system.applied, entry.1.dropped = entry.2

/-- A build is let through only if the cache was not dropped since it
looked. -/
theorem RegistrySound.dropped_eq (sound : system.RegistrySound)
    (bounded : system.dropped < 2 ^ 64) {dropped : Nat}
    (looked : dropped ≤ system.dropped)
    (isCurrent : system.cache.generation = dropped % 2 ^ 64) :
    dropped = system.dropped := by
  rw [sound.generation, Nat.mod_eq_of_lt bounded,
    Nat.mod_eq_of_lt (looked.trans_lt bounded)] at isCurrent
  exact isCurrent.symm

/-- A registry is the cached one at the moment a call takes it. -/
theorem RegistrySound.presents (sound : system.RegistrySound)
    (settled : system.Settled) {built : RegistryBuild Providers Credentials}
    (isCached : system.cache.registry = some built) :
    system.Presents ⟨built, system.dropped⟩ :=
  ⟨sound.agrees built isCached settled, sound.cached built isCached, le_rfl,
    fun _ => isCached⟩

/-- What a call remembers once it has installed what it built. -/
theorem install_sound (sound : system.RegistrySound) (settled : system.Settled)
    (bounded : system.dropped < 2 ^ 64) {generation : Nat}
    {built : RegistryBuild Providers Credentials}
    (stageSound : system.StageSound (.install generation built)) :
    (system.runStage key authConfigChanged outcome
        (.install generation built)).1.CallSound
      (system.runStage key authConfigChanged outcome
        (.install generation built)).2 := by
  obtain ⟨looked, isGeneration, agrees⟩ := stageSound
  simp only [runStage]
  split
  · trivial
  · trivial
  · next installed registry isInstalled =>
    obtain ⟨isCurrent, ⟨_, rfl, isAnswer⟩ | ⟨_, rfl, isAnswer⟩⟩ :=
      installProviderRegistry_eq_some.mp isInstalled
    · exact sound.presents settled isAnswer.symm
    · cases isAnswer
      exact ⟨agrees,
        sound.dropped_eq bounded looked (isCurrent.trans isGeneration), le_rfl,
        fun _ => rfl⟩

/-- What a call remembers after a stage. -/
theorem runStage_sound (sound : system.RegistrySound)
    (stageSound : system.StageSound stage)
    (settled : DaemonLock.providerBuild ∈ stage.holds →
      (∀ guarded, stage ≠ .dropCache guarded) → system.Settled)
    (bounded : system.dropped < 2 ^ 64) :
    (system.runStage key authConfigChanged outcome stage).1.CallSound
      (system.runStage key authConfigChanged outcome stage).2 := by
  cases stage with
  | look purpose =>
    cases purpose with
    | install =>
      simp only [runStage]
      split
      · split
        · trivial
        · next registry isCached =>
          exact sound.presents (settled List.mem_cons_self (by simp)) isCached
      · exact ⟨le_rfl, sound.generation⟩
    | probe => exact ⟨le_rfl, sound.generation⟩
  | snapshot purpose dropped generation =>
    exact ⟨stageSound.1, stageSound.2, rfl⟩
  | build purpose dropped generation config =>
    simp only [runStage]
    split
    · trivial
    · refine ⟨stageSound, ?_⟩
      intro isBuild
      cases isBuild
  | check purpose generation built =>
    simp only [runStage]
    split
    · cases purpose <;> trivial
    · cases purpose with
      | install => exact stageSound
      | probe => trivial
  | install generation built =>
    exact install_sound sound (settled List.mem_cons_self (by simp)) bounded
      stageSound
  | present guarded answer =>
    simp only [runStage]
    split <;> trivial
  | guard config =>
    simp only [runStage]
    split
    · trivial
    · split
      · exact ⟨trivial, fun _ _ => trivial⟩
      · exact ⟨trivial, fun _ _ => trivial⟩
  | cancelSessions config => exact ⟨trivial, fun _ _ => trivial⟩
  | accept config guarded => trivial
  | dropCache guarded => trivial
  | save credentials =>
    simp only [runStage]
    split
    · trivial
    · cases credentials with
      | none => exact ⟨trivial, fun _ _ => trivial⟩
      | some written =>
        dsimp only
        split
        · trivial
        · exact ⟨trivial, fun _ _ => trivial⟩
  | invalidate =>
    simp only [runStage]
    split <;> trivial
  | forget recovered => cases recovered <;> trivial
  | gate =>
    cases outcome with
    | fails => trivial
    | turns => exact ⟨trivial, fun _ _ => trivial⟩
    | goesOn => trivial
  | recover => trivial
  | setOutput device =>
    simp only [runStage]
    split <;> trivial

/-- The fields of the invariant that do not speak of calls after a stage. -/
theorem StageChange.registrySound (change : StageChange key system stage changed)
    (sound : system.RegistrySound) (stageSound : system.StageSound stage)
    (bounded : system.dropped < 2 ^ 64) :
    changed.cache.generation = changed.dropped % 2 ^ 64 ∧
      (∀ built ∈ changed.cache.registry, built.dropped = changed.dropped) ∧
      ∀ entry ∈ changed.applied, entry.1.dropped = entry.2 := by
  cases change with
  | nothing | accepted | output | written | held =>
    exact ⟨sound.generation, sound.cached, sound.applied⟩
  | applied purpose generation built isCurrent =>
    obtain ⟨looked, isGeneration, _⟩ := stageSound
    refine ⟨sound.generation, sound.cached, fun entry member => ?_⟩
    rcases List.mem_cons.mp member with rfl | earlier
    · exact sound.dropped_eq bounded looked (isCurrent.trans isGeneration)
    · exact sound.applied entry earlier
  | installed generation built isCurrent =>
    obtain ⟨looked, isGeneration, _⟩ := stageSound
    refine ⟨sound.generation, ?_, sound.applied⟩
    rintro _ ⟨⟩
    exact sound.dropped_eq bounded looked (isCurrent.trans isGeneration)
  | dropped current atHand drops =>
    refine ⟨?_, fun _ isCached => ?_, sound.applied⟩
    · change (system.cache.generation + 1) % 2 ^ 64 = _
      rw [sound.generation, Nat.mod_add_mod]
      rfl
    · cases isCached

theorem StageChange.agrees (change : StageChange key system stage changed)
    (sound : system.RegistrySound) (stageSound : system.StageSound stage)
    (settled : (∀ guarded, stage ≠ .dropCache guarded) → system.Settled)
    (acceptsNothing : ∀ config guarded, stage ≠ .accept config guarded) :
    ∀ built ∈ changed.cache.registry, changed.Agrees built.config := by
  intro built isCached
  cases change with
  | nothing current keeps | held current atHand keeps =>
    exact sound.agrees built isCached (settled keeps)
  | applied purpose generation other isCurrent =>
    exact sound.agrees built isCached (settled (by simp))
  | installed generation other isCurrent =>
    cases isCached
    exact stageSound.2.2
  | accepted config guarded =>
    exact absurd rfl (acceptsNothing config guarded)
  | dropped current atHand drops => cases isCached
  | written credentials =>
    exact sound.agrees built isCached (settled (by simp))
  | output device =>
    have agreed := sound.agrees built isCached (settled (by simp))
    rw [Agrees] at agreed ⊢
    rw [agreed, Option.map_map]
    rfl

theorem entry_sound (request : RegistryRequest Providers Credentials) :
    system.CallSound request.entry := by
  cases request <;> exact ⟨trivial, fun _ _ => trivial⟩

/-- The invariant says the same of systems that differ in their locks and in
calls that remember nothing wrong. -/
theorem RegistrySound.of_calls (sound : system.RegistrySound)
    (locks : DaemonLock → Option Nat)
    (calls : Nat → RegistryCall Providers Credentials)
    (callsSound : ∀ call, system.CallSound (calls call))
    (settled : Settled { system with locks := locks, calls := calls } →
      system.Settled) :
    RegistrySound { system with locks := locks, calls := calls } where
  generation := sound.generation
  calls := fun call => (callsSound call).spares
    fun _ => ⟨rfl, le_rfl, fun _ => rfl⟩
  cached := sound.cached
  agrees := fun built isCached isSettled =>
    sound.agrees built isCached (settled isSettled)
  applied := sound.applied

theorem RegistrySound.start {call : Nat}
    {request : RegistryRequest Providers Credentials}
    {answer : Option (RegistryAnswer Providers Credentials)}
    (sound : system.RegistrySound)
    (isOver : system.calls call = .finished answer) :
    (system.move call request.entry).RegistrySound := by
  refine sound.of_calls _ _ (fun other => ?_) ?_
  · rw [Function.update_apply]
    split
    · exact entry_sound request
    · exact sound.calls other
  · intro settled other guarded drops
    by_cases isCall : other = call
    · rw [isCall, isOver] at drops
      cases drops
    · apply settled other guarded
      exact (Function.update_of_ne isCall _ _).trans drops

theorem RegistrySound.acquire {call : Nat} {lock : DaemonLock}
    (sound : system.RegistrySound)
    (waits : system.calls call = .waiting lock stage) :
    RegistrySound
      { system with
        locks := Function.update system.locks lock (some call)
        calls := Function.update system.calls call (.running stage) } := by
  refine sound.of_calls _ _ (fun other => ?_) ?_
  · rw [Function.update_apply]
    split
    · have waiting := sound.calls call
      rw [waits] at waiting
      exact waiting.1
    · exact sound.calls other
  · intro settled other guarded drops
    by_cases isCall : other = call
    · rw [isCall, waits] at drops
      cases drops
    · apply settled other guarded
      exact (Function.update_of_ne isCall _ _).trans drops

/-- Whoever is about to drop the cache holds the build lock. -/
theorem LocksSound.locked_of_drops (locks : system.LocksSound) {call : Nat}
    {guarded : Bool}
    (drops : system.calls call = .running (.dropCache guarded)) :
    system.locks .providerBuild = some call := by
  rw [locks.locked, drops]
  cases guarded <;> exact List.mem_cons_self

theorem LocksSound.settled_of_unlocked (locks : system.LocksSound)
    (unlocked : system.locks .providerBuild = none) : system.Settled := by
  intro call guarded drops
  rw [locks.locked_of_drops drops] at unlocked
  cases unlocked

/-- No other call is about to drop the cache while one holds the build
lock. -/
theorem LocksSound.settled_of_holds (locks : system.LocksSound) {call : Nat}
    (runs : system.calls call = .running stage)
    (isHeld : DaemonLock.providerBuild ∈ stage.holds)
    (keeps : ∀ guarded, stage ≠ .dropCache guarded) : system.Settled := by
  intro other guarded drops
  have byCall : system.locks .providerBuild = some call := by
    rw [locks.locked, runs]
    exact isHeld
  rw [locks.locked_of_drops drops, Option.some.injEq] at byCall
  rw [byCall, runs] at drops
  exact keeps guarded (RegistryCall.running.inj drops)

theorem RegistrySound.advance {call : Nat}
    {arrives : RegistryCall Providers Credentials}
    (sound : system.RegistrySound) (locks : system.LocksSound)
    (runs : system.calls call = .running stage)
    (bounded : system.dropped < 2 ^ 64)
    (change : StageChange key system stage changed)
    (arrivesSound : changed.CallSound arrives)
    (thenDrops : ∀ config guarded, stage = .accept config guarded →
      arrives = .running (.dropCache guarded)) :
    (changed.move call arrives).RegistrySound := by
  have stageSound : system.StageSound stage := by
    have running := sound.calls call
    rw [runs] at running
    exact running
  obtain ⟨generation, cached, applied⟩ :=
    change.registrySound sound stageSound bounded
  have othersSound : ∀ other, other ≠ call →
      changed.CallSound (system.calls other) := by
    intro other different
    refine (sound.calls other).spares fun isHeld => ?_
    rcases change.spares with heldHere | spares
    · -- two calls cannot hold the build lock
      have byOther := (locks.locked .providerBuild other).mpr isHeld
      have byCall := (locks.locked .providerBuild call).mpr
        (runs ▸ heldHere)
      rw [byCall] at byOther
      exact absurd (Option.some.inj byOther).symm different
    · exact spares
  have agrees : (changed.move call arrives).Settled →
      ∀ built ∈ changed.cache.registry, changed.Agrees built.config := by
    intro settled
    apply change.agrees sound stageSound
    · intro keeps other guarded drops
      by_cases isCall : other = call
      · rw [isCall, runs] at drops
        exact keeps guarded (RegistryCall.running.inj drops)
      · apply settled other guarded
        rw [calls_move_of_ne isCall, change.calls]
        exact drops
    · intro config guarded isAccept
      apply settled call guarded
      rw [calls_move_self]
      exact thenDrops config guarded isAccept
  have callsSound : ∀ other,
      changed.CallSound ((changed.move call arrives).calls other) := by
    intro other
    by_cases isCall : other = call
    · rw [isCall, calls_move_self]
      exact arrivesSound
    · rw [calls_move_of_ne isCall, change.calls]
      exact othersSound other isCall
  have moved : changed.Spares (changed.move call arrives) :=
    ⟨rfl, le_rfl, fun _ => rfl⟩
  exact ⟨generation, fun other => (callsSound other).spares fun _ => moved,
    cached, fun built isCached settled => agrees settled built isCached,
    applied⟩

theorem RegistrySound.step (sound : system.RegistrySound)
    (locks : system.LocksSound) (bounded : system.dropped < 2 ^ 64)
    (steps : RegistryStep key authConfigChanged system next) :
    next.RegistrySound := by
  cases steps with
  | start call request answer isOver => exact sound.start isOver
  | acquire call lock stage waits free => exact sound.acquire waits
  | advance call outcome stage runs =>
    have stageSound : system.StageSound stage := by
      have running := sound.calls call
      rw [runs] at running
      exact running
    apply sound.advance locks runs bounded runStage_change
      (runStage_sound sound stageSound (locks.settled_of_holds runs) bounded)
    rintro config guarded rfl
    rfl
  | written | held =>
    exact ⟨sound.generation, fun call => (sound.calls call).spares fun _ =>
      ⟨rfl, le_rfl, fun _ => rfl⟩, sound.cached, sound.agrees, sound.applied⟩

theorem RegistryStep.dropped_le
    (steps : RegistryStep key authConfigChanged system next) :
    system.dropped ≤ next.dropped := by
  cases steps with
  | advance call outcome stage runs => exact runStage_change.dropped_le
  | start | acquire | written | held => exact le_rfl

theorem initial_registrySound (snapshot : Option (AcceptedConfig Providers))
    (credentials : Credentials) :
    (initial snapshot credentials).RegistrySound where
  generation := rfl
  calls := fun _ => trivial
  cached := fun _ isCached => by cases isCached
  agrees := fun _ isCached => by cases isCached
  applied := fun _ member => by cases member

theorem Reachable.registrySound
    (reachable : Reachable key authConfigChanged system)
    (bounded : system.dropped < 2 ^ 64) : system.RegistrySound := by
  have both := @GuardedMachine.Reachable.induction _ _
    (machine key authConfigChanged) _
    (fun state => state.LocksSound ∧
      (state.dropped < 2 ^ 64 → state.RegistrySound)) ?_ ?_ system reachable
  · exact both.2 bounded
  · rintro _ ⟨snapshot, credentials, rfl⟩
    exact ⟨initial_locksSound snapshot credentials, fun _ =>
      initial_registrySound snapshot credentials⟩
  · rintro state action after ⟨locks, sound⟩ steps
    have taken := registryStep steps
    refine ⟨locks.step taken, fun afterBounded => ?_⟩
    have stateBounded := taken.dropped_le.trans_lt afterBounded
    exact (sound stateBounded).step locks stateBounded taken

/-- The cached registry was built by a build that looked after the last drop of
the cache and, whenever no reload is between accepting a configuration and
dropping the cache, from the accepted configuration; and no sign-in outcome was
ever applied of a build that a drop had overtaken. -/
theorem cached_registry_current
    (reachable : Reachable key authConfigChanged system)
    (bounded : system.dropped < 2 ^ 64) :
    (∀ built, system.cache.registry = some built →
      built.dropped = system.dropped ∧
        (system.Settled → system.Agrees built.config)) ∧
    ∀ built dropped, (built, dropped) ∈ system.applied →
      built.dropped = dropped := by
  have sound := reachable.registrySound bounded
  exact ⟨fun built isCached =>
      ⟨sound.cached built isCached, sound.agrees built isCached⟩,
    fun built dropped member => sound.applied (built, dropped) member⟩

/-- A call for the registry whose first build is overtaken by a sign-in. -/
def overtakenActions : List (RegistryAction Unit Nat) :=
  [.start 0 .providers, .acquire 0, .advance 0 .goesOn, .advance 0 .goesOn,
    .advance 0 .goesOn, .start 1 (.reloadAuth (some 1)), .acquire 1,
    .advance 1 .goesOn, .acquire 1, .advance 1 .goesOn, .advance 1 .goesOn,
    .acquire 0, .advance 0 .goesOn, .advance 0 .goesOn, .advance 0 .goesOn,
    .advance 0 .goesOn, .acquire 0, .advance 0 .goesOn, .advance 0 .goesOn,
    .advance 0 .goesOn]

theorem cached_registry_current_built :
    ∃ system : RegistrySystem Unit Nat,
      system.dropped = 1 ∧
        system.cache.registry = some ⟨some ⟨(), none⟩, 1, 1⟩ ∧
        system.Agrees (some ⟨(), none⟩) ∧ system.applied ≠ [] ∧
        ∀ built dropped, (built, dropped) ∈ system.applied →
          built.dropped = dropped := by
  have builds : ((machine .configured fun _ _ => false).run
      (initial (some ⟨(), none⟩) 0) overtakenActions).any (fun system =>
        decide (system.dropped = 1 ∧
          system.cache.registry = some ⟨some ⟨(), none⟩, 1, 1⟩ ∧
          system.applied ≠ [] ∧
          system.locks .providerBuild = none)) = true := by
    decide +kernel
  obtain ⟨system, runs, holds⟩ := (Option.any_eq_true _ _).mp builds
  obtain ⟨dropped, isCached, applied, unlocked⟩ := of_decide_eq_true holds
  have reachable : Reachable .configured (fun _ _ => false) system :=
    ⟨initial (some ⟨(), none⟩) 0, _, ⟨some ⟨(), none⟩, 0, rfl⟩, runs⟩
  obtain ⟨current, notOvertaken⟩ :=
    cached_registry_current reachable (by rw [dropped]; decide)
  refine ⟨system, dropped, isCached, ?_, applied, notOvertaken⟩
  exact (current _ isCached).2
    (reachable.locksSound.settled_of_unlocked unlocked)

/-- Only a call that presents a registry answers one. -/
theorem runStage_answers {answer : RegistryAnswer Providers Credentials}
    (answers : (system.runStage key authConfigChanged outcome stage).2 =
      .finished (some answer)) :
    ∃ guarded, stage = .present guarded answer ∧
      (system.runStage key authConfigChanged outcome stage).1 = system := by
  revert answers
  fun_cases runStage
  case case16 guarded other fails =>
    rintro ⟨⟩
    exact ⟨guarded, rfl, rfl⟩
  all_goals
    intro answers
    cases answers

/-- A registry that a call answers is built from the accepted configuration, by
a build that saw every drop of the cache up to the moment the call took it, and
is the cached one unless the cache was dropped since. -/
theorem answered_registry_current {call : Nat}
    {answer : RegistryAnswer Providers Credentials}
    (reachable : Reachable key authConfigChanged system)
    (bounded : system.dropped < 2 ^ 64)
    (steps : system.step key authConfigChanged (.advance call outcome) =
      some next)
    (answers : next.calls call = .finished (some answer)) :
    next.Presents answer := by
  have sound := reachable.registrySound bounded
  simp only [RegistrySystem.step] at steps
  split at steps
  case h_2 => cases steps
  next stage runs =>
  cases steps
  rw [calls_move_self] at answers
  obtain ⟨guarded, rfl, unchanged⟩ := runStage_answers answers
  have presents : system.Presents answer := by
    have running := sound.calls call
    rw [runs] at running
    exact running
  rw [unchanged]
  exact presents.spares ⟨rfl, le_rfl, fun _ => rfl⟩

/-- A second call finds the registry that a first one built; a sign-out drops
the cache before the second one answers. -/
def signedOutActions : List (RegistryAction Unit Nat) :=
  [.start 0 .providers, .acquire 0, .advance 0 .goesOn, .advance 0 .goesOn,
    .advance 0 .goesOn, .acquire 0, .advance 0 .goesOn, .advance 0 .goesOn,
    .advance 0 .goesOn, .start 0 .providers, .acquire 0, .advance 0 .goesOn,
    .writeCredentials 2, .start 1 (.reloadAuth none), .acquire 1,
    .advance 1 .goesOn, .acquire 1, .advance 1 .goesOn]

theorem answered_registry_current_built :
    ∃ next : RegistrySystem Unit Nat,
      next.dropped = 1 ∧ next.cache.registry = none ∧
        next.Presents ⟨⟨some ⟨(), none⟩, 0, 0⟩, 0⟩ := by
  have answers : ((machine .configured fun _ _ => false).run
      (initial (some ⟨(), none⟩) 0) signedOutActions).any (fun system =>
        (system.step .configured (fun _ _ => false)
          (.advance 0 .goesOn)).any fun next =>
            decide (system.dropped < 2 ^ 64 ∧ next.dropped = 1 ∧
              next.cache.registry = none ∧
              next.calls 0 =
                .finished (some ⟨⟨some ⟨(), none⟩, 0, 0⟩, 0⟩))) = true := by
    decide +kernel
  obtain ⟨system, runs, goesOn⟩ := (Option.any_eq_true _ _).mp answers
  obtain ⟨next, steps, holds⟩ := (Option.any_eq_true _ _).mp goesOn
  obtain ⟨bounded, dropped, gone, answered⟩ := of_decide_eq_true holds
  exact ⟨next, dropped, gone, answered_registry_current
    ⟨initial (some ⟨(), none⟩) 0, _, ⟨some ⟨(), none⟩, 0, rfl⟩, runs⟩ bounded
    steps answered⟩

end RegistrySystem
end Spotuify
