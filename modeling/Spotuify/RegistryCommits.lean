import Spotuify.GuardedMachine
import Spotuify.OrderedLocks
import Mathlib.Data.Fintype.EquivFin
import Mathlib.Order.Fin.Basic
import Mathlib.Data.Fintype.Order

/-!
# Building, dropping and replacing the provider registry

The daemon caches the registry it has built from the accepted configuration and
the stored credentials.  Config reloads, sign-ins, sign-outs and health probes
go on beside the builds, and any of them may be suspended wherever it awaits.
Three locks keep them apart, and a generation of the cache tells a build that it
has been overtaken.  Each step below is one stretch of a call between two such
points.  Builds and probes take the credentials at hand in memory before those
on disk, and a drop of the cache clears them only afterwards; requests and the
live session may put them back at any time.  Registries injected by tests are
left out, so is what a call does to the player and the clock before it answers.
-/

namespace Spotuify

inductive DaemonLock where
  | providerBuild
  | authMutation
  | providerCommit
  deriving DecidableEq

namespace DaemonLock

/-- The order in which the locks are taken. -/
def rank : DaemonLock → Fin 3
  | .providerBuild => 0
  | .authMutation => 1
  | .providerCommit => 2

theorem rank_injective : Function.Injective rank := by
  intro first second same
  cases first <;> cases second <;> first | rfl | cases same

instance : LinearOrder DaemonLock := LinearOrder.lift' rank rank_injective

instance : Finite DaemonLock := Finite.of_injective rank rank_injective

end DaemonLock

/-- `ProviderRegistryKey`, without the one of injected registries. -/
inductive ProviderRegistryKey where
  | fake
  | configured
  deriving DecidableEq

variable {Providers Credentials : Type}

/-- An accepted configuration: the output device of the default player is set
apart from the rest. -/
structure AcceptedConfig (Providers : Type) where
  providers : Providers
  audioOutput : Option String
  deriving DecidableEq

/-- What a registry is built from, and how many times the cache had been
dropped when the build looked at it. -/
structure RegistryBuild (Providers Credentials : Type) where
  config : Option (AcceptedConfig Providers)
  credentials : Credentials
  dropped : Nat
  deriving DecidableEq

/-- A registry that a call took from the cache, and how many times the cache
had been dropped by then. -/
structure RegistryAnswer (Providers Credentials : Type) where
  registry : RegistryBuild Providers Credentials
  lookedUp : Nat
  deriving DecidableEq

structure ProviderRegistryCache (Providers Credentials : Type) where
  key : Option ProviderRegistryKey
  registry : Option (RegistryBuild Providers Credentials)
  generation : Nat

/-- Whether a build is to be installed or only probes the credentials. -/
inductive BuildPurpose where
  | install
  | probe
  deriving DecidableEq

/-- Where a call has got to.  The number of drops and the generation are read
off the cache together. -/
inductive RegistryStage (Providers Credentials : Type) where
  | look (purpose : BuildPurpose)
  | snapshot (purpose : BuildPurpose) (dropped generation : Nat)
  | build (purpose : BuildPurpose) (dropped generation : Nat)
      (config : Option (AcceptedConfig Providers))
  | check (purpose : BuildPurpose) (generation : Nat)
      (built : RegistryBuild Providers Credentials)
  | install (generation : Nat)
      (built : RegistryBuild Providers Credentials)
  | present (guarded : Bool) (answer : RegistryAnswer Providers Credentials)
  | guard (config : AcceptedConfig Providers)
  | cancelSessions (config : AcceptedConfig Providers)
  | accept (config : AcceptedConfig Providers) (guarded : Bool)
  | dropCache (guarded : Bool)
  | save (credentials : Option Credentials)
  | invalidate
  | forget (recovered : Bool)
  | gate
  | recover
  | setOutput (device : Option String)
  deriving DecidableEq

namespace RegistryStage

/-- The guards a call holds at a stage. -/
def holds : RegistryStage Providers Credentials → List DaemonLock
  | .look _ | .snapshot _ _ _ | .build _ _ _ _ | .guard _ | .gate
  | .setOutput _ => [.providerBuild]
  | .check _ _ _ | .install _ _ | .recover =>
    [.providerBuild, .providerCommit]
  | .present guarded _ =>
    if guarded then [.providerBuild, .providerCommit] else [.providerBuild]
  | .cancelSessions _ => [.providerBuild, .authMutation]
  | .accept _ guarded | .dropCache guarded =>
    if guarded then [.providerBuild, .authMutation, .providerCommit]
    else [.providerBuild, .providerCommit]
  | .save _ => [.authMutation]
  | .invalidate => [.authMutation, .providerCommit]
  | .forget recovered =>
    if recovered then [.providerBuild] else [.authMutation]

end RegistryStage

/-- A call that has answered, waits for the lock of its next stage, or is at a
stage. -/
inductive RegistryCall (Providers Credentials : Type) where
  | finished (answer : Option (RegistryAnswer Providers Credentials))
  | waiting (lock : DaemonLock) (stage : RegistryStage Providers Credentials)
  | running (stage : RegistryStage Providers Credentials)
  deriving DecidableEq

namespace RegistryCall

def demand : RegistryCall Providers Credentials → LockDemand DaemonLock
  | .finished _ => ⟨[], none⟩
  | .waiting lock stage =>
    ⟨stage.holds.filter fun held => held ≠ lock, some lock⟩
  | .running stage => ⟨stage.holds, none⟩

/-- A call that is over and answers nothing. -/
def ended : RegistryCall Providers Credentials := .finished none

end RegistryCall

inductive RegistryRequest (Providers Credentials : Type) where
  | providers
  | applyRuntimeConfig (config : AcceptedConfig Providers)
  /-- A sign-in or sign-out, or a bare reload of the credentials. -/
  | reloadAuth (credentials : Option Credentials)
  | refreshAuthHealth
  | setAudioOutput (device : Option String)

/-- Where a call starts. -/
def RegistryRequest.entry : RegistryRequest Providers Credentials →
    RegistryCall Providers Credentials
  | .providers => .waiting .providerBuild (.look .install)
  | .applyRuntimeConfig config => .waiting .providerBuild (.guard config)
  | .reloadAuth credentials => .waiting .authMutation (.save credentials)
  | .refreshAuthHealth => .waiting .providerBuild .gate
  | .setAudioOutput device => .waiting .providerBuild (.setOutput device)

/-- How a stage ends that may end in several ways. -/
inductive StageOutcome where
  | goesOn
  | fails
  | turns
  deriving DecidableEq

/-- The daemon's registry, the locks and the calls.  The credentials on disk may
be written by others; those at hand are in a token cache or come from the live
session.  Drops of the cache are counted, and each application of a sign-in
outcome is noted with their number. -/
structure RegistrySystem (Providers Credentials : Type) where
  snapshot : Option (AcceptedConfig Providers)
  credentials : Credentials
  atHand : Option Credentials
  cache : ProviderRegistryCache Providers Credentials
  locks : DaemonLock → Option Nat
  calls : Nat → RegistryCall Providers Credentials
  dropped : Nat
  applied : List (RegistryBuild Providers Credentials × Nat)

inductive RegistryAction (Providers Credentials : Type) where
  | start (call : Nat) (request : RegistryRequest Providers Credentials)
  | acquire (call : Nat)
  | advance (call : Nat) (outcome : StageOutcome)
  | writeCredentials (credentials : Credentials)
  | holdCredentials (atHand : Option Credentials)

namespace RegistrySystem

def initial (snapshot : Option (AcceptedConfig Providers))
    (credentials : Credentials) : RegistrySystem Providers Credentials where
  snapshot := snapshot
  credentials := credentials
  atHand := none
  cache := ⟨none, none, 0⟩
  locks := fun _ => none
  calls := fun _ => .ended
  dropped := 0
  applied := []

variable (system : RegistrySystem Providers Credentials)

/-- `invalidate_provider_registry`, and the end of `apply_runtime_config`. -/
def invalidate : RegistrySystem Providers Credentials :=
  { system with
    cache :=
      { key := none
        registry := none
        generation := (system.cache.generation + 1) % 2 ^ 64 }
    dropped := system.dropped + 1 }

def write (credentials : Credentials) :
    RegistrySystem Providers Credentials :=
  { system with credentials := credentials }

def hold (atHand : Option Credentials) :
    RegistrySystem Providers Credentials :=
  { system with atHand := atHand }

/-- `apply_provider_auth_outcome` of what a build found out. -/
def applyOutcome (built : RegistryBuild Providers Credentials) :
    RegistrySystem Providers Credentials :=
  { system with applied := (built, system.dropped) :: system.applied }

/-- The registry that is cached afterwards, unless the build was overtaken. -/
def installProviderRegistry (key : ProviderRegistryKey) (generation : Nat)
    (built : RegistryBuild Providers Credentials) :
    Option (RegistrySystem Providers Credentials ×
      Option (RegistryBuild Providers Credentials)) :=
  if system.cache.generation ≠ generation then none
  else if system.cache.key = some key then
    some (system, system.cache.registry)
  else
    some
      ({ system with
          cache :=
            { system.cache with key := some key, registry := some built } },
        some built)

/-- The credentials at hand, unless they are due for a refresh, and else those
on disk. -/
def accessToken (isDue : Bool) : Credentials :=
  if isDue then system.credentials else system.atHand.getD system.credentials

/-- What is built at once from a configuration and the credentials. -/
def buildFrom (config : Option (AcceptedConfig Providers)) (dropped : Nat)
    (isDue : Bool) : RegistryBuild Providers Credentials :=
  ⟨config, system.accessToken isDue, dropped⟩

/-- One stage of a call: what it changes and where the call goes next. -/
def runStage (key : ProviderRegistryKey)
    (authConfigChanged : AcceptedConfig Providers →
      AcceptedConfig Providers → Bool) (outcome : StageOutcome) :
    RegistryStage Providers Credentials →
      RegistrySystem Providers Credentials × RegistryCall Providers Credentials
  | .look .install =>
    if system.cache.key = some key then
      match system.cache.registry with
      | none => (system, .ended)
      | some registry =>
        (system, .running (.present false ⟨registry, system.dropped⟩))
    else
      (system, .running (.snapshot .install system.dropped
        system.cache.generation))
  | .look .probe =>
    (system, .running (.snapshot .probe system.dropped
      system.cache.generation))
  | .snapshot purpose dropped generation =>
    (system, .running (.build purpose dropped generation system.snapshot))
  | .build purpose dropped generation config =>
    if outcome = .fails then (system, .ended)
    else
      (system.hold (some (system.accessToken (outcome = .turns))),
        .waiting .providerCommit (.check purpose generation
          (system.buildFrom config dropped (outcome = .turns))))
  | .check purpose generation built =>
    if system.cache.generation ≠ generation then
      match purpose with
      | .install => (system, .running (.look .install))
      | .probe => (system, .ended)
    else
      match purpose with
      | .install =>
        (system.applyOutcome built, .running (.install generation built))
      | .probe => (system.applyOutcome built, .ended)
  | .install generation built =>
    match system.installProviderRegistry key generation built with
    | none => (system, .running (.look .install))
    | some (installed, none) => (installed, .ended)
    | some (installed, some registry) =>
      (installed, .running (.present true ⟨registry, installed.dropped⟩))
  | .present _ answer =>
    if outcome = .fails then (system, .ended)
    else (system, .finished (some answer))
  | .guard config =>
    if outcome = .fails then (system, .ended)
    else if (system.snapshot.any fun current =>
        authConfigChanged current config) = true then
      (system, .waiting .authMutation (.cancelSessions config))
    else (system, .waiting .providerCommit (.accept config false))
  | .cancelSessions config =>
    (system, .waiting .providerCommit (.accept config true))
  | .accept config guarded =>
    ({ system with snapshot := some config }, .running (.dropCache guarded))
  | .dropCache _ => ((system.hold none).invalidate, .ended)
  | .save credentials =>
    if outcome = .fails then (system, .ended)
    else
      match credentials with
      | none => (system, .waiting .providerCommit .invalidate)
      | some written =>
        if outcome = .turns then (system.write written, .ended)
        else (system.write written, .waiting .providerCommit .invalidate)
  | .invalidate =>
    if outcome = .fails then (system.invalidate, .ended)
    else (system.invalidate, .running (.forget false))
  | .forget recovered =>
    if recovered then (system.hold none, .running (.look .probe))
    else (system.hold none, .ended)
  | .gate =>
    match outcome with
    | .fails => (system, .ended)
    | .turns => (system, .waiting .providerCommit .recover)
    | .goesOn => (system, .running (.look .probe))
  | .recover => (system.invalidate, .running (.forget true))
  | .setOutput device =>
    if outcome = .fails then (system, .ended)
    else
      ({ system with
          snapshot := system.snapshot.map fun config =>
            { config with audioOutput := device } },
        .ended)

/-- A call goes on; the guards that go out of scope are released. -/
def move (call : Nat) (next : RegistryCall Providers Credentials) :
    RegistrySystem Providers Credentials :=
  { system with
    locks := fun lock =>
      if system.locks lock = some call ∧ lock ∉ next.demand.holds then none
      else system.locks lock
    calls := Function.update system.calls call next }

def step (key : ProviderRegistryKey)
    (authConfigChanged : AcceptedConfig Providers →
      AcceptedConfig Providers → Bool) :
    RegistryAction Providers Credentials →
      Option (RegistrySystem Providers Credentials)
  | .start call request =>
    match system.calls call with
    | .finished _ => some (system.move call request.entry)
    | _ => none
  | .acquire call =>
    match system.calls call with
    | .waiting lock stage =>
      if system.locks lock = none then
        some
          { system with
            locks := Function.update system.locks lock (some call)
            calls := Function.update system.calls call (.running stage) }
      else none
    | _ => none
  | .advance call outcome =>
    match system.calls call with
    | .running stage =>
      let result := system.runStage key authConfigChanged outcome stage
      some (result.1.move call result.2)
    | _ => none
  | .writeCredentials credentials => some (system.write credentials)
  | .holdCredentials atHand => some (system.hold atHand)

def machine (key : ProviderRegistryKey)
    (authConfigChanged : AcceptedConfig Providers →
      AcceptedConfig Providers → Bool) :
    GuardedMachine (RegistrySystem Providers Credentials)
      (RegistryAction Providers Credentials) where
  step system action := system.step key authConfigChanged action

end RegistrySystem

end Spotuify
