import Spotuify.PolicyNotices

/-!
# The parties to the policy notices

The daemon, its broadcast, the client's event connection, its channel and its
seeds take steps in any order.  A gap in the event stream is a new subscription
or a lag.  Publishing says exactly how the daemon's policies change.
-/

namespace Spotuify

open KeyedChange (valueAfter valueStep Truthful)

inductive SeedStage where
  | requested
  | fetching (fetchedAt : Nat)
  | answered (fetchedAt : Nat) (policies : Option (List ProviderPolicyNotice))
      (answeredAt : Nat)

structure PolicySeed where
  generation : Nat
  stage : SeedStage

/-- The client's event connection: the notices of the snapshot that are still
to be sent, none while the snapshot is being built, and the position of the
next event to receive from the broadcast. -/
structure NoticeConnection where
  snapshot : Option (List ProviderPolicyNotice)
  next : Nat

/-- All parties.  The last three fields account for the stream: the number of
events published at its last gap, how many events from before the gap wait in
the client's channel, and whether the client has what it needs to be up to
date once it reads on. -/
structure NoticeSystem where
  policies : ListedPolicies
  barriers : List PlayerPolicyBarrier
  published : List PolicyNoticeEvent
  connection : Option NoticeConnection
  channel : List PolicyNoticeEvent
  nextSeedGeneration : Nat
  seeds : List PolicySeed
  view : PolicyView
  clock : Nat
  gap : Nat
  behind : Nat
  whole : Bool

inductive NoticeAction where
  | emit (provider : ProviderId) (reason : String)
  | barrier (provider : ProviderId)
  | clear (index : Nat)
  | tick (elapsed : Nat)
  | subscribe
  | buildSnapshot
  | sendSnapshot
  | recvEvent
  | lag (next : Nat)
  | disconnect
  | applyEvent
  | spawnSeed
  | noteSeed (index : Nat)
  | fetchSeed (index : Nat)
  | answerSeed (index : Nat) (isOk : Bool)
  | applySeed (index : Nat)
  | dismissError
  | showError (message : String)
  | clearError

namespace NoticeSystem

def initial : NoticeSystem where
  policies := .initial
  barriers := []
  published := []
  connection := none
  channel := []
  nextSeedGeneration := 1
  seeds := []
  view := .initial
  clock := 0
  gap := 0
  behind := 0
  whole := false

variable (system : NoticeSystem)

def publish (outcome : ListedPolicies × List PolicyNoticeEvent) :
    NoticeSystem :=
  { system with
    policies := outcome.1
    published := system.published ++ outcome.2 }

/-- The daemon subscribes the client to what it publishes from now on. -/
def subscribe : NoticeSystem :=
  { system with
    connection := some ⟨none, system.published.length⟩
    gap := system.published.length
    behind := system.channel.length
    whole := system.channel.isEmpty &&
      decide (system.view.activeProviderPolicies = .empty) }

/-- The broadcast dropped what the connection had not received up to a
position. -/
def lag (next : Nat) : NoticeSystem :=
  { system with
    connection := some ⟨some [], next⟩
    gap := next
    behind := system.channel.length
    whole := false }

def receive (connection : NoticeConnection) (event : PolicyNoticeEvent) :
    NoticeSystem :=
  { system with
    connection := some connection
    channel := system.channel ++ [event] }

def applyEvent (event : PolicyNoticeEvent) (rest : List PolicyNoticeEvent) :
    NoticeSystem :=
  { system with
    channel := rest
    behind := system.behind - 1
    view := system.view.applyEvent system.clock event }

/-- Seed generations are `u64` and wrap. -/
def spawnSeed : NoticeSystem :=
  { system with
    nextSeedGeneration := (system.nextSeedGeneration + 1) % 2 ^ 64
    seeds := system.seeds ++ [⟨system.nextSeedGeneration, .requested⟩] }

/-- The client takes the policies of a seed. -/
def takesSeed (generation fetchedAt : Nat) : Bool :=
  !system.view.refusesSeed generation && !system.view.isStale fetchedAt

def applySeed (index generation fetchedAt : Nat)
    (policies : Option (List ProviderPolicyNotice)) (answeredAt : Nat) :
    NoticeSystem :=
  { system with
    seeds := system.seeds.eraseIdx index
    view := system.view.applySeed generation policies fetchedAt
    whole :=
      if policies.isSome && system.takesSeed generation fetchedAt then
        decide (system.gap ≤ answeredAt) && decide (system.behind = 0)
      else system.whole }

def step (sanitize : String → String) (system : NoticeSystem) :
    NoticeAction → Option NoticeSystem
  | .emit provider reason =>
    some (system.publish
      (system.policies.emitForProvider sanitize provider reason system.clock))
  | .barrier provider =>
    some
      { system with
        barriers := system.barriers ++
          [system.policies.state.barrierForProvider provider] }
  | .clear index =>
    system.barriers[index]?.map fun barrier =>
      system.publish (system.policies.clearIfUnchanged sanitize barrier)
  | .tick elapsed => some { system with clock := system.clock + elapsed }
  | .subscribe => some system.subscribe
  | .buildSnapshot =>
    match system.connection with
    | some ⟨none, next⟩ =>
      some
        { system with
          connection := some ⟨some system.policies.active, next⟩ }
    | _ => none
  | .sendSnapshot =>
    match system.connection with
    | some ⟨some (notice :: rest), next⟩ =>
      some (system.receive ⟨some rest, next⟩ (.providerPolicy notice))
    | _ => none
  | .recvEvent =>
    match system.connection with
    | some ⟨some [], next⟩ =>
      system.published[next]?.map fun event =>
        system.receive ⟨some [], next + 1⟩ event
    | _ => none
  | .lag skipped =>
    match system.connection with
    | some ⟨some [], next⟩ =>
      if next < skipped ∧ skipped ≤ system.published.length then
        some (system.lag skipped)
      else none
    | _ => none
  | .disconnect => some { system with connection := none }
  | .applyEvent =>
    match system.channel with
    | event :: rest => some (system.applyEvent event rest)
    | [] => none
  | .spawnSeed => some system.spawnSeed
  | .noteSeed index =>
    system.seeds[index]?.map fun seed =>
      { system with view := system.view.seedStarted seed.generation }
  | .fetchSeed index =>
    match system.seeds[index]? with
    | some ⟨generation, .requested⟩ =>
      some
        { system with
          seeds := system.seeds.set index
            ⟨generation, .fetching system.clock⟩ }
    | _ => none
  | .answerSeed index isOk =>
    match system.seeds[index]? with
    | some ⟨generation, .fetching fetchedAt⟩ =>
      some
        { system with
          seeds := system.seeds.set index
            ⟨generation, .answered fetchedAt
              (if isOk then some system.policies.active else none)
              system.published.length⟩ }
    | _ => none
  | .applySeed index =>
    match system.seeds[index]? with
    | some ⟨generation, .answered fetchedAt policies answeredAt⟩ =>
      some (system.applySeed index generation fetchedAt policies answeredAt)
    | _ => none
  | .dismissError => some { system with view := system.view.dismissError }
  | .showError message =>
    some { system with view := { system.view with error := some message } }
  | .clearError =>
    some { system with view := { system.view with error := none } }

def machine (sanitize : String → String) :
    GuardedMachine NoticeSystem NoticeAction where
  step := step sanitize

/-- The daemon's policy of a provider after its first events. -/
def heldAt (published : List PolicyNoticeEvent) (count : Nat)
    (provider : ProviderId) : Option String :=
  valueAfter provider none
    ((published.take count).map PolicyNoticeEvent.change)

end NoticeSystem

/-- The events say how the policies changed, and drop no reason that was not
held. -/
structure PolicyChanges (before : ListedPolicies)
    (outcome : ListedPolicies × List PolicyNoticeEvent) : Prop where
  after : ∀ provider,
    valueAfter provider (before.reasons.get? provider)
        (outcome.2.map PolicyNoticeEvent.change) =
      outcome.1.reasons.get? provider
  truthful : ∀ provider,
    Truthful provider (before.reasons.get? provider)
      (outcome.2.map PolicyNoticeEvent.change)

namespace ListedPolicies

variable {sanitize : String → String} {policies : ListedPolicies}

/-- Every reason is one that sanitizing leaves alone. -/
def Sanitized (sanitize : String → String) (policies : ListedPolicies) : Prop :=
  ∀ provider reason, policies.reasons.get? provider = some reason →
    sanitize reason = reason

theorem emitForProvider_get? (provider : ProviderId) (reason : String)
    (now : Nat) (other : ProviderId) :
    (policies.emitForProvider sanitize provider reason now).1.reasons.get?
        other =
      if other = provider ∧ policies.state.isStaleRepeat provider
          (sanitize reason) now = false then
        some (sanitize reason)
      else policies.reasons.get? other := by
  rw [(policies.emitForProvider sanitize provider reason now).1.agrees other,
    policies.agrees other]
  simp only [emitForProvider]
  cases stale :
      policies.state.isStaleRepeat provider (sanitize reason) now with
  | true => simp [PlayerPolicyState.emitForProvider_of_stale stale]
  | false =>
    rw [(PlayerPolicyState.emitForProvider_of_fresh stale).1]
    by_cases same : other = provider
    · subst same
      simp
    · simp [same]

/-- A report publishes the reason it made active, unless that is repeated. -/
theorem emitForProvider_changes {reason : String}
    (stable : sanitize (sanitize reason) = sanitize reason)
    (provider : ProviderId) (now : Nat) :
    PolicyChanges policies
      (policies.emitForProvider sanitize provider reason now) := by
  have events : (policies.emitForProvider sanitize provider reason now).2 =
      if (policies.state.recentAt now provider (sanitize reason)).isSome then
        []
      else [.providerPolicy ⟨provider, sanitize reason⟩] := by
    simp only [emitForProvider, PlayerPolicyState.emitForProvider, stable]
    cases (policies.state.recentAt now provider (sanitize reason)).isSome with
    | false => simp
    | true =>
      rw [if_pos rfl, if_pos rfl]
      split <;> rfl
  refine ⟨fun other => ?_, fun other => ?_⟩
  · rw [events, emitForProvider_get?]
    cases remembered :
        (policies.state.recentAt now provider (sanitize reason)).isSome with
    | false =>
      simp [PlayerPolicyState.isStaleRepeat, remembered,
        PolicyNoticeEvent.change, valueStep, eq_comm]
    | true =>
      rw [if_pos rfl, List.map_nil, KeyedChange.valueAfter_nil]
      split
      · next repeated =>
        obtain ⟨rfl, isActive⟩ := repeated
        simp only [PlayerPolicyState.isStaleRepeat, remembered, Bool.true_and,
          decide_eq_false_iff_not, not_not] at isActive
        rw [policies.agrees, isActive]
      · rfl
  · rw [events]
    split
    · trivial
    · refine ⟨fun _ isDrop => ?_, trivial⟩
      cases isDrop

theorem emitForProvider_sanitized {reason : String}
    (sanitized : policies.Sanitized sanitize)
    (stable : sanitize (sanitize reason) = sanitize reason)
    (provider : ProviderId) (now : Nat) :
    (policies.emitForProvider sanitize provider reason now).1.Sanitized
      sanitize := by
  intro other held isHeld
  rw [emitForProvider_get?] at isHeld
  split at isHeld
  · cases isHeld
    exact stable
  · exact sanitized other held isHeld

theorem clearIfUnchanged_get? (barrier : PlayerPolicyBarrier)
    (other : ProviderId) :
    (policies.clearIfUnchanged sanitize barrier).1.reasons.get? other =
      if other = barrier.provider ∧
          (policies.state.clearIfUnchanged barrier).2 = true then none
      else policies.reasons.get? other := by
  rw [(policies.clearIfUnchanged sanitize barrier).1.agrees other,
    policies.agrees other]
  simp only [clearIfUnchanged]
  cases outcome : (policies.state.clearIfUnchanged barrier).2 with
  | false => simp [PlayerPolicyState.clearIfUnchanged_of_false outcome]
  | true =>
    rw [(PlayerPolicyState.clearIfUnchanged_of_true outcome).2]
    by_cases same : other = barrier.provider
    · subst same
      simp
    · simp [same]

/-- A clear publishes the reason that it removed. -/
theorem clearIfUnchanged_changes (sanitized : policies.Sanitized sanitize)
    (barrier : PlayerPolicyBarrier) :
    PolicyChanges policies (policies.clearIfUnchanged sanitize barrier) := by
  cases outcome : (policies.state.clearIfUnchanged barrier).2 with
  | false =>
    have events : (policies.clearIfUnchanged sanitize barrier).2 = [] := by
      simp [clearIfUnchanged, outcome]
    refine ⟨fun other => ?_, fun other => ?_⟩
    · rw [events, clearIfUnchanged_get?, outcome]
      simp
    · rw [events]
      trivial
  | true =>
    obtain ⟨⟨policy, isActive, _⟩, _⟩ :=
      PlayerPolicyState.clearIfUnchanged_of_true outcome
    have held : policies.reasons.get? barrier.provider =
        some policy.reason := by
      rw [policies.agrees, isActive]
      rfl
    have events : (policies.clearIfUnchanged sanitize barrier).2 =
        [.providerPolicyCleared ⟨barrier.provider, policy.reason⟩] := by
      simp [clearIfUnchanged, outcome, held,
        sanitized barrier.provider policy.reason held]
    refine ⟨fun other => ?_, fun other => ?_⟩
    · rw [events, clearIfUnchanged_get?, outcome]
      by_cases same : other = barrier.provider
      · subst same
        simp [PolicyNoticeEvent.change, valueStep, held]
      · simp [PolicyNoticeEvent.change, valueStep, same, Ne.symm same]
    · rw [events]
      refine ⟨fun reason isDrop => ?_, trivial⟩
      cases isDrop
      exact held

theorem clearIfUnchanged_sanitized (sanitized : policies.Sanitized sanitize)
    (barrier : PlayerPolicyBarrier) :
    (policies.clearIfUnchanged sanitize barrier).1.Sanitized sanitize := by
  intro other held isHeld
  rw [clearIfUnchanged_get?] at isHeld
  split at isHeld
  · cases isHeld
  · exact sanitized other held isHeld

end ListedPolicies

end Spotuify
