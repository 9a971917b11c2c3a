import Spotuify.NoticeStreams

/-!
# What the terminal client knows of the provider policies

Once the client has applied a seed that was answered since the last gap in its
event stream, or was empty when it subscribed, and has applied all that was
published, it holds the daemon's policies exactly.  What it displays is always
a policy that it holds and that the user has not dismissed.
-/

namespace Spotuify

open KeyedChange (valueAfter valueStep Truthful)

namespace NoticeSystem

variable {sanitize : String → String} {system next : NoticeSystem}

/-- What a seed carries is what the daemon held when it answered. -/
def Honest (published : List PolicyNoticeEvent) (clock : Nat) :
    SeedStage → Prop
  | .requested => True
  | .fetching fetchedAt => fetchedAt ≤ clock
  | .answered fetchedAt policies answeredAt =>
    fetchedAt ≤ clock ∧ answeredAt ≤ published.length ∧
      ∀ notices, policies = some notices →
        ∃ reasons : SortedMap ProviderId String, notices = noticesOf reasons ∧
          ∀ provider, reasons.get? provider =
            heldAt published answeredAt provider

/-- What was published is the daemon's account of its policies. -/
structure Logged (sanitize : String → String) (system : NoticeSystem) :
    Prop where
  sanitized : system.policies.Sanitized sanitize
  truthful : ∀ provider,
    Truthful provider none (system.published.map PolicyNoticeEvent.change)
  replayed : ∀ provider,
    valueAfter provider none (system.published.map PolicyNoticeEvent.change) =
      system.policies.reasons.get? provider
  seeds : ∀ seed ∈ system.seeds,
    Honest system.published system.clock seed.stage

/-- What the client has still to apply once the events from before the gap are
gone: the rest of a snapshot, and then the published events from a position
on. -/
structure Aligned (system : NoticeSystem) (connection : NoticeConnection)
    (pending : List ProviderPolicyNotice) (position : Nat) : Prop where
  unread : system.channel.drop system.behind ++
      (connection.snapshot.getD []).map PolicyNoticeEvent.providerPolicy =
    pending.map PolicyNoticeEvent.providerPolicy ++
      (system.published.take connection.next).drop position
  behindChannel : system.behind ≤ system.channel.length
  sinceGap : system.gap ≤ position
  received : position ≤ connection.next
  published : connection.next ≤ system.published.length
  pendingFirst : pending ≠ [] → position = system.gap
  snapshotFirst : connection.snapshot ≠ some [] →
    connection.next = system.gap
  unbuilt : connection.snapshot = none → pending = []
  pendingHeld : ∃ time, system.gap ≤ time ∧ time ≤ system.published.length ∧
    ∀ notice ∈ pending,
      heldAt system.published time notice.provider = some notice.reason
  freshSeeds : ∀ seed ∈ system.seeds, ∀ fetchedAt policies answeredAt,
    seed.stage = .answered fetchedAt policies answeredAt →
      system.gap ≤ answeredAt →
        position ≤ answeredAt ∨ system.view.isStale fetchedAt = true

/-- What the client holds and has still to apply makes it up to date. -/
structure UpToDate (system : NoticeSystem) (connection : NoticeConnection) :
    Prop where
  nothingBehind : system.behind = 0
  unbuilt : connection.snapshot = none → ∀ provider,
    system.view.activeProviderPolicies.get? provider = none ∨
      ∃ time, system.gap ≤ time ∧ time ≤ system.published.length ∧
        system.view.activeProviderPolicies.get? provider =
          heldAt system.published time provider
  built : ∀ snapshot, connection.snapshot = some snapshot → ∀ provider,
    valueAfter provider (system.view.activeProviderPolicies.get? provider)
        ((system.channel ++ snapshot.map PolicyNoticeEvent.providerPolicy ++
          system.published.drop connection.next).map
            PolicyNoticeEvent.change) =
      system.policies.reasons.get? provider

/-- The invariant of the notices. -/
structure Accounted (sanitize : String → String) (system : NoticeSystem) :
    Prop where
  logged : system.Logged sanitize
  connected : ∀ connection, system.connection = some connection →
    (∃ pending position, system.Aligned connection pending position) ∧
      (system.whole = true → system.UpToDate connection)

theorem heldAt_append {published events : List PolicyNoticeEvent}
    {count : Nat} (known : count ≤ published.length) (provider : ProviderId) :
    heldAt (published ++ events) count provider =
      heldAt published count provider := by
  rw [heldAt, heldAt, List.take_append_of_le_length known]

theorem heldAt_length (published : List PolicyNoticeEvent)
    (provider : ProviderId) :
    heldAt published published.length provider =
      valueAfter provider none (published.map PolicyNoticeEvent.change) := by
  rw [heldAt, List.take_length]

theorem Honest.publish {published : List PolicyNoticeEvent} {clock : Nat}
    {stage : SeedStage} (honest : Honest published clock stage)
    (events : List PolicyNoticeEvent) :
    Honest (published ++ events) clock stage := by
  cases stage with
  | requested => trivial
  | fetching fetchedAt => exact honest
  | answered fetchedAt policies answeredAt =>
    obtain ⟨fetched, answered, carries⟩ := honest
    refine ⟨fetched, ?_, ?_⟩
    · rw [List.length_append]
      omega
    · intro notices isSome
      obtain ⟨reasons, isNotices, held⟩ := carries notices isSome
      refine ⟨reasons, isNotices, fun provider => ?_⟩
      rw [held provider, heldAt_append answered]

theorem Logged.publish (logged : system.Logged sanitize)
    {outcome : ListedPolicies × List PolicyNoticeEvent}
    (changes : PolicyChanges system.policies outcome)
    (sanitized : outcome.1.Sanitized sanitize) :
    (system.publish outcome).Logged sanitize where
  sanitized := sanitized
  truthful := by
    intro provider
    simp only [NoticeSystem.publish, List.map_append]
    rw [KeyedChange.truthful_append, logged.replayed provider]
    exact ⟨logged.truthful provider, changes.truthful provider⟩
  replayed := by
    intro provider
    simp only [NoticeSystem.publish, List.map_append]
    rw [KeyedChange.valueAfter_append, logged.replayed provider]
    exact changes.after provider
  seeds := fun seed member => (logged.seeds seed member).publish outcome.2

theorem Aligned.publish {connection : NoticeConnection}
    {pending : List ProviderPolicyNotice} {position : Nat}
    (aligned : system.Aligned connection pending position)
    (outcome : ListedPolicies × List PolicyNoticeEvent) :
    (system.publish outcome).Aligned connection pending position := by
  obtain ⟨time, sinceGap, known, held⟩ := aligned.pendingHeld
  have longer : system.published.length ≤
      (system.published ++ outcome.2).length := by
    rw [List.length_append]
    omega
  exact
    { aligned with
      unread := by
        simp only [NoticeSystem.publish]
        rw [List.take_append_of_le_length aligned.published]
        exact aligned.unread
      published := aligned.published.trans longer
      pendingHeld := by
        refine ⟨time, sinceGap, known.trans longer, fun notice member => ?_⟩
        simp only [NoticeSystem.publish]
        rw [heldAt_append known]
        exact held notice member }

theorem UpToDate.publish {connection : NoticeConnection}
    (upToDate : system.UpToDate connection)
    (received : connection.next ≤ system.published.length)
    {outcome : ListedPolicies × List PolicyNoticeEvent}
    (changes : PolicyChanges system.policies outcome) :
    (system.publish outcome).UpToDate connection where
  nothingBehind := upToDate.nothingBehind
  unbuilt := by
    intro isUnbuilt provider
    rcases upToDate.unbuilt isUnbuilt provider with
      empty | ⟨time, since, known, held⟩
    · exact Or.inl empty
    · refine Or.inr ⟨time, since, ?_, ?_⟩
      · simp only [NoticeSystem.publish, List.length_append]
        omega
      · simp only [NoticeSystem.publish]
        rw [heldAt_append known]
        exact held
  built := by
    intro snapshot isBuilt provider
    simp only [NoticeSystem.publish]
    rw [List.drop_append_of_le_length received, ← List.append_assoc,
      List.map_append, KeyedChange.valueAfter_append,
      upToDate.built snapshot isBuilt provider]
    exact changes.after provider

theorem Accounted.publish (accounted : system.Accounted sanitize)
    {outcome : ListedPolicies × List PolicyNoticeEvent}
    (changes : PolicyChanges system.policies outcome)
    (sanitized : outcome.1.Sanitized sanitize) :
    (system.publish outcome).Accounted sanitize where
  logged := accounted.logged.publish changes sanitized
  connected := by
    intro connection isConnected
    obtain ⟨⟨pending, position, aligned⟩, upToDate⟩ :=
      accounted.connected connection isConnected
    exact ⟨⟨pending, position, aligned.publish outcome⟩, fun isWhole =>
      (upToDate isWhole).publish aligned.published changes⟩

/-- A seed is as it was, or is being fetched, or is answered just now. -/
def SeedKept (system : NoticeSystem) (clock : Nat) (seed : PolicySeed) : Prop :=
  (∃ old ∈ system.seeds, seed.stage = old.stage) ∨
    Honest system.published clock seed.stage ∧
      ∀ fetchedAt policies answeredAt,
        seed.stage = .answered fetchedAt policies answeredAt →
          answeredAt = system.published.length

theorem Honest.later {published : List PolicyNoticeEvent} {clock later : Nat}
    {stage : SeedStage} (honest : Honest published clock stage)
    (since : clock ≤ later) : Honest published later stage := by
  cases stage with
  | requested => trivial
  | fetching fetchedAt => exact Nat.le_trans honest since
  | answered fetchedAt policies answeredAt =>
    exact ⟨Nat.le_trans honest.1 since, honest.2⟩

theorem Accounted.quiet (accounted : system.Accounted sanitize)
    {barriers : List PlayerPolicyBarrier} {generation clock : Nat}
    {seeds : List PolicySeed} {view : PolicyView}
    (since : system.clock ≤ clock)
    (kept : ∀ seed ∈ seeds, system.SeedKept clock seed)
    (sameActive : view.activeProviderPolicies =
      system.view.activeProviderPolicies)
    (sameUpdated : view.providerPolicyUpdatedAt =
      system.view.providerPolicyUpdatedAt) :
    { system with
      barriers := barriers
      nextSeedGeneration := generation
      seeds := seeds
      view := view
      clock := clock : NoticeSystem }.Accounted sanitize where
  logged :=
    { accounted.logged with
      seeds := by
        intro seed member
        rcases kept seed member with ⟨old, wasHere, same⟩ | ⟨honest, _⟩
        · rw [same]
          exact (accounted.logged.seeds old wasHere).later since
        · exact honest }
  connected := by
    intro connection isConnected
    obtain ⟨⟨pending, position, aligned⟩, upToDate⟩ :=
      accounted.connected connection isConnected
    refine ⟨⟨pending, position, { aligned with freshSeeds := ?_ }⟩, ?_⟩
    · intro seed member fetchedAt policies answeredAt isAnswered sinceGap
      simp only [PolicyView.isStale, sameUpdated]
      rcases kept seed member with ⟨old, wasHere, same⟩ | ⟨_, justNow⟩
      · exact aligned.freshSeeds old wasHere fetchedAt policies answeredAt
          (same.symm.trans isAnswered) sinceGap
      · left
        rw [justNow fetchedAt policies answeredAt isAnswered]
        exact aligned.received.trans aligned.published
    · intro isWhole
      have kept := upToDate isWhole
      exact
        { nothingBehind := kept.nothingBehind
          unbuilt := by
            simp only [sameActive]
            exact kept.unbuilt
          built := by
            simp only [sameActive]
            exact kept.built }

theorem SeedKept.same {clock : Nat} {seed : PolicySeed}
    (member : seed ∈ system.seeds) : system.SeedKept clock seed :=
  Or.inl ⟨seed, member, rfl⟩

/-- One seed moves on. -/
theorem SeedKept.set {clock index : Nat} {moved : PolicySeed}
    (kept : system.SeedKept clock moved) :
    ∀ seed ∈ system.seeds.set index moved, system.SeedKept clock seed := by
  intro seed member
  rcases List.mem_or_eq_of_mem_set member with old | rfl
  · exact .same old
  · exact kept

/-- Nothing of the stream since its gap is there yet. -/
theorem Aligned.atGap {connection : NoticeConnection} {gap : Nat}
    (noNotices : connection.snapshot.getD [] = [])
    (nextIsGap : connection.next = gap)
    (published : gap ≤ system.published.length) (whole : Bool) :
    { system with
      connection := some connection
      gap := gap
      behind := system.channel.length
      whole := whole : NoticeSystem }.Aligned connection [] gap where
  unread := by
    rw [noNotices, nextIsGap]
    simp
  behindChannel := Nat.le_refl _
  sinceGap := Nat.le_refl _
  received := nextIsGap.ge
  published := nextIsGap.le.trans published
  pendingFirst := fun nonempty => absurd rfl nonempty
  snapshotFirst := fun _ => nextIsGap
  unbuilt := fun _ => rfl
  pendingHeld := ⟨gap, Nat.le_refl _, published, fun _ member => by
    cases member⟩
  freshSeeds := fun _ _ _ _ _ _ sinceGap => Or.inl sinceGap

theorem Accounted.subscribe (accounted : system.Accounted sanitize) :
    system.subscribe.Accounted sanitize where
  logged := { accounted.logged with }
  connected := by
    intro connection isConnected
    cases isConnected
    refine ⟨⟨[], system.published.length,
      Aligned.atGap rfl rfl (Nat.le_refl _) _⟩, ?_⟩
    intro isWhole
    have isFresh : system.channel.isEmpty = true ∧
        system.view.activeProviderPolicies = .empty := by
      simpa [NoticeSystem.subscribe] using isWhole
    refine ⟨?_, ?_, ?_⟩
    · rw [List.isEmpty_iff] at isFresh
      simp [NoticeSystem.subscribe, isFresh.1]
    · intro _ provider
      left
      simp [NoticeSystem.subscribe, isFresh.2]
    · intro snapshot isBuilt
      cases isBuilt

theorem Accounted.lag (accounted : system.Accounted sanitize) {skipped : Nat}
    (published : skipped ≤ system.published.length) :
    (system.lag skipped).Accounted sanitize where
  logged := { accounted.logged with }
  connected := by
    intro connection isConnected
    cases isConnected
    refine ⟨⟨[], skipped, Aligned.atGap rfl rfl published _⟩, ?_⟩
    intro isWhole
    cases isWhole

theorem Accounted.disconnect (accounted : system.Accounted sanitize) :
    { system with connection := none : NoticeSystem }.Accounted sanitize where
  logged := { accounted.logged with }
  connected := by
    intro connection isConnected
    cases isConnected

/-- Whatever the client holds from since a position, the published events from
that position on bring it up to date. -/
theorem Logged.catchUp (logged : system.Logged sanitize) {position time : Nat}
    (since : position ≤ time) (provider : ProviderId) :
    valueAfter provider (heldAt system.published time provider)
        ((system.published.drop position).map PolicyNoticeEvent.change) =
      system.policies.reasons.get? provider := by
  rw [heldAt, List.map_take, List.map_drop,
    KeyedChange.valueAfter_drop_of_take (logged.truthful provider) since,
    logged.replayed provider]

/-- Notices leave what was held, or a reason of theirs. -/
theorem valueAfter_notices (provider : ProviderId) (held : Option String)
    (notices : List ProviderPolicyNotice) :
    let after := valueAfter provider held
      ((notices.map PolicyNoticeEvent.providerPolicy).map
        PolicyNoticeEvent.change)
    (after = held ∧ ∀ notice ∈ notices, notice.provider ≠ provider) ∨
      ∃ notice ∈ notices, notice.provider = provider ∧
        after = some notice.reason := by
  induction notices generalizing held with
  | nil => exact Or.inl ⟨rfl, fun _ member => by cases member⟩
  | cons notice rest inductionHypothesis =>
    simp only [List.map_cons, KeyedChange.valueAfter_cons]
    rcases inductionHypothesis (valueStep provider held
      (PolicyNoticeEvent.providerPolicy notice).change) with
      ⟨same, others⟩ | ⟨found, member, ofProvider, isReason⟩
    · by_cases ofProvider : notice.provider = provider
      · refine Or.inr ⟨notice, List.mem_cons_self, ofProvider, ?_⟩
        rw [same, PolicyNoticeEvent.change, ofProvider,
          KeyedChange.valueStep_put_self]
      · refine Or.inl ⟨?_, ?_⟩
        · rw [same, PolicyNoticeEvent.change,
            KeyedChange.valueStep_put_other ofProvider]
        · intro other member
          rcases List.mem_cons.mp member with rfl | inRest
          · exact ofProvider
          · exact others other inRest
    · exact Or.inr ⟨found, List.mem_cons_of_mem _ member, ofProvider, isReason⟩

/-- Notices of one time and then the events since bring what was held up to
date. -/
theorem Logged.catchUp_notices (logged : system.Logged sanitize)
    {notices : List ProviderPolicyNotice} {position time : Nat}
    {provider : ProviderId} {held : Option String}
    (since : position ≤ time)
    (noticesHeld : ∀ notice ∈ notices,
      heldAt system.published time notice.provider = some notice.reason)
    (otherwise : (∀ notice ∈ notices, notice.provider ≠ provider) →
      ∃ known, position ≤ known ∧
        held = heldAt system.published known provider) :
    valueAfter provider held
        ((notices.map PolicyNoticeEvent.providerPolicy ++
          system.published.drop position).map PolicyNoticeEvent.change) =
      system.policies.reasons.get? provider := by
  rw [List.map_append, KeyedChange.valueAfter_append]
  rcases valueAfter_notices provider held notices with
    ⟨same, others⟩ | ⟨notice, member, ofProvider, isReason⟩
  · obtain ⟨known, sinceKnown, isHeld⟩ := otherwise others
    rw [same, isHeld]
    exact logged.catchUp sinceKnown provider
  · rw [isReason, ← noticesHeld notice member, ofProvider]
    exact logged.catchUp since provider

/-- What is unread, with what is not yet received. -/
theorem Aligned.remaining {connection : NoticeConnection}
    {pending : List ProviderPolicyNotice} {position : Nat}
    (aligned : system.Aligned connection pending position)
    (nothingBehind : system.behind = 0)
    {snapshot : List ProviderPolicyNotice}
    (isBuilt : connection.snapshot = some snapshot) :
    system.channel ++ snapshot.map PolicyNoticeEvent.providerPolicy ++
        system.published.drop connection.next =
      pending.map PolicyNoticeEvent.providerPolicy ++
        system.published.drop position := by
  have unread := aligned.unread
  rw [nothingBehind, List.drop_zero, isBuilt, Option.getD_some] at unread
  rw [unread, List.append_assoc]
  congr 1
  rw [← List.drop_append_of_le_length, List.take_append_drop]
  rw [List.length_take]
  exact Nat.le_min.mpr
    ⟨aligned.received, aligned.received.trans aligned.published⟩

/-- Before the snapshot is built nothing waits in the channel. -/
theorem Aligned.channel_of_unbuilt {connection : NoticeConnection}
    {pending : List ProviderPolicyNotice} {position : Nat}
    (aligned : system.Aligned connection pending position)
    (isUnbuilt : connection.snapshot = none) :
    system.channel.drop system.behind = [] ∧ position = system.gap ∧
      connection.next = system.gap := by
  have nextIsGap := aligned.snapshotFirst (by rw [isUnbuilt]; simp)
  have atGap : position = system.gap := by
    have sinceGap := aligned.sinceGap
    have received := aligned.received
    omega
  refine ⟨?_, atGap, nextIsGap⟩
  have unread := aligned.unread
  rw [isUnbuilt, aligned.unbuilt isUnbuilt, atGap, nextIsGap] at unread
  simpa using unread

theorem Accounted.buildSnapshot (accounted : system.Accounted sanitize)
    {next : Nat} (isConnected : system.connection = some ⟨none, next⟩) :
    { system with
      connection := some ⟨some system.policies.active, next⟩ :
        NoticeSystem }.Accounted sanitize where
  logged := { accounted.logged with }
  connected := by
    intro connection isBuilt
    cases isBuilt
    obtain ⟨⟨pending, position, aligned⟩, upToDate⟩ :=
      accounted.connected _ isConnected
    obtain ⟨nothingUnread, atGap, nextIsGap⟩ := aligned.channel_of_unbuilt rfl
    subst atGap
    have noticesHeld : ∀ notice ∈ system.policies.active,
        heldAt system.published system.published.length notice.provider =
          some notice.reason := by
      intro notice member
      rw [heldAt_length, accounted.logged.replayed notice.provider]
      exact PolicyView.mem_noticesOf.mp member
    have built : Aligned
        { system with
          connection := some ⟨some system.policies.active, next⟩ }
        ⟨some system.policies.active, next⟩ system.policies.active
        system.gap :=
      { aligned with
        unread := by
          rw [nothingUnread, nextIsGap]
          simp
        pendingFirst := fun _ => rfl
        snapshotFirst := fun _ => nextIsGap
        unbuilt := fun isNone => by cases isNone
        pendingHeld := ⟨system.published.length,
          aligned.sinceGap.trans (aligned.received.trans aligned.published),
          Nat.le_refl _, noticesHeld⟩ }
    refine ⟨⟨_, _, built⟩, fun isWhole => ?_⟩
    have wasUpToDate := upToDate isWhole
    refine ⟨wasUpToDate.nothingBehind, fun isNone => (by cases isNone), ?_⟩
    intro snapshot isSnapshot provider
    rw [built.remaining wasUpToDate.nothingBehind isSnapshot]
    apply accounted.logged.catchUp_notices
      (aligned.received.trans aligned.published) noticesHeld
    intro notListed
    rcases wasUpToDate.unbuilt rfl provider with
      empty | ⟨time, since, known, held⟩
    · refine ⟨system.published.length,
        aligned.received.trans aligned.published, ?_⟩
      rw [empty, heldAt_length, accounted.logged.replayed provider]
      cases isHeld : system.policies.reasons.get? provider with
      | none => rfl
      | some reason =>
        exact absurd rfl
          (notListed ⟨provider, reason⟩ (PolicyView.mem_noticesOf.mpr isHeld))
    · exact ⟨time, since, held⟩

theorem Accounted.sendSnapshot (accounted : system.Accounted sanitize)
    {notice : ProviderPolicyNotice} {rest : List ProviderPolicyNotice}
    {next : Nat}
    (isConnected : system.connection = some ⟨some (notice :: rest), next⟩) :
    (system.receive ⟨some rest, next⟩ (.providerPolicy notice)).Accounted
      sanitize where
  logged := { accounted.logged with }
  connected := by
    intro connection isSent
    cases isSent
    obtain ⟨⟨pending, position, aligned⟩, upToDate⟩ :=
      accounted.connected _ isConnected
    have atGap := aligned.snapshotFirst (by simp)
    refine ⟨⟨pending, position, { aligned with
      unread := ?_
      behindChannel := ?_
      snapshotFirst := fun _ => atGap
      unbuilt := fun isNone => by cases isNone }⟩, fun isWhole => ?_⟩
    · have unread := aligned.unread
      simp only [NoticeSystem.receive]
      rw [List.drop_append_of_le_length aligned.behindChannel,
        List.append_assoc]
      exact unread
    · have longer := aligned.behindChannel
      simp only [NoticeSystem.receive, List.length_append]
      omega
    · have wasUpToDate := upToDate isWhole
      refine ⟨wasUpToDate.nothingBehind, fun isNone => (by cases isNone), ?_⟩
      intro snapshot isSnapshot provider
      cases isSnapshot
      have before := wasUpToDate.built _ rfl provider
      simp only [NoticeSystem.receive]
      rw [List.append_assoc system.channel [_]]
      exact before

theorem Accounted.recvEvent (accounted : system.Accounted sanitize)
    {event : PolicyNoticeEvent} {next : Nat}
    (isConnected : system.connection = some ⟨some [], next⟩)
    (isPublished : system.published[next]? = some event) :
    (system.receive ⟨some [], next + 1⟩ event).Accounted sanitize where
  logged := { accounted.logged with }
  connected := by
    intro connection isReceived
    cases isReceived
    obtain ⟨⟨pending, position, aligned⟩, upToDate⟩ :=
      accounted.connected _ isConnected
    obtain ⟨inRange, isEvent⟩ := List.getElem?_eq_some_iff.mp isPublished
    have longer : system.published.take (next + 1) =
        system.published.take next ++ [event] := by
      rw [List.take_add_one, isPublished, Option.toList_some]
    refine ⟨⟨pending, position, { aligned with
      unread := ?_
      behindChannel := ?_
      received := Nat.le_succ_of_le aligned.received
      published := inRange
      snapshotFirst := fun notEmpty => absurd rfl notEmpty
      unbuilt := fun isNone => by cases isNone }⟩, fun isWhole => ?_⟩
    · have unread := aligned.unread
      simp only [Option.getD_some, List.map_nil, List.append_nil] at unread ⊢
      simp only [NoticeSystem.receive]
      rw [List.drop_append_of_le_length aligned.behindChannel, unread, longer,
        List.drop_append_of_le_length, List.append_assoc]
      rw [List.length_take]
      exact Nat.le_min.mpr
        ⟨aligned.received, aligned.received.trans aligned.published⟩
    · have kept := aligned.behindChannel
      simp only [NoticeSystem.receive, List.length_append]
      omega
    · have wasUpToDate := upToDate isWhole
      refine ⟨wasUpToDate.nothingBehind, fun isNone => (by cases isNone), ?_⟩
      intro snapshot isSnapshot provider
      cases isSnapshot
      have before := wasUpToDate.built [] rfl provider
      have remaining : system.published.drop next =
          event :: system.published.drop (next + 1) := by
        rw [List.drop_eq_getElem_cons inRange, isEvent]
      simp only [NoticeSystem.receive, List.map_nil, List.append_nil] at before ⊢
      rw [List.append_assoc, List.singleton_append, ← remaining]
      exact before

/-- An event applied now makes every seed stale that is under way. -/
theorem Logged.seeds_stale (logged : system.Logged sanitize)
    (event : PolicyNoticeEvent) {seed : PolicySeed}
    (member : seed ∈ system.seeds) {fetchedAt answeredAt : Nat}
    {policies : Option (List ProviderPolicyNotice)}
    (isAnswered : seed.stage = .answered fetchedAt policies answeredAt) :
    (system.view.applyEvent system.clock event).isStale fetchedAt = true := by
  have honest := logged.seeds seed member
  rw [isAnswered] at honest
  rw [PolicyView.isStale, PolicyView.applyEvent_updatedAt]
  simpa using honest.1

theorem Aligned.applyEvent {connection : NoticeConnection}
    {pending : List ProviderPolicyNotice} {position : Nat}
    (aligned : system.Aligned connection pending position)
    (logged : system.Logged sanitize) {event : PolicyNoticeEvent}
    {rest : List PolicyNoticeEvent} (isNext : system.channel = event :: rest) :
    ∃ pending position,
      (system.applyEvent event rest).Aligned connection pending position := by
  have unread := aligned.unread
  have behindChannel := aligned.behindChannel
  rw [isNext] at unread behindChannel
  rw [List.length_cons] at behindChannel
  have freshSeeds : ∀ later : Nat, ∀ seed ∈ system.seeds,
      ∀ fetchedAt policies answeredAt,
        seed.stage = .answered fetchedAt policies answeredAt →
          system.gap ≤ answeredAt → later ≤ answeredAt ∨
            (system.view.applyEvent system.clock event).isStale fetchedAt =
              true :=
    fun _ seed member _ _ _ isAnswered _ =>
      Or.inr (logged.seeds_stale event member isAnswered)
  rcases Nat.eq_zero_or_pos system.behind with atFront | fromBefore
  case inr =>
    refine ⟨pending, position, { aligned with
      unread := ?_
      behindChannel := ?_
      freshSeeds := freshSeeds position }⟩
    · simp only [NoticeSystem.applyEvent]
      rw [← unread]
      congr 1
      obtain ⟨before, isSucc⟩ := Nat.exists_eq_succ_of_ne_zero fromBefore.ne'
      rw [isSucc]
      rfl
    · simp only [NoticeSystem.applyEvent]
      omega
  rw [atFront, List.drop_zero, List.cons_append] at unread
  have nothingBehind : system.behind - 1 = 0 := by omega
  cases pending with
  | cons notice others =>
    rw [List.map_cons, List.cons_append] at unread
    obtain ⟨time, since, known, held⟩ := aligned.pendingHeld
    refine ⟨others, position, { aligned with
      unread := ?_
      behindChannel := ?_
      pendingFirst := fun _ => aligned.pendingFirst (by simp)
      unbuilt := fun isNone => by cases aligned.unbuilt isNone
      pendingHeld := ⟨time, since, known, fun other member =>
        held other (List.mem_cons_of_mem _ member)⟩
      freshSeeds := freshSeeds position }⟩
    · simp only [NoticeSystem.applyEvent]
      rw [nothingBehind, List.drop_zero]
      exact (List.cons.inj unread).2
    · simp only [NoticeSystem.applyEvent, nothingBehind]
      exact Nat.zero_le _
  | nil =>
    rw [List.map_nil, List.nil_append] at unread
    have inRange : position < (system.published.take connection.next).length := by
      by_contra outside
      rw [List.drop_eq_nil_of_le (Nat.le_of_not_lt outside)] at unread
      cases unread
    rw [List.drop_eq_getElem_cons inRange] at unread
    refine ⟨[], position + 1, { aligned with
      unread := ?_
      behindChannel := ?_
      sinceGap := Nat.le_succ_of_le aligned.sinceGap
      received := ?_
      pendingFirst := fun nonempty => absurd rfl nonempty
      freshSeeds := freshSeeds (position + 1) }⟩
    · simp only [NoticeSystem.applyEvent]
      rw [nothingBehind, List.drop_zero, List.map_nil, List.nil_append]
      exact (List.cons.inj unread).2
    · simp only [NoticeSystem.applyEvent, nothingBehind]
      exact Nat.zero_le _
    · rw [List.length_take] at inRange
      exact (Nat.lt_min.mp inRange).1

theorem Accounted.applyEvent (accounted : system.Accounted sanitize)
    {event : PolicyNoticeEvent} {rest : List PolicyNoticeEvent}
    (isNext : system.channel = event :: rest) :
    (system.applyEvent event rest).Accounted sanitize where
  logged := { accounted.logged with }
  connected := by
    intro connection isConnected
    obtain ⟨⟨pending, position, aligned⟩, upToDate⟩ :=
      accounted.connected connection isConnected
    refine ⟨aligned.applyEvent accounted.logged isNext, fun isWhole => ?_⟩
    have wasUpToDate := upToDate isWhole
    have nothingBehind := wasUpToDate.nothingBehind
    refine ⟨?_, ?_, ?_⟩
    · simp only [NoticeSystem.applyEvent, nothingBehind]
    · intro isUnbuilt
      have empty := (aligned.channel_of_unbuilt isUnbuilt).1
      rw [nothingBehind, isNext] at empty
      cases empty
    · intro snapshot isBuilt provider
      have before := wasUpToDate.built snapshot isBuilt provider
      simp only [NoticeSystem.applyEvent, PolicyView.applyEvent_get?]
      rw [isNext, List.cons_append, List.cons_append, List.map_cons,
        KeyedChange.valueAfter_cons] at before
      exact before

/-- Policies taken from a seed that was answered since the gap make the client
up to date. -/
theorem Aligned.upToDate_of_seed {connection : NoticeConnection}
    {pending : List ProviderPolicyNotice} {position answeredAt : Nat}
    {whole : Bool} {seeds : List PolicySeed} {view : PolicyView}
    (aligned : system.Aligned connection pending position)
    (logged : system.Logged sanitize) (nothingBehind : system.behind = 0)
    (sinceGap : system.gap ≤ answeredAt)
    (known : answeredAt ≤ system.published.length)
    (notPassed : position ≤ answeredAt)
    (held : ∀ provider, view.activeProviderPolicies.get? provider =
      heldAt system.published answeredAt provider) :
    { system with
      seeds := seeds
      view := view
      whole := whole : NoticeSystem }.UpToDate connection where
  nothingBehind := nothingBehind
  unbuilt := fun _ provider =>
    Or.inr ⟨answeredAt, sinceGap, known, held provider⟩
  built := by
    intro snapshot isBuilt provider
    dsimp only
    rw [aligned.remaining nothingBehind isBuilt]
    obtain ⟨time, timeSinceGap, _, pendingHeld⟩ := aligned.pendingHeld
    by_cases isEmpty : pending = []
    · subst isEmpty
      rw [held provider, List.map_nil, List.nil_append]
      exact logged.catchUp notPassed provider
    · rw [aligned.pendingFirst isEmpty]
      exact logged.catchUp_notices timeSinceGap pendingHeld fun _ =>
        ⟨answeredAt, sinceGap, held provider⟩

theorem Accounted.applySeed (accounted : system.Accounted sanitize)
    {index generation fetchedAt answeredAt : Nat}
    {policies : Option (List ProviderPolicyNotice)}
    (isSeed : system.seeds[index]? =
      some ⟨generation, .answered fetchedAt policies answeredAt⟩) :
    (system.applySeed index generation fetchedAt policies answeredAt).Accounted
      sanitize := by
  have seedMember := List.mem_of_getElem? isSeed
  obtain ⟨_, known, carries⟩ := accounted.logged.seeds _ seedMember
  refine
    { logged := { accounted.logged with
        seeds := fun seed member =>
          accounted.logged.seeds seed (List.mem_of_mem_eraseIdx member) }
      connected := ?_ }
  intro connection isConnected
  obtain ⟨⟨pending, position, aligned⟩, upToDate⟩ :=
    accounted.connected connection isConnected
  refine ⟨⟨pending, position, { aligned with freshSeeds := ?_ }⟩, ?_⟩
  · intro seed member
    simp only [NoticeSystem.applySeed, PolicyView.isStale,
      PolicyView.applySeed_updatedAt]
    exact aligned.freshSeeds seed (List.mem_of_mem_eraseIdx member)
  · intro isWhole
    cases taken : policies.isSome && system.takesSeed generation fetchedAt with
    | false =>
      simp only [NoticeSystem.applySeed, taken] at isWhole
      have wasUpToDate := upToDate isWhole
      have same : (system.view.applySeed generation policies
          fetchedAt).activeProviderPolicies =
            system.view.activeProviderPolicies := by
        apply PolicyView.applySeed_active_of_not
        cases policies with
        | none => exact Or.inl rfl
        | some notices =>
          rw [Option.isSome_some, Bool.true_and, takesSeed,
            Bool.and_eq_false_iff, Bool.not_eq_false', Bool.not_eq_false']
            at taken
          exact Or.inr taken
      exact
        { nothingBehind := wasUpToDate.nothingBehind
          unbuilt := by
            simp only [NoticeSystem.applySeed, same]
            exact wasUpToDate.unbuilt
          built := by
            simp only [NoticeSystem.applySeed, same]
            exact wasUpToDate.built }
    | true =>
      simp only [NoticeSystem.applySeed, taken, if_true, Bool.and_eq_true,
        decide_eq_true_eq] at isWhole
      rw [Bool.and_eq_true, takesSeed, Bool.and_eq_true, Bool.not_eq_true',
        Bool.not_eq_true'] at taken
      obtain ⟨isSome, accepted, fresh⟩ := taken
      obtain ⟨notices, rfl⟩ := Option.isSome_iff_exists.mp isSome
      obtain ⟨reasons, rfl, held⟩ := carries notices rfl
      have notPassed : position ≤ answeredAt := by
        rcases aligned.freshSeeds _ seedMember _ _ _ rfl isWhole.1 with
          notPassed | stale
        · exact notPassed
        · rw [fresh] at stale
          cases stale
      apply aligned.upToDate_of_seed accounted.logged isWhole.2 isWhole.1 known
        notPassed
      intro provider
      rw [PolicyView.applySeed_active accepted fresh reasons]
      exact held provider

/-- The reason of a report is one that sanitizing settles at once. -/
def Settles (sanitize : String → String) : NoticeAction → Prop
  | .emit _ reason => sanitize (sanitize reason) = sanitize reason
  | _ => True

theorem Accounted.spawnSeed (accounted : system.Accounted sanitize) :
    system.spawnSeed.Accounted sanitize := by
  apply accounted.quiet (Nat.le_refl _) _ rfl rfl
  intro seed member
  rcases List.mem_append.mp member with old | isNew
  · exact .same old
  · rw [List.mem_singleton.mp isNew]
    exact Or.inr ⟨trivial, fun _ _ _ isAnswered => by cases isAnswered⟩

theorem Accounted.fetchSeed (accounted : system.Accounted sanitize)
    (index generation : Nat) :
    NoticeSystem.Accounted sanitize
      { system with
        seeds := system.seeds.set index
          ⟨generation, .fetching system.clock⟩ } := by
  apply accounted.quiet (Nat.le_refl _) _ rfl rfl
  apply SeedKept.set
  exact Or.inr ⟨Nat.le_refl _, fun _ _ _ isAnswered => by cases isAnswered⟩

/-- A seed is answered with what is active at the daemon by then. -/
theorem Accounted.answerSeed (accounted : system.Accounted sanitize)
    {index generation fetchedAt : Nat}
    (isSeed : system.seeds[index]? = some ⟨generation, .fetching fetchedAt⟩)
    (isOk : Bool) :
    NoticeSystem.Accounted sanitize
      { system with
        seeds := system.seeds.set index
          ⟨generation, .answered fetchedAt
            (if isOk then some system.policies.active else none)
            system.published.length⟩ } := by
  apply accounted.quiet (Nat.le_refl _) _ rfl rfl
  apply SeedKept.set
  refine Or.inr ⟨⟨?_, Nat.le_refl _, ?_⟩, fun _ _ _ isAnswered => by
    cases isAnswered
    rfl⟩
  · exact accounted.logged.seeds _ (List.mem_of_getElem? isSeed)
  · intro notices isSome
    refine ⟨system.policies.reasons, ?_, fun provider => ?_⟩
    · cases isOk with
      | false => cases isSome
      | true => exact (Option.some.inj isSome).symm
    · rw [heldAt_length, accounted.logged.replayed provider]

theorem Accounted.step {action : NoticeAction}
    (accounted : system.Accounted sanitize)
    (settles : Settles sanitize action)
    (steps : system.step sanitize action = some next) :
    next.Accounted sanitize := by
  have kept : ∀ seed ∈ system.seeds, system.SeedKept system.clock seed :=
    fun seed member => .same member
  cases action with
  | emit provider reason =>
    cases steps
    exact accounted.publish
      (ListedPolicies.emitForProvider_changes settles provider _)
      (ListedPolicies.emitForProvider_sanitized accounted.logged.sanitized
        settles provider _)
  | barrier provider =>
    cases steps
    exact accounted.quiet (Nat.le_refl _) kept rfl rfl
  | clear index =>
    obtain ⟨barrier, _, rfl⟩ := Option.map_eq_some_iff.mp steps
    exact accounted.publish
      (ListedPolicies.clearIfUnchanged_changes accounted.logged.sanitized
        barrier)
      (ListedPolicies.clearIfUnchanged_sanitized accounted.logged.sanitized
        barrier)
  | tick elapsed =>
    cases steps
    exact accounted.quiet (Nat.le_add_right _ _)
      (fun seed member => .same member) rfl rfl
  | subscribe =>
    cases steps
    exact accounted.subscribe
  | buildSnapshot =>
    simp only [NoticeSystem.step] at steps
    split at steps
    · next next isConnected =>
      cases steps
      exact accounted.buildSnapshot isConnected
    · cases steps
  | sendSnapshot =>
    simp only [NoticeSystem.step] at steps
    split at steps
    · next notice rest next isConnected =>
      cases steps
      exact accounted.sendSnapshot isConnected
    · cases steps
  | recvEvent =>
    simp only [NoticeSystem.step] at steps
    split at steps
    · next next isConnected =>
      obtain ⟨event, isPublished, rfl⟩ := Option.map_eq_some_iff.mp steps
      exact accounted.recvEvent isConnected isPublished
    · cases steps
  | lag skipped =>
    simp only [NoticeSystem.step] at steps
    split at steps
    · split at steps
      · next inRange =>
        cases steps
        exact accounted.lag inRange.2
      · cases steps
    · cases steps
  | disconnect =>
    cases steps
    exact accounted.disconnect
  | applyEvent =>
    simp only [NoticeSystem.step] at steps
    split at steps
    · next event rest isNext =>
      cases steps
      exact accounted.applyEvent isNext
    · cases steps
  | spawnSeed =>
    cases steps
    exact accounted.spawnSeed
  | noteSeed index =>
    obtain ⟨seed, _, rfl⟩ := Option.map_eq_some_iff.mp steps
    exact accounted.quiet (Nat.le_refl _) kept rfl rfl
  | fetchSeed index =>
    simp only [NoticeSystem.step] at steps
    split at steps
    · cases steps
      exact accounted.fetchSeed index _
    · cases steps
  | answerSeed index isOk =>
    simp only [NoticeSystem.step] at steps
    split at steps
    · next generation fetchedAt isSeed =>
      cases steps
      exact accounted.answerSeed isSeed isOk
    · cases steps
  | applySeed index =>
    simp only [NoticeSystem.step] at steps
    split at steps
    · next generation fetchedAt policies answeredAt isSeed =>
      cases steps
      exact accounted.applySeed isSeed
    · cases steps
  | dismissError =>
    cases steps
    exact accounted.quiet (Nat.le_refl _) kept PolicyView.dismissError_active
      PolicyView.dismissError_updatedAt
  | showError message =>
    cases steps
    exact accounted.quiet (Nat.le_refl _) kept rfl rfl
  | clearError =>
    cases steps
    exact accounted.quiet (Nat.le_refl _) kept rfl rfl

theorem initial_accounted : initial.Accounted sanitize where
  logged :=
    { sanitized := fun _ _ isHeld => by cases isHeld
      truthful := fun _ => trivial
      replayed := fun _ => rfl
      seeds := fun _ member => by cases member }
  connected := fun _ isConnected => by cases isConnected

theorem run_accounted {actions : List NoticeAction}
    (accounted : system.Accounted sanitize)
    (settles : ∀ action ∈ actions, Settles sanitize action)
    (runs : (machine sanitize).run system actions = some next) :
    next.Accounted sanitize :=
  (machine sanitize).run_preserves_of_stepsMeet
    (fun _ _ _ accounted settles steps => accounted.step settles steps)
    accounted (GuardedMachine.StepsMeet.of_forall_mem _ settles) runs

/-- Everything published was received and applied. -/
def IsDrained (system : NoticeSystem) : Prop :=
  system.connection = some ⟨some [], system.published.length⟩ ∧
    system.channel = []

/-- A client that has what it needs holds the daemon's policies once it has
applied all that was published. -/
theorem client_holds_policies (sanitize : String → String)
    {actions : List NoticeAction} {final : NoticeSystem}
    (settles : ∀ action ∈ actions, Settles sanitize action)
    (runs : (machine sanitize).run initial actions = some final)
    (isWhole : final.whole = true) (isDrained : final.IsDrained)
    (provider : ProviderId) :
    final.view.activeProviderPolicies.get? provider =
      (final.policies.state.active provider).map
        ActivePlayerPolicy.reason := by
  have accounted := run_accounted initial_accounted settles runs
  obtain ⟨isConnected, nothingWaits⟩ := isDrained
  have upToDate := (accounted.connected _ isConnected).2 isWhole
  have holds := upToDate.built [] rfl provider
  rw [nothingWaits, List.drop_length] at holds
  rw [← final.policies.agrees provider]
  exact holds

def jellyfinProvider : ProviderId := ⟨"jellyfin"⟩

/-- The client subscribes and reads two policies.  One of them is cleared and
the other replaced while its connection lags, and a seed asked for afterwards
makes up for what was skipped. -/
def laggedNotices : List NoticeAction :=
  [.emit spotifyProvider "region locked", .subscribe,
    .emit jellyfinProvider "premium required", .buildSnapshot, .sendSnapshot,
    .sendSnapshot, .recvEvent, .applyEvent, .applyEvent, .applyEvent,
    .barrier spotifyProvider, .clear 0, .emit jellyfinProvider "plan expired",
    .lag 3, .spawnSeed, .noteSeed 0, .tick 1, .fetchSeed 0, .answerSeed 0 true,
    .applySeed 0, .recvEvent, .applyEvent]

theorem client_holds_policies_lagged :
    ∃ final, (machine id).run initial laggedNotices = some final ∧
      final.whole = true ∧ final.IsDrained ∧
        ∀ provider, final.view.activeProviderPolicies.get? provider =
          (final.policies.state.active provider).map
            ActivePlayerPolicy.reason := by
  refine ⟨_, rfl, by decide +kernel, ⟨rfl, rfl⟩, ?_⟩
  refine @client_holds_policies id laggedNotices _ ?_ rfl (by decide +kernel)
    ⟨rfl, rfl⟩
  intro action _
  cases action <;> trivial

/-- The client's own messages are not those of policies. -/
def OwnMessage : NoticeAction → Prop
  | .showError message =>
    ∀ notice : ProviderPolicyNotice, message ≠ notice.errorText
  | _ => True

theorem sound_step {action : NoticeAction} (sound : system.view.Sound)
    (isOwn : OwnMessage action)
    (steps : system.step sanitize action = some next) : next.view.Sound := by
  have withError : ∀ error : Option String,
      (∀ notice : ProviderPolicyNotice, error ≠ some notice.errorText) →
        { system.view with error := error : PolicyView }.Sound :=
    fun _ notPolicy => ⟨sound.dismissedActive, fun notice displays =>
      absurd displays (notPolicy notice)⟩
  cases action with
  | emit provider reason =>
    cases steps
    exact sound
  | barrier provider =>
    cases steps
    exact sound
  | clear index =>
    obtain ⟨barrier, _, rfl⟩ := Option.map_eq_some_iff.mp steps
    exact sound
  | tick elapsed =>
    cases steps
    exact sound
  | subscribe =>
    cases steps
    exact sound
  | buildSnapshot =>
    simp only [NoticeSystem.step] at steps
    split at steps
    · cases steps
      exact sound
    · cases steps
  | sendSnapshot =>
    simp only [NoticeSystem.step] at steps
    split at steps
    · cases steps
      exact sound
    · cases steps
  | recvEvent =>
    simp only [NoticeSystem.step] at steps
    split at steps
    · obtain ⟨event, _, rfl⟩ := Option.map_eq_some_iff.mp steps
      exact sound
    · cases steps
  | lag skipped =>
    simp only [NoticeSystem.step] at steps
    split at steps
    · split at steps
      · cases steps
        exact sound
      · cases steps
    · cases steps
  | disconnect =>
    cases steps
    exact sound
  | applyEvent =>
    simp only [NoticeSystem.step] at steps
    split at steps
    · cases steps
      exact sound.applyEvent _ _
    · cases steps
  | spawnSeed =>
    cases steps
    exact sound
  | noteSeed index =>
    obtain ⟨seed, _, rfl⟩ := Option.map_eq_some_iff.mp steps
    exact ⟨sound.dismissedActive, sound.displayed⟩
  | fetchSeed index =>
    simp only [NoticeSystem.step] at steps
    split at steps
    · cases steps
      exact sound
    · cases steps
  | answerSeed index isOk =>
    simp only [NoticeSystem.step] at steps
    split at steps
    · cases steps
      exact sound
    · cases steps
  | applySeed index =>
    simp only [NoticeSystem.step] at steps
    split at steps
    · cases steps
      exact sound.applySeed _ _ _
    · cases steps
  | dismissError =>
    cases steps
    exact sound.dismissError
  | showError message =>
    cases steps
    exact withError _ fun notice isPolicy =>
      isOwn notice (Option.some.inj isPolicy)
  | clearError =>
    cases steps
    exact withError _ fun _ isSome => by cases isSome

/-- In every state, a policy on display is one that the client holds as active
and that the user has not dismissed. -/
theorem displayed_policy_active (sanitize : String → String)
    {actions : List NoticeAction} {final : NoticeSystem}
    (isOwn : ∀ action ∈ actions, OwnMessage action)
    (runs : (machine sanitize).run initial actions = some final) :
    (∀ notice ∈ final.view.dismissedProviderPolicies,
        final.view.IsActive notice) ∧
      ∀ notice : ProviderPolicyNotice,
        final.view.error = some notice.errorText →
          ∃ shown : ProviderPolicyNotice,
            shown.errorText = notice.errorText ∧ final.view.IsActive shown ∧
              shown ∉ final.view.dismissedProviderPolicies := by
  have initially : initial.view.Sound :=
    ⟨fun _ member => (by cases member), fun _ displays => (by cases displays)⟩
  have sound : final.view.Sound :=
    (machine sanitize).run_preserves_of_stepsMeet
      (fun _ _ _ sound isOwn steps => sound_step sound isOwn steps)
      initially (GuardedMachine.StepsMeet.of_forall_mem _ isOwn) runs
  exact ⟨sound.dismissedActive, sound.displayed⟩

theorem head?_append {opening : String} {first : Char}
    (opens : opening.toList.head? = some first) (rest : String) :
    (opening ++ rest).toList.head? = some first := by
  rw [String.toList_append, List.head?_append, opens, Option.some_or]

theorem errorText_head? (notice : ProviderPolicyNotice) :
    notice.errorText.toList.head? = some 'L' := by
  unfold ProviderPolicyNotice.errorText providerPolicyError
  apply head?_append
  apply head?_append
  apply head?_append
  apply head?_append
  decide +kernel

/-- The client reads two policies, the user dismisses one of them, and the
other one is replaced. -/
def dismissedNotices : List NoticeAction :=
  laggedNotices.take 10 ++
    [.dismissError, .showError "Selected device has no transferable id",
      .emit spotifyProvider "account on hold", .recvEvent, .applyEvent]

theorem displayed_policy_active_dismissed :
    ∃ final, (machine id).run initial dismissedNotices = some final ∧
      final.view.error =
        some (providerPolicyError spotifyProvider "account on hold") ∧
      final.view.dismissedProviderPolicies =
        [⟨jellyfinProvider, "premium required"⟩] ∧
      (∀ notice ∈ final.view.dismissedProviderPolicies,
        final.view.IsActive notice) ∧
      ∃ shown : ProviderPolicyNotice,
        shown.errorText =
          providerPolicyError spotifyProvider "account on hold" ∧
        final.view.IsActive shown ∧
          shown ∉ final.view.dismissedProviderPolicies := by
  have isOwn : ∀ action ∈ dismissedNotices, OwnMessage action := by
    intro action member
    cases action with
    | showError message =>
      have isMessage : message = "Selected device has no transferable id" := by
        simpa [dismissedNotices, laggedNotices] using member
      intro notice isPolicy
      have starts := errorText_head? notice
      rw [← isPolicy, isMessage] at starts
      exact absurd starts (by decide +kernel)
    | _ => trivial
  refine ⟨_, rfl, by decide +kernel, by decide +kernel, ?_⟩
  have displayed := @displayed_policy_active id dismissedNotices _ isOwn rfl
  exact ⟨displayed.1, displayed.2 ⟨spotifyProvider, "account on hold"⟩
    (by decide +kernel)⟩

end NoticeSystem

end Spotuify
