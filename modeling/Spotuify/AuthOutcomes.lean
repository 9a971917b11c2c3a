import Spotuify.AuthSessions

/-!
# The fate of a sign-in

A lifecycle leaves `active` once.  Whoever takes it out decides the sign-in:
the worker by claiming the commit or by failing, and a poll, a cancel, a
logout or a reload by making it terminal.  The operations on the sessions are
shown to keep this, one at a time, and to keep what was decided before them.
-/

namespace Spotuify

/-- The worker holds the guard. -/
def AuthWorker.holdsGuard : AuthWorker → Bool
  | .committing _ | .finishing => true
  | _ => false

namespace AuthSession

/-- Lifecycle, reported state and worker of a session fit together. -/
inductive Consistent : AuthSession → Prop
  | active (data : AuthSessionData) (publishing : Option AuthSessionState)
    (unsettled : data.state.isTerminal = false)
    (progress : ∀ state, publishing = some state →
      state.isTerminal = false) :
    Consistent ⟨data, .active, none, .authorizing publishing⟩
  | committing (data : AuthSessionData) (saved : Option Bool)
    (unsettled : data.state.isTerminal = false) :
    Consistent ⟨data, .committing, none, .committing saved⟩
  | decided (data : AuthSessionData) (state : AuthSessionState)
    (worker : AuthWorker) (unsettled : data.state.isTerminal = false)
    (terminal : state.isTerminal = true)
    (free : ∀ saved, worker ≠ .committing saved) :
    Consistent ⟨data, .terminal, some state, worker⟩
  | settled (data : AuthSessionData) (worker : AuthWorker)
    (terminal : data.state.isTerminal = true)
    (free : ∀ saved, worker ≠ .committing saved) :
    Consistent ⟨data, .terminal, none, worker⟩

/-- What later states of a session keep. -/
structure Follows (before after : AuthSession) : Prop where
  provider : after.data.provider = before.data.provider
  ended : before.lifecycle = .terminal → after.lifecycle = .terminal
  settled : before.data.state.isTerminal = true →
    after.data.state = before.data.state

theorem Follows.refl (session : AuthSession) : session.Follows session :=
  ⟨rfl, id, fun _ => rfl⟩

theorem Follows.trans {first second third : AuthSession}
    (earlier : first.Follows second) (later : second.Follows third) :
    first.Follows third := by
  refine ⟨later.provider.trans earlier.provider,
    later.ended ∘ earlier.ended, ?_⟩
  intro terminal
  have same := earlier.settled terminal
  rw [← same] at terminal ⊢
  exact later.settled terminal

variable {session : AuthSession}

/-- A session that is not over has no terminal state to report. -/
theorem Consistent.unsettled (consistent : session.Consistent)
    (live : session.lifecycle ≠ .terminal) :
    session.data.state.isTerminal = false := by
  cases consistent with
  | active data publishing unsettled => exact unsettled
  | committing data saved unsettled => exact unsettled
  | decided => exact absurd rfl live
  | settled => exact absurd rfl live

theorem Consistent.ended (consistent : session.Consistent)
    (terminal : session.data.state.isTerminal = true) :
    session.lifecycle = .terminal := by
  by_contra live
  have unsettled := consistent.unsettled live
  rw [terminal] at unsettled
  cases unsettled

theorem Consistent.written (consistent : session.Consistent)
    (ended : session.lifecycle = .terminal)
    (unsettled : session.data.state.isTerminal = false) :
    ∃ state, session.decided = some state ∧ state.isTerminal = true := by
  cases consistent with
  | active => cases ended
  | committing => cases ended
  | decided data state worker _ terminal => exact ⟨state, rfl, terminal⟩
  | settled data worker terminal =>
    rw [terminal] at unsettled
    cases unsettled

/-- No credentials of the session were saved yet, or will be. -/
def Unsaved (session : AuthSession) : Prop :=
  session.lifecycle = .active ∨ session.worker = .committing none ∨
    session.decided = some .cancelled ∨ session.data.state = .cancelled

/-- An operation on a session keeps what was decided, and undoes no save. -/
structure Evolves (before after : AuthSession) : Prop where
  consistent : after.Consistent
  follows : before.Follows after
  unsaved : after.Unsaved → before.Unsaved

theorem Evolves.refl (consistent : session.Consistent) :
    session.Evolves session :=
  ⟨consistent, .refl session, id⟩

theorem Evolves.trans {first second third : AuthSession}
    (earlier : first.Evolves second) (later : second.Evolves third) :
    first.Evolves third :=
  ⟨later.consistent, earlier.follows.trans later.follows,
    earlier.unsaved ∘ later.unsaved⟩

theorem Consistent.transition (consistent : session.Consistent)
    {state : AuthSessionState} (terminal : state.isTerminal = true) :
    session.Evolves (session.transitionActiveToTerminal state) := by
  cases consistent with
  | active data publishing unsettled =>
    constructor
    · refine .decided data state _ unsettled terminal ?_
      rintro saved ⟨⟩
    · exact ⟨rfl, fun _ => rfl, fun _ => rfl⟩
    · exact fun _ => .inl rfl
  | committing data saved unsettled =>
    exact .refl (.committing data saved unsettled)
  | decided data state worker unsettled terminal free =>
    exact .refl (.decided data state worker unsettled terminal free)
  | settled data worker terminal free =>
    exact .refl (.settled data worker terminal free)

theorem Consistent.write (consistent : session.Consistent)
    (expiresAtMs : Int) :
    session.Evolves (session.writeTerminalState expiresAtMs) := by
  cases consistent with
  | active data publishing unsettled progress =>
    exact .refl (.active data publishing unsettled progress)
  | committing data saved unsettled =>
    exact .refl (.committing data saved unsettled)
  | decided data state worker unsettled terminal free =>
    constructor
    · exact .settled _ worker terminal free
    · refine ⟨rfl, id, ?_⟩
      intro settled
      rw [unsettled] at settled
      cases settled
    · rintro (⟨⟨⟩⟩ | committing | ⟨⟨⟩⟩ | cancelled)
      · exact absurd committing (free none)
      · exact .inr (.inr (.inl (congrArg some cancelled)))
  | settled data worker terminal free =>
    exact .refl (.settled data worker terminal free)

theorem progressState_unsettled {event : LoginProgress}
    {current state : AuthSessionState}
    (asked : progressState event current = some state) :
    state.isTerminal = false := by
  unfold progressState at asked
  split at asked
  · cases asked
    rfl
  · cases asked
    rfl
  · split at asked
    · cases asked
      rfl
    · cases asked
  · cases asked

theorem Consistent.progress (consistent : session.Consistent)
    (working : session.worker = .authorizing none) (event : LoginProgress) :
    session.Evolves (session.applyProgress event) := by
  cases consistent with
  | active data publishing unsettled =>
    constructor
    · refine .active data _ unsettled ?_
      exact fun _ asked => progressState_unsettled asked
    · exact ⟨rfl, id, fun _ => rfl⟩
    · exact fun _ => .inl rfl
  | committing data saved unsettled => cases working
  | decided data state worker unsettled terminal free =>
    exact .refl (.decided data state worker unsettled terminal free)
  | settled data worker terminal free =>
    exact .refl (.settled data worker terminal free)

theorem Consistent.publish (consistent : session.Consistent)
    {state : AuthSessionState}
    (working : session.worker = .authorizing (some state)) :
    session.Evolves
      ((session.setActiveState state).withWorker (.authorizing none)) := by
  cases consistent with
  | active data publishing unsettled progress =>
    cases working
    constructor
    · refine .active _ none (progress state rfl) ?_
      rintro _ ⟨⟩
    · refine ⟨rfl, id, ?_⟩
      intro settled
      rw [unsettled] at settled
      cases settled
    · exact fun _ => .inl rfl
  | committing data saved unsettled => cases working
  | decided data other worker unsettled terminal free =>
    constructor
    · refine .decided data other _ unsettled terminal ?_
      rintro saved ⟨⟩
    · exact ⟨rfl, id, fun _ => rfl⟩
    · rintro (⟨⟨⟩⟩ | ⟨⟨⟩⟩ | cancelled)
      exact .inr (.inr cancelled)
  | settled data worker terminal free =>
    constructor
    · refine .settled data _ terminal ?_
      rintro saved ⟨⟩
    · exact ⟨rfl, id, fun _ => rfl⟩
    · rintro (⟨⟨⟩⟩ | ⟨⟨⟩⟩ | cancelled)
      exact .inr (.inr cancelled)

/-- A worker that holds no claim may return. -/
theorem Consistent.return (consistent : session.Consistent)
    (ended : session.lifecycle = .terminal) {worker : AuthWorker}
    (free : ∀ saved, worker ≠ .committing saved) :
    session.Evolves (session.withWorker worker) := by
  have follows : session.Follows (session.withWorker worker) :=
    ⟨rfl, id, fun _ => rfl⟩
  have unsaved : (session.withWorker worker).Unsaved → session.Unsaved := by
    rintro (active | committing | cancelled)
    · exact .inl active
    · exact absurd committing (free none)
    · exact .inr (.inr cancelled)
  cases consistent with
  | active => cases ended
  | committing => cases ended
  | decided data state _ unsettled terminal =>
    exact ⟨.decided data state worker unsettled terminal free, follows,
      unsaved⟩
  | settled data _ terminal =>
    exact ⟨.settled data worker terminal free, follows, unsaved⟩

theorem transition_over (consistent : session.Consistent)
    (state : AuthSessionState)
    (notCommitting : session.lifecycle ≠ .committing) :
    (session.transitionActiveToTerminal state).lifecycle = .terminal := by
  cases consistent with
  | active => rfl
  | committing => exact absurd rfl notCommitting
  | decided => rfl
  | settled => rfl

theorem Consistent.committing_iff (consistent : session.Consistent) :
    session.lifecycle = .committing ↔
      ∃ saved, session.worker = .committing saved := by
  cases consistent with
  | active =>
    constructor
    · rintro ⟨⟩
    · rintro ⟨saved, ⟨⟩⟩
  | committing data saved => exact iff_of_true rfl ⟨saved, rfl⟩
  | decided data state worker unsettled terminal free =>
    constructor
    · rintro ⟨⟩
    · rintro ⟨saved, committing⟩
      exact absurd committing (free saved)
  | settled data worker terminal free =>
    constructor
    · rintro ⟨⟩
    · rintro ⟨saved, committing⟩
      exact absurd committing (free saved)

theorem Consistent.fail (consistent : session.Consistent)
    (working : session.worker = .authorizing none) (message : String) :
    session.Evolves
      ((session.transitionActiveToTerminal (.failed message)).withWorker
        .done) := by
  have fails := @Consistent.transition session consistent (.failed message) rfl
  have notCommitting : session.lifecycle ≠ .committing := by
    rw [ne_eq, consistent.committing_iff, working]
    rintro ⟨saved, ⟨⟩⟩
  have ended := transition_over consistent (.failed message) notCommitting
  refine fails.trans (fails.consistent.return ended ?_)
  rintro saved ⟨⟩

theorem Consistent.claim (consistent : session.Consistent)
    (working : session.worker = .authorizing none) :
    session.Evolves session.claimCommit := by
  cases consistent with
  | active data publishing unsettled =>
    constructor
    · exact .committing data none unsettled
    · refine ⟨rfl, ?_, fun _ => rfl⟩
      rintro ⟨⟩
    · exact fun _ => .inl rfl
  | committing => cases working
  | decided data state worker unsettled terminal free =>
    refine (Consistent.decided data state worker unsettled terminal
      free).return rfl ?_
    rintro saved ⟨⟩
  | settled data worker terminal free =>
    refine (Consistent.settled data worker terminal free).return rfl ?_
    rintro saved ⟨⟩

/-- An attempt to save ends the time in which nothing was saved. -/
theorem Consistent.save (consistent : session.Consistent)
    (claimed : session.worker = .committing none) (succeeds : Bool) :
    session.Evolves (session.withWorker (.committing (some succeeds))) ∧
      ¬ (session.withWorker (.committing (some succeeds))).Unsaved := by
  cases consistent with
  | active => cases claimed
  | committing data saved unsettled =>
    have spent : ¬ Unsaved ⟨data, .committing, none,
        .committing (some succeeds)⟩ := by
      rintro (⟨⟨⟩⟩ | ⟨⟨⟩⟩ | ⟨⟨⟩⟩ | cancelled)
      rw [cancelled] at unsettled
      cases unsettled
    exact ⟨⟨.committing data _ unsettled, ⟨rfl, id, fun _ => rfl⟩,
      fun unsaved => absurd unsaved spent⟩, spent⟩
  | decided data state worker unsettled terminal free =>
    exact absurd claimed (free none)
  | settled data worker terminal free => exact absurd claimed (free none)

theorem Consistent.finish (consistent : session.Consistent) {saved : Bool}
    (committing : session.worker = .committing (some saved))
    {state : AuthSessionState} (terminal : state.isTerminal = true)
    (kept : state ≠ .cancelled) :
    session.Evolves ((session.finishCommit state).withWorker .finishing) := by
  cases consistent with
  | active => cases committing
  | committing data _ unsettled =>
    constructor
    · refine .decided data state _ unsettled terminal ?_
      rintro _ ⟨⟩
    · refine ⟨rfl, ?_, fun _ => rfl⟩
      rintro ⟨⟩
    · rintro (⟨⟨⟩⟩ | ⟨⟨⟩⟩ | decided | cancelled)
      · exact absurd (Option.some.inj decided) kept
      · exact .inr (.inr (.inr cancelled))
  | decided data other worker unsettled terminal free =>
    exact absurd committing (free _)
  | settled data worker terminal free => exact absurd committing (free _)

end AuthSession

namespace AuthSessions

/-- What holds of the sessions in every reachable state. -/
structure Orderly (system : AuthSessions) : Prop where
  ids : ∀ id session, system.sessions.get? id = some session →
    id.value < system.minted
  consistent : ∀ id session, system.sessions.get? id = some session →
    session.Consistent
  guarded : ∀ id session, system.sessions.get? id = some session →
    session.worker.holdsGuard = true → system.guard = some (.worker id)
  listed : ∀ id session, system.sessions.get? id = some session →
    session.lifecycle ≠ .terminal → id ∈ system.entries
  single : ∀ first second firstSession secondSession,
    system.sessions.get? first = some firstSession →
      system.sessions.get? second = some secondSession →
        firstSession.data.provider = secondSession.data.provider →
          firstSession.lifecycle ≠ .terminal →
            secondSession.lifecycle ≠ .terminal → first = second
  unsaved : ∀ id session, system.sessions.get? id = some session →
    session.Unsaved → ∀ save ∈ system.saves, save.sessionId ≠ id
  known : ∀ save ∈ system.saves, save.sessionId.value < system.minted
  reported : ∀ report ∈ system.reports, ∃ session,
    system.sessions.get? report.sessionId = some session ∧
      (report.state.isTerminal = true →
        session.data.state = report.state)
  loggedOut : ∀ provider, system.guard = some (.logout provider) →
    ∀ id session, system.sessions.get? id = some session →
      session.data.provider = provider → session.lifecycle = .terminal

/-- What later states keep: the sessions, and of the saves that only sessions
that are not over add to them. -/
structure Extends (before after : AuthSessions) : Prop where
  kept : ∀ id session, before.sessions.get? id = some session →
    ∃ later, after.sessions.get? id = some later ∧ session.Follows later
  saves : ∃ added, after.saves = before.saves ++ added ∧
    ∀ save ∈ added, ∀ session,
      before.sessions.get? save.sessionId = some session →
        session.lifecycle ≠ .terminal

variable {system next : AuthSessions}

theorem Extends.refl (system : AuthSessions) : system.Extends system where
  kept := fun _ session found => ⟨session, found, .refl session⟩
  saves := ⟨[], (List.append_nil _).symm, by simp⟩

theorem Extends.trans {first second third : AuthSessions}
    (earlier : first.Extends second) (later : second.Extends third) :
    first.Extends third := by
  constructor
  · intro id session found
    obtain ⟨middle, foundMiddle, toMiddle⟩ := earlier.kept id session found
    obtain ⟨last, foundLast, toLast⟩ := later.kept id middle foundMiddle
    exact ⟨last, foundLast, toMiddle.trans toLast⟩
  · obtain ⟨added, saves, live⟩ := earlier.saves
    obtain ⟨addedLater, savesLater, liveLater⟩ := later.saves
    refine ⟨added ++ addedLater, ?_, ?_⟩
    · rw [savesLater, saves, List.append_assoc]
    · intro save member session found ended
      rcases List.mem_append.mp member with early | late
      · exact live save early session found ended
      · obtain ⟨middle, foundMiddle, toMiddle⟩ := earlier.kept _ _ found
        exact liveLater save late middle foundMiddle (toMiddle.ended ended)

theorem started_orderly (clock : Int) : (started clock).Orderly := by
  constructor
  · intro id session found
    cases found
  · intro id session found
    cases found
  · intro id session found
    cases found
  · intro id session found
    cases found
  · intro first second firstSession secondSession found
    cases found
  · intro id session found
    cases found
  · intro save member
    cases member
  · intro report member
    cases member
  · intro provider running
    cases running

/-- An operation on existing sessions that leaves saves and snapshots alone. -/
structure Operates (system next : AuthSessions)
    (change : AuthSessionId → AuthSession → AuthSession) : Prop where
  rows : ∀ id, next.sessions.get? id =
    (system.sessions.get? id).map (change id)
  evolves : ∀ id session, system.sessions.get? id = some session →
    session.Evolves (change id session)
  minted : next.minted = system.minted
  entries : ∀ id session, system.sessions.get? id = some session →
    (change id session).lifecycle ≠ .terminal → id ∈ system.entries →
      id ∈ next.entries
  saves : next.saves = system.saves
  reports : next.reports = system.reports

variable {change : AuthSessionId → AuthSession → AuthSession}

theorem Operates.extends (operates : system.Operates next change) :
    system.Extends next := by
  constructor
  · intro id session found
    refine ⟨change id session, ?_, (operates.evolves id session found).follows⟩
    rw [operates.rows, found, Option.map_some]
  · exact ⟨[], by rw [operates.saves, List.append_nil], by simp⟩

/-- Where a session came from. -/
theorem Operates.source (operates : system.Operates next change)
    {id : AuthSessionId} {later : AuthSession}
    (found : next.sessions.get? id = some later) :
    ∃ session, system.sessions.get? id = some session ∧
      later = change id session ∧ session.Evolves later := by
  rw [operates.rows] at found
  obtain ⟨session, source, rfl⟩ := Option.map_eq_some_iff.mp found
  exact ⟨session, source, rfl, operates.evolves id session source⟩

theorem Operates.orderly (operates : system.Operates next change)
    (orderly : system.Orderly)
    (guarded : ∀ id session, system.sessions.get? id = some session →
      (change id session).worker.holdsGuard = true →
        next.guard = some (.worker id))
    (loggedOut : ∀ provider, next.guard = some (.logout provider) →
      ∀ id session, system.sessions.get? id = some session →
        session.data.provider = provider →
          (change id session).lifecycle = .terminal) :
    next.Orderly := by
  have live : ∀ {session later : AuthSession}, session.Evolves later →
      later.lifecycle ≠ .terminal → session.lifecycle ≠ .terminal :=
    fun evolves alive ended => alive (evolves.follows.ended ended)
  constructor
  · intro id later found
    obtain ⟨session, source, -, -⟩ := operates.source found
    rw [operates.minted]
    exact orderly.ids id session source
  · intro id later found
    obtain ⟨session, source, -, evolves⟩ := operates.source found
    exact evolves.consistent
  · intro id later found holds
    obtain ⟨session, source, rfl, -⟩ := operates.source found
    exact guarded id session source holds
  · intro id later found alive
    obtain ⟨session, source, rfl, evolves⟩ := operates.source found
    exact operates.entries id session source alive
      (orderly.listed id session source (live evolves alive))
  · intro first second firstLater secondLater foundFirst foundSecond same
      firstAlive secondAlive
    obtain ⟨firstSession, firstSource, -, toFirst⟩ :=
      operates.source foundFirst
    obtain ⟨secondSession, secondSource, -, toSecond⟩ :=
      operates.source foundSecond
    rw [toFirst.follows.provider, toSecond.follows.provider] at same
    exact orderly.single first second firstSession secondSession firstSource
      secondSource same (live toFirst firstAlive) (live toSecond secondAlive)
  · intro id later found unsaved
    obtain ⟨session, source, -, evolves⟩ := operates.source found
    rw [operates.saves]
    exact orderly.unsaved id session source (evolves.unsaved unsaved)
  · rw [operates.saves, operates.minted]
    exact orderly.known
  · rw [operates.reports]
    intro report member
    obtain ⟨session, source, settled⟩ := orderly.reported report member
    refine ⟨change report.sessionId session, ?_, ?_⟩
    · rw [operates.rows, source, Option.map_some]
    · intro terminal
      have same := settled terminal
      rw [← same] at terminal ⊢
      exact (operates.evolves _ session source).follows.settled terminal
  · intro provider running id later found same
    obtain ⟨session, source, rfl, evolves⟩ := operates.source found
    rw [evolves.follows.provider] at same
    exact loggedOut provider running id session source same

theorem Operates.trans {final : AuthSessions}
    {second : AuthSessionId → AuthSession → AuthSession}
    (earlier : system.Operates next change)
    (later : next.Operates final second) :
    system.Operates final fun id session => second id (change id session) := by
  constructor
  · intro id
    rw [later.rows, earlier.rows, Option.map_map]
    rfl
  · intro id session source
    have middle : next.sessions.get? id = some (change id session) := by
      rw [earlier.rows, source, Option.map_some]
    exact (earlier.evolves id session source).trans
      (later.evolves id _ middle)
  · exact later.minted.trans earlier.minted
  · intro id session source alive listed
    have middle : next.sessions.get? id = some (change id session) := by
      rw [earlier.rows, source, Option.map_some]
    have aliveBefore : (change id session).lifecycle ≠ .terminal :=
      fun ended => alive ((later.evolves id _ middle).follows.ended ended)
    exact later.entries id _ middle alive
      (earlier.entries id session source aliveBefore listed)
  · exact later.saves.trans earlier.saves
  · exact later.reports.trans earlier.reports

theorem Operates.withGuard (operates : system.Operates next change)
    (guard : Option AuthGuard) :
    system.Operates (next.withGuard guard) change :=
  ⟨operates.rows, operates.evolves, operates.minted, operates.entries,
    operates.saves, operates.reports⟩

/-- An operation that changes neither the guard nor who holds it. -/
theorem Operates.orderly_of_guard (operates : system.Operates next change)
    (orderly : system.Orderly) (sameGuard : next.guard = system.guard)
    (holds : ∀ id session, system.sessions.get? id = some session →
      (change id session).worker.holdsGuard = true →
        session.worker.holdsGuard = true) :
    next.Orderly := by
  apply operates.orderly orderly
  · intro id session source guards
    rw [sameGuard]
    exact orderly.guarded id session source (holds id session source guards)
  · intro provider running id session source same
    rw [sameGuard] at running
    exact (operates.evolves id session source).follows.ended
      (orderly.loggedOut provider running id session source same)

/-- While the guard is free, no worker commits. -/
theorem Orderly.not_holdsGuard (orderly : system.Orderly)
    (free : ∀ id, system.guard ≠ some (.worker id)) {id : AuthSessionId}
    {session : AuthSession}
    (source : system.sessions.get? id = some session) :
    session.worker.holdsGuard = false := by
  cases holds : session.worker.holdsGuard with
  | false => rfl
  | true => exact absurd (orderly.guarded id session source holds) (free id)

/-- An operation under a guard that no worker holds. -/
theorem Operates.orderly_of_free (operates : system.Operates next change)
    (orderly : system.Orderly) (free : ∀ id, system.guard ≠ some (.worker id))
    (holds : ∀ id session, system.sessions.get? id = some session →
      (change id session).worker.holdsGuard = true →
        session.worker.holdsGuard = true)
    (loggedOut : ∀ provider, next.guard = some (.logout provider) →
      ∀ id session, system.sessions.get? id = some session →
        session.data.provider = provider →
          (change id session).lifecycle = .terminal) :
    next.Orderly := by
  refine operates.orderly orderly ?_ loggedOut
  intro id session source guards
  have before := holds id session source guards
  rw [orderly.not_holdsGuard free source] at before
  cases before

section Primitives

variable (orderly : system.Orderly)

include orderly

theorem Orderly.operates_self (clock : Int) :
    system.Operates { system with clock := clock }
      fun _ session => session where
  rows := fun _ => by simp
  evolves := fun id session source =>
    .refl (orderly.consistent id session source)
  minted := rfl
  entries := fun _ _ _ _ listed => listed
  saves := rfl
  reports := rfl

theorem Orderly.operates_update (id : AuthSessionId)
    {change : AuthSession → AuthSession}
    (keepsId : ∀ session, (change session).sessionId = session.sessionId)
    (evolves : ∀ session, system.sessions.get? id = some session →
      session.Evolves (change session)) :
    system.Operates (system.update id change keepsId)
      fun other session => if other = id then change session else session := by
  constructor
  · intro other
    rw [update, SqlTable.get?_updateKey]
    simp only [and_true]
  · intro other session source
    split
    · rename_i same
      subst same
      exact evolves session source
    · exact .refl (orderly.consistent other session source)
  · rfl
  · exact fun _ _ _ _ listed => listed
  · rfl
  · rfl

/-- Pruning drops entries of sessions that are over. -/
theorem Orderly.operates_prune :
    system.Operates system.prune fun _ session => session := by
  constructor
  · intro id
    simp [prune]
  · intro id session source
    exact .refl (orderly.consistent id session source)
  · rfl
  · intro id session source alive listed
    have unsettled :=
      (orderly.consistent id session source).unsettled alive
    refine List.mem_filter.mpr ⟨listed, ?_⟩
    simp [source, unsettled]
  · rfl
  · rfl

/-- Deciding one session from outside its worker. -/
theorem Orderly.operates_transition (id : AuthSessionId)
    {state : AuthSessionState} (terminal : state.isTerminal = true) :
    system.Operates (system.transition id state)
      fun other session =>
        if other = id then session.transitionActiveToTerminal state
        else session :=
  orderly.operates_update id _ fun session source =>
    (orderly.consistent id session source).transition terminal

end Primitives

theorem worker_transition (session : AuthSession) (state : AuthSessionState) :
    (session.transitionActiveToTerminal state).worker = session.worker := by
  unfold AuthSession.transitionActiveToTerminal
  split
  · rfl
  · rfl

/-- One entry of a loop that cancels. -/
def cancelEntry (selects : AuthSession → Bool) (current : AuthSessions)
    (id : AuthSessionId) : AuthSessions :=
  if (current.sessions.get? id).any selects then
    current.transition id .cancelled
  else current

/-- A loop that cancels, over some entries: the workers stay as they are, and
what is selected is over. -/
structure Cancels (system next : AuthSessions)
    (selects : AuthSession → Bool) (ids : List AuthSessionId)
    (change : AuthSessionId → AuthSession → AuthSession) : Prop where
  operates : system.Operates next change
  guard : next.guard = system.guard
  workers : ∀ id session, (change id session).worker = session.worker
  ended : ∀ id ∈ ids, ∀ session, system.sessions.get? id = some session →
    selects session = true → (change id session).lifecycle = .terminal

theorem Orderly.cancels_entry (orderly : system.Orderly)
    (free : ∀ id, system.guard ≠ some (.worker id))
    (selects : AuthSession → Bool) (id : AuthSessionId) :
    ∃ change, system.Cancels (cancelEntry selects system id) selects [id]
      change := by
  unfold cancelEntry
  split
  · refine ⟨_, orderly.operates_transition id rfl, rfl, ?_, ?_⟩
    · intro other session
      split
      · exact worker_transition session _
      · rfl
    · intro other member session source _
      rw [List.mem_singleton] at member
      rw [if_pos member]
      have consistent := orderly.consistent other session source
      apply AuthSession.transition_over consistent
      rw [ne_eq, consistent.committing_iff]
      rintro ⟨saved, committing⟩
      have holds := orderly.not_holdsGuard free source
      rw [committing] at holds
      cases holds
  · rename_i unselected
    refine ⟨_, orderly.operates_self system.clock, rfl, fun _ _ => rfl, ?_⟩
    intro other member session source selected
    rw [List.mem_singleton] at member
    rw [← member, source] at unselected
    exact absurd selected unselected

theorem Orderly.cancels_fold (orderly : system.Orderly)
    (free : ∀ id, system.guard ≠ some (.worker id))
    {selects : AuthSession → Bool}
    (byProvider : ∀ first second : AuthSession,
      first.data.provider = second.data.provider →
        selects first = selects second)
    (ids : List AuthSessionId) :
    ∃ change, system.Cancels (ids.foldl (cancelEntry selects) system) selects
      ids change := by
  induction ids generalizing system with
  | nil =>
    refine ⟨_, orderly.operates_self system.clock, rfl, fun _ _ => rfl, ?_⟩
    intro id member
    cases member
  | cons id rest inductionHypothesis =>
    obtain ⟨first, cancels⟩ := orderly.cancels_entry free selects id
    have orderlyNext := cancels.operates.orderly_of_guard orderly
      cancels.guard fun other session _ holds => by
        rwa [cancels.workers] at holds
    have freeNext : ∀ other, (cancelEntry selects system id).guard ≠
        some (.worker other) := by
      intro other
      rw [cancels.guard]
      exact free other
    obtain ⟨second, cancelsRest⟩ := inductionHypothesis orderlyNext freeNext
    refine ⟨_, cancels.operates.trans cancelsRest.operates,
      cancelsRest.guard.trans cancels.guard, ?_, ?_⟩
    · intro other session
      rw [cancelsRest.workers, cancels.workers]
    · intro other member session source selected
      have middle : (cancelEntry selects system id).sessions.get? other =
          some (first other session) := by
        rw [cancels.operates.rows, source, Option.map_some]
      rcases List.mem_cons.mp member with same | later
      · have ended := cancels.ended other (List.mem_singleton.mpr same) session
          source selected
        exact (cancelsRest.operates.evolves other _ middle).follows.ended ended
      · refine cancelsRest.ended other later _ middle ?_
        rw [← selected]
        exact byProvider _ _
          (cancels.operates.evolves other session source).follows.provider

/-- Cancelling under a new guard: whatever is selected is over. -/
theorem Orderly.cancelsAll (orderly : system.Orderly)
    (free : system.guard = none) {selects : AuthSession → Bool}
    (byProvider : ∀ first second : AuthSession,
      first.data.provider = second.data.provider →
        selects first = selects second)
    (guard : AuthGuard) :
    ∃ change, system.Operates
        ((system.prune.cancelEntries selects).withGuard (some guard)) change ∧
      (∀ id session, (change id session).worker = session.worker) ∧
      ∀ id session, system.sessions.get? id = some session →
        selects session = true → (change id session).lifecycle = .terminal := by
  have noWorker : ∀ id, system.guard ≠ some (.worker id) := by
    rw [free]
    rintro id ⟨⟩
  have prunes := orderly.operates_prune
  have pruned := prunes.orderly_of_guard orderly rfl fun _ _ _ holds => holds
  obtain ⟨change, cancels⟩ :=
    pruned.cancels_fold noWorker byProvider system.prune.entries
  refine ⟨_, (prunes.trans cancels.operates).withGuard _, cancels.workers, ?_⟩
  intro id session source selected
  have sourcePruned : system.prune.sessions.get? id = some session := source
  by_cases alive : session.lifecycle = .terminal
  · exact (cancels.operates.evolves id session sourcePruned).follows.ended alive
  · exact cancels.ended id (pruned.listed id session sourcePruned alive) session
      sourcePruned selected

theorem Orderly.cancelled (orderly : system.Orderly)
    (free : system.guard = none) {selects : AuthSession → Bool}
    (byProvider : ∀ first second : AuthSession,
      first.data.provider = second.data.provider →
        selects first = selects second)
    (guard : AuthGuard) (notWorker : ∀ id, guard ≠ .worker id)
    (logout : ∀ provider, guard = .logout provider → ∀ session,
      session.data.provider = provider → selects session = true)
    (taken : next =
      (system.prune.cancelEntries selects).withGuard (some guard)) :
    next.Orderly ∧ system.Extends next := by
  subst taken
  obtain ⟨change, operates, workers, ended⟩ :=
    orderly.cancelsAll free byProvider guard
  refine ⟨operates.orderly_of_free orderly ?_ ?_ ?_, operates.extends⟩
  · rw [free]
    rintro id ⟨⟩
  · intro id session source holds
    rwa [workers] at holds
  · intro provider running id session source same
    cases running
    exact ended id session source (logout provider rfl session same)

theorem newSession_consistent (provider : ProviderId)
    (method : Option AuthMethod) :
    (system.newSession provider method).Consistent := by
  cases method with
  | none =>
    refine .settled _ .absent rfl ?_
    rintro saved ⟨⟩
  | some method =>
    refine .active _ none rfl ?_
    rintro state ⟨⟩

theorem activeSession?_eq_none {provider : ProviderId}
    (none : system.activeSession? provider = none) {id : AuthSessionId}
    (listed : id ∈ system.entries) {session : AuthSession}
    (found : system.sessions.get? id = some session)
    (same : session.data.provider = provider) :
    session.lifecycle = .terminal := by
  rw [activeSession?, List.findSome?_eq_none_iff] at none
  have refused := none id listed
  rw [found, Option.filter_eq_none_iff] at refused
  by_contra alive
  refine refused session rfl ?_
  simp [same, alive]

theorem ensureNoActiveSession_eq_ok {provider : ProviderId} :
    system.ensureNoActiveSession provider = .ok () ↔
      system.activeSession? provider = none := by
  unfold ensureNoActiveSession
  split
  · rename_i none
    exact iff_of_true rfl none
  · rename_i existing found
    rw [found]
    constructor
    · rintro ⟨⟩
    · rintro ⟨⟩

/-- What an admission does to the rows. -/
theorem admit_eq_some {session : AuthSession}
    (admitted : system.enroll session = some next) :
    ∃ sessions, next =
        { system with
          sessions := sessions, minted := system.minted + 1,
          entries := system.entries ++ [session.sessionId] } ∧
      ∀ id, sessions.get? id =
        if id = session.sessionId then some session
        else system.sessions.get? id := by
  obtain ⟨sessions, inserted, rfl⟩ := Option.map_eq_some_iff.mp admitted
  exact ⟨sessions, rfl, SqlTable.get?_insert inserted⟩

/-- A session is added while no other one of its provider is alive. -/
theorem Orderly.enroll (orderly : system.Orderly)
    {provider : ProviderId} {method : Option AuthMethod}
    (free : system.guard = none)
    (alone : method.isSome = true → ∀ id session,
      system.sessions.get? id = some session →
        session.data.provider = provider → session.lifecycle = .terminal)
    (admitted : system.enroll (system.newSession provider method) =
      some next) :
    next.Orderly ∧ system.Extends next := by
  obtain ⟨sessions, rfl, rows⟩ := admit_eq_some admitted
  let added := system.newSession provider method
  -- A row is the new one, or was there before and is an older one.
  have source : ∀ {id session}, sessions.get? id = some session →
      id = ⟨system.minted⟩ ∧ session = added ∨
        id.value < system.minted ∧
          system.sessions.get? id = some session := by
    intro id session found
    rw [rows] at found
    split at found
    · rename_i same
      exact .inl ⟨same, (Option.some.inj found).symm⟩
    · exact .inr ⟨orderly.ids id session found, found⟩
  have kept : ∀ {id session}, system.sessions.get? id = some session →
      sessions.get? id = some session := by
    intro id session found
    have older := orderly.ids id session found
    rw [rows, if_neg, found]
    rintro rfl
    exact Nat.lt_irrefl _ older
  have consistent : added.Consistent := newSession_consistent provider method
  have signsIn : added.lifecycle ≠ .terminal → method.isSome = true := by
    intro alive
    cases method with
    | none => exact absurd rfl alive
    | some method => rfl
  refine ⟨⟨?_, ?_, ?_, ?_, ?_, ?_, ?_, ?_, ?_⟩, ?_, ?_⟩
  · intro id session found
    rcases source found with ⟨rfl, -⟩ | ⟨older, -⟩
    · exact Nat.lt_succ_self _
    · exact Nat.lt_succ_of_lt older
  · intro id session found
    rcases source found with ⟨-, rfl⟩ | ⟨-, old⟩
    · exact consistent
    · exact orderly.consistent id session old
  · intro id session found holds
    rcases source found with ⟨-, rfl⟩ | ⟨-, old⟩
    · cases method with
      | none => cases holds
      | some method => cases holds
    · exact orderly.guarded id session old holds
  · intro id session found alive
    rcases source found with ⟨rfl, -⟩ | ⟨-, old⟩
    · exact List.mem_append_right _ (List.mem_singleton.mpr rfl)
    · exact List.mem_append_left _ (orderly.listed id session old alive)
  · intro first second firstSession secondSession foundFirst foundSecond same
      firstAlive secondAlive
    rcases source foundFirst with ⟨rfl, rfl⟩ | ⟨-, oldFirst⟩
    · rcases source foundSecond with ⟨rfl, -⟩ | ⟨-, oldSecond⟩
      · rfl
      · exact absurd (alone (signsIn firstAlive) second secondSession
          oldSecond same.symm) secondAlive
    · rcases source foundSecond with ⟨rfl, rfl⟩ | ⟨-, oldSecond⟩
      · exact absurd (alone (signsIn secondAlive) first firstSession oldFirst
          same) firstAlive
      · exact orderly.single first second firstSession secondSession oldFirst
          oldSecond same firstAlive secondAlive
  · intro id session found unsaved save member
    rcases source found with ⟨rfl, -⟩ | ⟨-, old⟩
    · rintro same
      have known := orderly.known save member
      rw [same] at known
      exact Nat.lt_irrefl _ known
    · exact orderly.unsaved id session old unsaved save member
  · exact fun save member => Nat.lt_succ_of_lt (orderly.known save member)
  · intro report member
    obtain ⟨session, found, settled⟩ := orderly.reported report member
    exact ⟨session, kept found, settled⟩
  · intro provider running
    have impossible := free.symm.trans running
    cases impossible
  · exact fun id session found => ⟨session, kept found, .refl session⟩
  · exact ⟨[], (List.append_nil _).symm, by simp⟩

theorem Orderly.start (orderly : system.Orderly) (free : system.guard = none)
    {request : AuthStart} (started : system.start request = some next) :
    next.Orderly ∧ system.Extends next := by
  have prunes := orderly.operates_prune
  have pruned := prunes.orderly_of_guard orderly rfl fun _ _ _ holds => holds
  unfold AuthSessions.start at started
  split at started
  · cases started
    exact ⟨orderly, .refl system⟩
  · dsimp only at started
    split at started
    · have admitted := @Orderly.enroll _ next pruned request.provider none free
        (by simp) started
      exact ⟨admitted.1, prunes.extends.trans admitted.2⟩
    · rename_i method _
      split at started
      · cases started
        exact ⟨pruned, prunes.extends⟩
      · rename_i alone
        have admitted := @Orderly.enroll _ next pruned request.provider
          (some method) free ?_ started
        · exact ⟨admitted.1, prunes.extends.trans admitted.2⟩
        · intro _ id session found same
          by_contra alive
          exact alive (activeSession?_eq_none
            (ensureNoActiveSession_eq_ok.mp alone)
            (pruned.listed id session found alive) found same)

theorem Orderly.no_worker (free : system.guard = none) (id : AuthSessionId) :
    system.guard ≠ some (.worker id) := by
  rw [free]
  rintro ⟨⟩

/-- An operation on one session that neither takes nor releases the guard. -/
theorem Orderly.updated (orderly : system.Orderly) {id : AuthSessionId}
    {session : AuthSession} (found : system.sessions.get? id = some session)
    {change : AuthSession → AuthSession}
    (keepsId : ∀ session, (change session).sessionId = session.sessionId)
    (evolves : session.Evolves (change session))
    (holds : (change session).worker.holdsGuard = true →
      session.worker.holdsGuard = true) :
    (system.update id change keepsId).Orderly ∧
      system.Extends (system.update id change keepsId) := by
  have updates := orderly.operates_update id keepsId fun other source => by
    rw [found] at source
    cases source
    exact evolves
  refine ⟨updates.orderly_of_guard orderly rfl ?_, updates.extends⟩
  intro other otherSession source guards
  split at guards
  · rename_i same
    subst same
    rw [found] at source
    cases source
    exact holds guards
  · exact guards

/-- The worker claims the commit with the guard, or returns without it. -/
theorem Orderly.claim (orderly : system.Orderly) (free : system.guard = none)
    {id : AuthSessionId} {session : AuthSession}
    (found : system.sessions.get? id = some session)
    (working : session.worker = .authorizing none) :
    let next := (system.update id AuthSession.claimCommit
      AuthSession.sessionId_claimCommit).withGuard
        (if session.lifecycle = .active then some (.worker id) else none)
    next.Orderly ∧ system.Extends next := by
  have updates := (orderly.operates_update id
    AuthSession.sessionId_claimCommit fun other source => by
      rw [found] at source
      cases source
      exact (orderly.consistent id session found).claim working).withGuard
        (if session.lifecycle = .active then some (.worker id) else none)
  refine ⟨updates.orderly orderly ?_ ?_, updates.extends⟩
  · intro other otherSession source guards
    split at guards
    · rename_i same
      subst same
      rw [found] at source
      cases source
      unfold AuthSession.claimCommit at guards
      split at guards
      · rename_i active
        exact if_pos active
      · cases guards
    · rw [orderly.not_holdsGuard (Orderly.no_worker free) source] at guards
      cases guards
  · intro provider running
    dsimp only [AuthSessions.withGuard] at running
    split at running
    · cases running
    · cases running

/-- The worker releases the guard. -/
theorem Orderly.release (orderly : system.Orderly) {id : AuthSessionId}
    {session : AuthSession} (found : system.sessions.get? id = some session)
    (finishing : session.worker = .finishing) :
    let next := (system.update id (AuthSession.withWorker .done)
      fun session => session.sessionId_withWorker _).withGuard none
    next.Orderly ∧ system.Extends next := by
  have consistent := orderly.consistent id session found
  have own : system.guard = some (.worker id) :=
    orderly.guarded id session found (by rw [finishing]; rfl)
  have ended : session.lifecycle = .terminal := by
    cases consistent with
    | active => cases finishing
    | committing => cases finishing
    | decided => rfl
    | settled => rfl
  have updates := (orderly.operates_update id
    (fun session => session.sessionId_withWorker AuthWorker.done)
    fun other source => by
      rw [found] at source
      cases source
      refine consistent.return ended ?_
      rintro saved ⟨⟩).withGuard none
  refine ⟨updates.orderly orderly ?_ ?_, updates.extends⟩
  · intro other otherSession source guards
    split at guards
    · cases guards
    · rename_i differs
      have held := orderly.guarded other otherSession source guards
      rw [own] at held
      cases held
      exact absurd rfl differs
  · rintro provider ⟨⟩

/-- The worker attempts to save what it has claimed. -/
theorem Orderly.save (orderly : system.Orderly) {id : AuthSessionId}
    {session : AuthSession} (found : system.sessions.get? id = some session)
    (claimed : session.worker = .committing none) (succeeds : Bool) :
    let next := (system.saved session).update id
      (AuthSession.withWorker (.committing (some succeeds)))
      fun session => session.sessionId_withWorker _
    next.Orderly ∧ system.Extends next := by
  have consistent := orderly.consistent id session found
  have sameId : session.sessionId = id := SqlTable.key_of_get? found
  obtain ⟨evolves, spent⟩ := consistent.save claimed succeeds
  have updated := orderly.updated found
    (fun session => session.sessionId_withWorker
      (AuthWorker.committing (some succeeds))) evolves
    fun _ => by rw [claimed]; rfl
  have afterUpdate := updated.1
  refine ⟨⟨afterUpdate.ids, afterUpdate.consistent, afterUpdate.guarded,
    afterUpdate.listed, afterUpdate.single, ?_, ?_, afterUpdate.reported,
    afterUpdate.loggedOut⟩, updated.2.kept, ?_⟩
  · intro other otherSession source unsaved save member
    rcases List.mem_append.mp member with older | new
    · exact afterUpdate.unsaved other otherSession source unsaved save older
    · rw [List.mem_singleton] at new
      subst new
      rintro rfl
      dsimp only at source
      rw [sameId, update, SqlTable.get?_updateKey] at source
      change Option.map _ (system.sessions.get? id) = _ at source
      rw [found, Option.map_some, if_pos ⟨rfl, rfl⟩] at source
      cases source
      exact spent unsaved
  · intro save member
    rcases List.mem_append.mp member with older | new
    · exact afterUpdate.known save older
    · rw [List.mem_singleton] at new
      subst new
      rw [sameId]
      exact orderly.ids id session found
  · refine ⟨_, rfl, ?_⟩
    intro save member other source ended
    rw [List.mem_singleton] at member
    subst member
    rw [sameId, found] at source
    cases source
    have committing := consistent.committing_iff.mpr ⟨none, claimed⟩
    rw [ended] at committing
    cases committing

theorem Orderly.report (orderly : system.Orderly) {id : AuthSessionId}
    {session : AuthSession} (found : system.sessions.get? id = some session) :
    let next := { system with reports := system.reports ++ [session.data] }
    next.Orderly ∧ system.Extends next := by
  refine ⟨⟨orderly.ids, orderly.consistent, orderly.guarded, orderly.listed,
    orderly.single, orderly.unsaved, orderly.known, ?_, orderly.loggedOut⟩,
    (Extends.refl system).kept, (Extends.refl system).saves⟩
  intro report member
  rcases List.mem_append.mp member with older | new
  · exact orderly.reported report older
  · rw [List.mem_singleton] at new
    subst new
    have sameId : session.sessionId = id := SqlTable.key_of_get? found
    change session.data.sessionId = id at sameId
    exact ⟨session, by rw [sameId]; exact found, fun _ => rfl⟩

/-- A guard that no worker holds may be taken or released. -/
theorem Orderly.withGuard (orderly : system.Orderly)
    (free : ∀ id, system.guard ≠ some (.worker id))
    {guard : Option AuthGuard}
    (quiet : ∀ provider, guard ≠ some (.logout provider)) :
    (system.withGuard guard).Orderly ∧
      system.Extends (system.withGuard guard) := by
  have operates := (orderly.operates_self system.clock).withGuard guard
  refine ⟨operates.orderly_of_free orderly free (fun _ _ _ holds => holds) ?_,
    operates.extends⟩
  intro provider running
  exact absurd running (quiet provider)

theorem commitOutcome_terminal {saved : Bool} {outcome : Except String Unit}
    {state : AuthSessionState} (ends : commitOutcome saved outcome = some state) :
    state.isTerminal = true ∧ state ≠ .cancelled := by
  unfold commitOutcome at ends
  split at ends
  · cases ends
    exact ⟨rfl, by rintro ⟨⟩⟩
  · cases ends
    exact ⟨rfl, by rintro ⟨⟩⟩
  · cases ends

theorem Orderly.pruned (orderly : system.Orderly) :
    system.prune.Orderly ∧ system.Extends system.prune :=
  ⟨orderly.operates_prune.orderly_of_guard orderly rfl
    fun _ _ _ holds => holds, orderly.operates_prune.extends⟩

theorem Orderly.transition (orderly : system.Orderly) (id : AuthSessionId)
    {state : AuthSessionState} (terminal : state.isTerminal = true) :
    (system.transition id state).Orderly ∧
      system.Extends (system.transition id state) := by
  have operates := orderly.operates_transition id terminal
  refine ⟨operates.orderly_of_guard orderly rfl ?_, operates.extends⟩
  intro other session source holds
  split at holds
  · rwa [worker_transition] at holds
  · exact holds

theorem worker_writeTerminalState (session : AuthSession)
    (expiresAtMs : Int) :
    (session.writeTerminalState expiresAtMs).worker = session.worker := by
  unfold AuthSession.writeTerminalState
  split
  · rfl
  · rfl

theorem Orderly.write (orderly : system.Orderly) (id : AuthSessionId) :
    let next := system.update id
      (AuthSession.writeTerminalState system.expiryMs)
      fun session => session.sessionId_writeTerminalState _
    next.Orderly ∧ system.Extends next := by
  have operates := orderly.operates_update id
    (fun session => session.sessionId_writeTerminalState system.expiryMs)
    fun session source => (orderly.consistent id session source).write _
  refine ⟨operates.orderly_of_guard orderly rfl ?_, operates.extends⟩
  intro other session source holds
  split at holds
  · rwa [worker_writeTerminalState] at holds
  · exact holds

theorem selects_provider (provider : ProviderId) (first second : AuthSession)
    (same : first.data.provider = second.data.provider) :
    decide (first.data.provider = provider) =
      decide (second.data.provider = provider) := by
  rw [same]

/-- Logging out cancels the provider's sessions under the guard. -/
theorem Orderly.logoutBegun (orderly : system.Orderly)
    (free : system.guard = none) (provider : ProviderId) :
    let next := (system.prune.cancelEntries fun session =>
      decide (session.data.provider = provider)).withGuard
        (some (.logout provider))
    next.Orderly ∧ system.Extends next := by
  refine orderly.cancelled free (selects_provider provider)
    (.logout provider) ?_ ?_ rfl
  · rintro id ⟨⟩
  · rintro _ ⟨⟩ session same
    exact decide_eq_true same

/-- A config reload cancels every session under the guard. -/
theorem Orderly.reloadBegun (orderly : system.Orderly)
    (free : system.guard = none) :
    let next := (system.prune.cancelEntries fun _ => true).withGuard
      (some .configReload)
    next.Orderly ∧ system.Extends next := by
  refine orderly.cancelled free (fun _ _ _ => rfl) .configReload ?_ ?_ rfl
  · rintro id ⟨⟩
  · rintro provider ⟨⟩

/-- Whoever is not a worker may let the guard go. -/
theorem Orderly.guardEnded (orderly : system.Orderly) {guard : AuthGuard}
    (held : system.guard = some guard) (notWorker : ∀ id, guard ≠ .worker id) :
    (system.withGuard none).Orderly ∧
      system.Extends (system.withGuard none) := by
  refine orderly.withGuard ?_ ?_
  · rintro id own
    rw [held] at own
    exact notWorker id (Option.some.inj own)
  · rintro provider ⟨⟩

theorem Orderly.expired (orderly : system.Orderly) (id : AuthSessionId) :
    (system.expireIfNeeded id).Orderly ∧
      system.Extends (system.expireIfNeeded id) := by
  unfold expireIfNeeded
  split
  · exact orderly.transition id rfl
  · exact ⟨orderly, .refl system⟩

theorem Orderly.progressed (orderly : system.Orderly) {id : AuthSessionId}
    {session : AuthSession} (found : system.sessions.get? id = some session)
    (authorizing : session.worker = .authorizing none)
    (event : LoginProgress) :
    let next := system.update id (AuthSession.applyProgress event)
      fun session => session.sessionId_applyProgress event
    next.Orderly ∧ system.Extends next := by
  refine orderly.updated found _
    ((orderly.consistent id _ found).progress authorizing event) ?_
  intro holds
  unfold AuthSession.applyProgress at holds
  split at holds
  · cases holds
  · rw [authorizing] at holds
    cases holds

theorem Orderly.published (orderly : system.Orderly) {id : AuthSessionId}
    {session : AuthSession} (found : system.sessions.get? id = some session)
    {state : AuthSessionState}
    (authorizing : session.worker = .authorizing (some state)) :
    let next := system.update id
      (fun session =>
        (session.setActiveState state).withWorker (.authorizing none))
      fun session => session.sessionId_setActiveState state
    next.Orderly ∧ system.Extends next := by
  refine orderly.updated found _
    ((orderly.consistent id _ found).publish authorizing) ?_
  rintro ⟨⟩

theorem Orderly.failed (orderly : system.Orderly) {id : AuthSessionId}
    {session : AuthSession} (found : system.sessions.get? id = some session)
    (authorizing : session.worker = .authorizing none) (message : String) :
    let next := system.update id
      (fun session =>
        (session.transitionActiveToTerminal (.failed message)).withWorker
          .done)
      fun session => session.sessionId_transitionActiveToTerminal _
    next.Orderly ∧ system.Extends next := by
  refine orderly.updated found _
    ((orderly.consistent id _ found).fail authorizing message) ?_
  rintro ⟨⟩

/-- A worker ends its commit with the outcome that was decided. -/
theorem Orderly.finished (orderly : system.Orderly) {id : AuthSessionId}
    {session : AuthSession} (found : system.sessions.get? id = some session)
    {succeeded : Bool}
    (committing : session.worker = .committing (some succeeded))
    {outcome : Except String Unit} {state : AuthSessionState}
    (ends : commitOutcome succeeded outcome = some state) :
    let next := system.update id
      (fun session => (session.finishCommit state).withWorker .finishing)
      fun session => session.sessionId_finishCommit state
    next.Orderly ∧ system.Extends next := by
  obtain ⟨terminal, kept⟩ := commitOutcome_terminal ends
  exact orderly.updated found _
    ((orderly.consistent id _ found).finish committing terminal kept)
    fun _ => by
      rw [committing]
      rfl

/-- Every step keeps the sessions orderly and what was decided. -/
theorem step_orderly {action : AuthAction} (orderly : system.Orderly)
    (steps : system.step action = some next) :
    next.Orderly ∧ system.Extends next := by
  cases action with
  | elapse ms =>
    cases steps
    have operates := orderly.operates_self (system.clock + ms)
    exact ⟨operates.orderly_of_guard orderly rfl fun _ _ _ holds => holds,
      operates.extends⟩
  | start request =>
    rw [step, Option.ite_none_right_eq_some] at steps
    exact orderly.start steps.1 steps.2
  | progress id event =>
    rw [step] at steps
    split at steps
    · rename_i found
      cases steps
      exact orderly.progressed found rfl event
    · cases steps
  | publish id =>
    rw [step] at steps
    split at steps
    · rename_i found
      cases steps
      exact orderly.published found rfl
    · cases steps
  | fail id message =>
    rw [step] at steps
    split at steps
    · rename_i found
      cases steps
      exact orderly.failed found rfl message
    · cases steps
  | claim id =>
    rw [step] at steps
    split at steps
    · rename_i found
      rw [Option.ite_none_right_eq_some] at steps
      obtain ⟨free, taken⟩ := steps
      cases taken
      exact orderly.claim free found rfl
    · cases steps
  | save id succeeds =>
    rw [step] at steps
    split at steps
    · rename_i session found
      rw [Option.ite_none_right_eq_some] at steps
      obtain ⟨claimed, taken⟩ := steps
      cases taken
      exact orderly.save found claimed succeeds
    · cases steps
  | finish id outcome =>
    rw [step] at steps
    split at steps
    · rename_i found
      obtain ⟨state, ends, rfl⟩ := Option.map_eq_some_iff.mp steps
      exact orderly.finished found rfl ends
    · cases steps
  | write id =>
    cases steps
    exact orderly.write id
  | release id =>
    rw [step] at steps
    split at steps
    · rename_i found
      cases steps
      exact orderly.release found rfl
    · cases steps
  | poll id =>
    obtain ⟨pruned, extended⟩ := orderly.pruned
    rw [step] at steps
    split at steps
    · cases steps
      exact ⟨pruned, extended⟩
    · cases steps
      have expired := pruned.expired id
      exact ⟨expired.1, extended.trans expired.2⟩
  | cancel id =>
    obtain ⟨pruned, extended⟩ := orderly.pruned
    rw [step] at steps
    split at steps
    · cases steps
      exact ⟨pruned, extended⟩
    · cases steps
      have cancelled := @Orderly.transition _ pruned id .cancelled rfl
      exact ⟨cancelled.1, extended.trans cancelled.2⟩
  | report id =>
    obtain ⟨session, found, rfl⟩ := Option.map_eq_some_iff.mp steps
    exact orderly.report found
  | beginLogout provider =>
    rw [step, Option.ite_none_right_eq_some] at steps
    obtain ⟨free, taken⟩ := steps
    cases taken
    exact orderly.logoutBegun free provider
  | beginReload =>
    rw [step, Option.ite_none_right_eq_some] at steps
    obtain ⟨free, taken⟩ := steps
    cases taken
    exact orderly.reloadBegun free
  | beginOperation =>
    rw [step, Option.ite_none_right_eq_some] at steps
    obtain ⟨free, taken⟩ := steps
    cases taken
    refine orderly.withGuard (Orderly.no_worker free) ?_
    rintro provider ⟨⟩
  | endGuarded =>
    rw [step] at steps
    split at steps
    · cases steps
    · rename_i guard notWorker held
      cases steps
      exact orderly.guardEnded held notWorker
    · cases steps

theorem run_orderly {clock : Int} {actions : List AuthAction}
    (runs : machine.run (started clock) actions = some system) :
    system.Orderly :=
  machine.run_preserves (fun _ _ _ orderly steps =>
    (step_orderly orderly steps).1) (started_orderly clock) runs

theorem run_extends {actions : List AuthAction} (orderly : system.Orderly)
    (runs : machine.run system actions = some next) : system.Extends next := by
  have preserved : ∀ current action following,
      Orderly current ∧ system.Extends current →
        machine.step current action = some following →
          following.Orderly ∧ system.Extends following := by
    intro current action following kept steps
    obtain ⟨after, extended⟩ := step_orderly kept.1 steps
    exact ⟨after, kept.2.trans extended⟩
  exact (machine.run_preserves preserved ⟨orderly, .refl system⟩ runs).2

/-- The attempts to save since an earlier state. -/
def savesSince (before after : AuthSessions) : List CredentialSave :=
  after.saves.drop before.saves.length

/-- What is decided stays decided, and what is over saves nothing more. -/
structure KeepsFates (before after : AuthSessions) : Prop where
  earlier : before.saves <+: after.saves
  cancelled : ∀ report ∈ after.reports, report.state = .cancelled →
    ∀ save ∈ after.saves, save.sessionId ≠ report.sessionId
  reported : ∀ report ∈ before.reports, report.state.isTerminal = true →
    ∀ save ∈ before.savesSince after, save.sessionId ≠ report.sessionId
  ended : ∀ id session, before.sessions.get? id = some session →
    session.lifecycle = .terminal →
      ∀ save ∈ before.savesSince after, save.sessionId ≠ id
  settled : ∀ id session, before.sessions.get? id = some session →
    session.data.state.isTerminal = true → ∃ later,
      after.sessions.get? id = some later ∧
        later.data.state = session.data.state
  single : ∀ first second firstSession secondSession,
    after.sessions.get? first = some firstSession →
      after.sessions.get? second = some secondSession →
        firstSession.data.provider = secondSession.data.provider →
          firstSession.lifecycle ≠ .terminal →
            secondSession.lifecycle ≠ .terminal → first = second
  /-- A sign-in that is over reports so once the decided state is written. -/
  written : ∀ id session, after.sessions.get? id = some session →
    session.lifecycle = .terminal → session.data.state.isTerminal = false →
      ∃ state, session.decided = some state ∧ state.isTerminal = true
  /-- As a logout returns, it still holds the guard. -/
  loggedOut : ∀ provider, before.guard = some (.logout provider) →
    ∀ id session, before.sessions.get? id = some session →
      session.data.provider = provider →
        ∀ save ∈ before.savesSince after, save.sessionId ≠ id

/-- In every run, a sign-in that is cancelled, has expired or was started
before a logout saves no credentials afterwards, and no provider has two
sign-ins at a time. -/
theorem run_keepsFates {clock : Int} {actions later : List AuthAction}
    (runs : machine.run (started clock) actions = some system)
    (continues : machine.run system later = some next) :
    system.KeepsFates next := by
  have orderly := run_orderly runs
  have extended := run_extends orderly continues
  have orderlyNext : next.Orderly :=
    run_orderly (machine.run_append runs continues)
  obtain ⟨added, saves, live⟩ := extended.saves
  have since : system.savesSince next = added := by
    rw [savesSince, saves, List.drop_left]
  have ended : ∀ id session, system.sessions.get? id = some session →
      session.lifecycle = .terminal →
        ∀ save ∈ system.savesSince next, save.sessionId ≠ id := by
    rw [since]
    rintro id session found terminal save member rfl
    exact live save member session found terminal
  constructor
  · exact ⟨added, saves.symm⟩
  · intro report member isCancelled
    obtain ⟨session, found, settled⟩ := orderlyNext.reported report member
    have state : session.data.state = .cancelled := by
      rw [settled (by rw [isCancelled]; rfl), isCancelled]
    exact orderlyNext.unsaved _ session found (.inr (.inr (.inr state)))
  · intro report member terminal
    obtain ⟨session, found, settled⟩ := orderly.reported report member
    have consistent := orderly.consistent _ session found
    refine ended _ session found (consistent.ended ?_)
    rw [settled terminal]
    exact terminal
  · exact ended
  · intro id session found terminal
    obtain ⟨after, kept, follows⟩ := extended.kept id session found
    exact ⟨after, kept, follows.settled terminal⟩
  · exact orderlyNext.single
  · intro id session found terminal
    exact (orderlyNext.consistent id session found).written terminal
  · intro provider running id session found same
    exact ended id session found
      (orderly.loggedOut provider running id session found same)

def signIn : AuthStart where
  provider := ⟨"spotify"⟩
  strategy := .spotifyOauth
  method := none
  preferred := .devApp
  embeddedPlayback := false
  config := .ok ()

/-- A sign-in is cancelled while it waits, and a second one is committed. -/
def cancelledThenCommitted : List AuthAction :=
  [.start signIn, .progress ⟨0⟩ (.openingBrowser "https://auth" "callback"),
    .publish ⟨0⟩, .cancel ⟨0⟩, .write ⟨0⟩, .report ⟨0⟩, .claim ⟨0⟩,
    .start signIn, .claim ⟨1⟩, .save ⟨1⟩ true, .finish ⟨1⟩ (.ok ()),
    .write ⟨1⟩, .release ⟨1⟩, .beginLogout ⟨"spotify"⟩]

/-- After the logout a third sign-in is committed. -/
def committedAfterLogout : List AuthAction :=
  [.endGuarded, .start signIn, .claim ⟨2⟩, .save ⟨2⟩ true]

theorem signIns_keepFates :
    ∃ system next,
      machine.run (started 0) cancelledThenCommitted = some system ∧
        machine.run system committedAfterLogout = some next ∧
        system.KeepsFates next := by
  have goesOn : ((machine.run (started 0) cancelledThenCommitted).bind
      fun system => machine.run system committedAfterLogout).isSome = true := by
    decide +kernel
  obtain ⟨next, goesOn⟩ := Option.isSome_iff_exists.mp goesOn
  obtain ⟨system, runs, continues⟩ := Option.bind_eq_some_iff.mp goesOn
  exact ⟨system, next, runs, continues, run_keepsFates runs continues⟩

end AuthSessions

end Spotuify
