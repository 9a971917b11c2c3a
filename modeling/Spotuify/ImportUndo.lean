import Spotuify.ScrobbleImports
import Mathlib.Data.List.Nodup

/-!
# When undoing an import run is exact

A promoted fact belongs to the run its scrobble is stored under.  As long as
every promotion is by that run, the facts promoted while a run was importing
are those that undoing it deletes, and none of them outlives its run.
-/

namespace Spotuify

namespace ImportStore

variable {sha256Hex : String → String} {store later : ImportStore}

/-- The stored scrobbles with the runs they are stored under. -/
def owners (store : ImportStore) : List (Nat × Nat) :=
  store.scrobbles.map fun row => (row.id, row.importRunId)

theorem mem_scrobblesOf {runId id : Nat} :
    id ∈ store.scrobblesOf runId ↔ (id, runId) ∈ store.owners := by
  simp [scrobblesOf, owners, and_comm, and_assoc]

@[simp]
theorem markResolution_owners (externalId : Nat) (status : ResolutionStatus)
    (resolvedUri : Option String) :
    (store.markResolution externalId status resolvedUri).owners =
      store.owners := by
  unfold owners markResolution
  dsimp only
  rw [List.map_map]
  apply List.map_congr_left
  intro row _
  dsimp only [Function.comp_apply]
  split <;> rfl

/-- A fact that no import has to do with. -/
def Tracked (store : ImportStore) (fact : StoredListenFact) : Prop :=
  fact.row.externalScrobbleId = none ∧
    fact.row.measurementKind ≠ .lastfmScrobbleImport ∧
    ∀ runId, ⟨runId, fact.id⟩ ∉ store.promotions

/-- A fact of a stored scrobble that its own run promoted, and that run is not
undone. -/
def Promoted (store : ImportStore) (fact : StoredListenFact) : Prop :=
  ∃ id owner, (id, owner) ∈ store.owners ∧
    fact.row.externalScrobbleId = some id ∧
    (∀ runId, ⟨runId, fact.id⟩ ∈ store.promotions ↔ runId = owner) ∧
    ∀ run ∈ store.runs, run.runId = owner → run.state ≠ .undone

structure Owned (store : ImportStore) : Prop where
  distinct : (store.owners.map Prod.fst).Nodup
  scrobbleFresh : ∀ owner ∈ store.owners, owner.1 < store.nextScrobbleId
  ownerKnown : ∀ owner ∈ store.owners, ∃ run ∈ store.runs,
    run.runId = owner.2
  factFresh : ∀ fact ∈ store.listens.facts, fact.id < store.listens.nextFactId
  promotionFresh : ∀ promotion ∈ store.promotions,
    promotion.factId < store.listens.nextFactId
  classified : ∀ fact ∈ store.listens.facts,
    store.Tracked fact ∨ store.Promoted fact
  activeKnown : ∀ active, store.importing = some active →
    (∃ run ∈ store.runs, run.runId = active.runId) ∧
    ∀ run ∈ store.runs, run.runId = active.runId → run.state ≠ .undone

theorem initial_owned : initial.Owned where
  distinct := List.nodup_nil
  scrobbleFresh _ member := nomatch member
  ownerKnown _ member := nomatch member
  factFresh _ member := nomatch member
  promotionFresh _ member := nomatch member
  classified _ member := nomatch member
  activeKnown _ running := nomatch running

theorem Owned.owner_eq (owned : store.Owned) {id first second : Nat}
    (firstOwns : (id, first) ∈ store.owners)
    (secondOwns : (id, second) ∈ store.owners) : first = second := by
  have same := List.inj_on_of_nodup_map owned.distinct firstOwns secondOwns rfl
  exact congrArg Prod.snd same

/-- A promoted fact counts as one of a run's scrobbles just when that run
promoted it. -/
theorem Owned.undoExact (owned : store.Owned) : store.UndoExact := by
  constructor
  · intro runId
    apply List.filter_congr
    intro fact member
    rw [decide_eq_decide, not_iff_not]
    rcases owned.classified fact member with tracked | promoted
    · obtain ⟨noScrobble, _, notPromoted⟩ := tracked
      simp [noScrobble, notPromoted runId]
    · obtain ⟨id, owner, owns, ofScrobble, byOwner, _⟩ := promoted
      rw [byOwner runId, ofScrobble]
      constructor
      · rintro ⟨other, inRun, same⟩
        cases same
        exact owned.owner_eq (mem_scrobblesOf.mp inRun) owns
      · rintro rfl
        exact ⟨id, mem_scrobblesOf.mpr owns, rfl⟩
  · intro allUndone fact member
    rcases owned.classified fact member with tracked | promoted
    · exact tracked.2.1
    · obtain ⟨id, owner, owns, _, _, notUndone⟩ := promoted
      obtain ⟨run, inRuns, isOwner⟩ := owned.ownerKnown _ owns
      exact absurd (allUndone run inRuns) (notUndone run inRuns isOwner)

/-- Marks and counts do not matter. -/
theorem Owned.of_eq (owned : store.Owned)
    (listens : later.listens = store.listens)
    (owners : later.owners = store.owners)
    (nextScrobbleId : later.nextScrobbleId = store.nextScrobbleId)
    (runs : later.runs = store.runs)
    (promotions : later.promotions = store.promotions)
    (importing : ∀ active, later.importing = some active →
      ∃ before, store.importing = some before ∧
        before.runId = active.runId) : later.Owned := by
  refine ⟨?_, ?_, ?_, ?_, ?_, ?_, ?_⟩
  · rw [owners]
    exact owned.distinct
  · rw [owners, nextScrobbleId]
    exact owned.scrobbleFresh
  · rw [owners, runs]
    exact owned.ownerKnown
  · rw [listens]
    exact owned.factFresh
  · rw [listens, promotions]
    exact owned.promotionFresh
  · unfold Tracked Promoted
    rw [listens, owners, runs, promotions]
    exact owned.classified
  · intro active running
    obtain ⟨before, ranBefore, same⟩ := importing active running
    rw [runs, ← same]
    exact owned.activeKnown before ranBefore

/-- A recorded fact takes the next id. -/
theorem Owned.recorded_fresh (owned : store.Owned) (fact : ListenFactRow) :
    ∀ stored ∈ (store.listens.recordListen fact).facts,
      stored.id < (store.listens.recordListen fact).nextFactId := by
  intro stored member
  change stored.id < store.listens.nextFactId + 1
  rcases List.mem_append.mp member with old | new
  · have fresh := owned.factFresh stored old
    omega
  · cases List.mem_singleton.mp new
    exact Nat.lt_succ_self _

theorem Owned.track (owned : store.Owned) {fact : ListenFactRow}
    (noScrobble : fact.externalScrobbleId = none)
    (observed : fact.measurementKind = .observedPlayback) :
    Owned { store with listens := store.listens.recordListen fact } := by
  refine ⟨owned.distinct, owned.scrobbleFresh, owned.ownerKnown,
    owned.recorded_fresh fact, ?_, ?_, owned.activeKnown⟩
  · intro promotion member
    have fresh := owned.promotionFresh promotion member
    change promotion.factId < store.listens.nextFactId + 1
    omega
  · intro stored member
    rcases List.mem_append.mp member with old | new
    · exact owned.classified stored old
    · cases List.mem_singleton.mp new
      refine .inl ⟨noScrobble, by simp [observed], ?_⟩
      intro runId promoted
      exact absurd (owned.promotionFresh _ promoted) (Nat.lt_irrefl _)

/-- The run that stores a scrobble promotes it. -/
theorem Owned.promote (owned : store.Owned) {active next : ActiveImport}
    (running : store.importing = some active)
    (sameRun : next.runId = active.runId) {externalId : Nat}
    (owns : (externalId, active.runId) ∈ store.owners) {fact : ListenFactRow}
    (ofScrobble : fact.externalScrobbleId = some externalId) :
    Owned
      { store with
        listens := store.listens.recordListen fact,
        importing := some next,
        promotions := store.promotions ++
          [⟨active.runId, store.listens.nextFactId⟩] } := by
  refine ⟨owned.distinct, owned.scrobbleFresh, owned.ownerKnown,
    owned.recorded_fresh fact, ?_, ?_, ?_⟩
  · intro promotion member
    change promotion.factId < store.listens.nextFactId + 1
    rcases List.mem_append.mp member with old | new
    · have fresh := owned.promotionFresh promotion old
      omega
    · cases List.mem_singleton.mp new
      exact Nat.lt_succ_self _
  · intro stored member
    rcases List.mem_append.mp member with old | new
    · -- The new promotion is of a fact that was not there.
      have other : stored.id ≠ store.listens.nextFactId :=
        (owned.factFresh stored old).ne
      have unchanged : ∀ runId, (⟨runId, stored.id⟩ : Promotion) ∈
          store.promotions ++ [⟨active.runId, store.listens.nextFactId⟩] ↔
            (⟨runId, stored.id⟩ : Promotion) ∈ store.promotions := by
        intro runId
        simp [other]
      rcases owned.classified stored old with tracked | promoted
      · refine .inl ⟨tracked.1, tracked.2.1, fun runId => ?_⟩
        rw [unchanged]
        exact tracked.2.2 runId
      · obtain ⟨id, owner, owns', ofOther, byOwner, notUndone⟩ := promoted
        refine .inr ⟨id, owner, owns', ofOther, fun runId => ?_, notUndone⟩
        rw [unchanged]
        exact byOwner runId
    · cases List.mem_singleton.mp new
      refine .inr ⟨externalId, active.runId, owns, ofScrobble, fun runId => ?_,
        (owned.activeKnown active running).2⟩
      have notBefore : (⟨runId, store.listens.nextFactId⟩ : Promotion) ∉
          store.promotions :=
        fun promoted => absurd (owned.promotionFresh _ promoted)
          (Nat.lt_irrefl _)
      simp [notBefore]
  · intro other running'
    cases running'
    rw [sameRun]
    exact owned.activeKnown active running

/-- A new scrobble is stored under a run there is. -/
theorem Owned.append_owner (owned : store.Owned) {runId : Nat}
    (known : ∃ run ∈ store.runs, run.runId = runId)
    (owners : later.owners = store.owners ++ [(store.nextScrobbleId, runId)])
    (nextScrobbleId : later.nextScrobbleId = store.nextScrobbleId + 1)
    (listens : later.listens = store.listens)
    (runs : later.runs = store.runs)
    (promotions : later.promotions = store.promotions)
    (importing : later.importing = store.importing) : later.Owned := by
  refine ⟨?_, ?_, ?_, ?_, ?_, ?_, ?_⟩
  · rw [owners, List.map_append, List.nodup_append]
    refine ⟨owned.distinct, List.nodup_singleton _, ?_⟩
    intro id old other new same
    obtain ⟨owner, member, rfl⟩ := List.mem_map.mp old
    have fresh := owned.scrobbleFresh owner member
    rw [same, List.mem_singleton.mp new] at fresh
    exact Nat.lt_irrefl _ fresh
  · intro owner member
    rw [owners] at member
    rw [nextScrobbleId]
    rcases List.mem_append.mp member with old | new
    · have fresh := owned.scrobbleFresh owner old
      omega
    · cases List.mem_singleton.mp new
      exact Nat.lt_succ_self _
  · intro owner member
    rw [owners] at member
    rw [runs]
    rcases List.mem_append.mp member with old | new
    · exact owned.ownerKnown owner old
    · cases List.mem_singleton.mp new
      exact known
  · rw [listens]
    exact owned.factFresh
  · rw [listens, promotions]
    exact owned.promotionFresh
  · intro fact member
    rw [listens] at member
    unfold Tracked Promoted
    rw [owners, promotions, runs]
    rcases owned.classified fact member with tracked | promoted
    · exact .inl tracked
    · obtain ⟨id, owner, owns, rest⟩ := promoted
      exact .inr ⟨id, owner, List.mem_append_left _ owns, rest⟩
  · rw [importing, runs]
    exact owned.activeKnown

/-- Storing a scrobble gives it an owner: the run that saw it first. -/
theorem Owned.insert (owned : store.Owned) {active : ActiveImport}
    (running : store.importing = some active) (scrobble : LastfmScrobble) :
    let inserted := store.insertExternalScrobble sha256Hex active scrobble
    inserted.1.Owned ∧ inserted.1.importing = some active ∧
      inserted.1.listens = store.listens ∧
      ∃ owner, (inserted.2.1, owner) ∈ inserted.1.owners ∧
        (owner = active.runId ∨
          ∃ row, store.storedScrobble? sha256Hex active.username scrobble =
            some row ∧ row.id = inserted.2.1 ∧ row.importRunId = owner) := by
  cases found : store.storedScrobble? sha256Hex active.username scrobble with
  | some row =>
    simp only [insertExternalScrobble, found]
    have member := List.mem_of_find?_eq_some found
    exact ⟨owned, running, trivial, row.importRunId,
      List.mem_map_of_mem member, .inr ⟨row, rfl, rfl, rfl⟩⟩
  | none =>
    simp only [insertExternalScrobble, found]
    refine ⟨?_, running, trivial, active.runId, ?_, .inl rfl⟩
    · have known := (owned.activeKnown active running).1
      refine owned.append_owner known ?_ rfl rfl rfl rfl rfl
      exact List.map_append
    · exact List.mem_map.mpr ⟨_, List.mem_append_right _
        (List.mem_singleton_self _), rfl⟩

theorem Owned.resolve (owned : store.Owned) {active : ActiveImport}
    (running : store.importing = some active) {counted : ActiveImport}
    (sameRun : counted.runId = active.runId) {externalId owner : Nat}
    (owns : (externalId, owner) ∈ store.owners) (scrobble : LastfmScrobble)
    (nowMs : Int) (resolution : ScrobbleResolution)
    (own : ∀ item artistUri albumUri,
      resolution = .track item artistUri albumUri →
        owner = active.runId ∨ store.listens.promotes externalId item = false) :
    (store.resolveScrobble counted externalId scrobble nowMs
      resolution).Owned := by
  have goesOn : ∀ next : ActiveImport, next.runId = counted.runId →
      ∀ other, some next = some other →
        ∃ before, store.importing = some before ∧
          before.runId = other.runId := by
    intro next same other isNext
    cases isNext
    exact ⟨active, running, (same.trans sameRun).symm⟩
  cases resolution with
  | unresolved =>
    exact owned.of_eq rfl (markResolution_owners ..) rfl rfl rfl (goesOn _ rfl)
  | error =>
    exact owned.of_eq rfl (markResolution_owners ..) rfl rfl rfl (goesOn _ rfl)
  | track item artistUri albumUri =>
    have marked : (store.markResolution externalId .resolved
        (some item.uri)).Owned := by
      refine owned.of_eq rfl (markResolution_owners ..) rfl rfl rfl ?_
      intro other isOther
      exact ⟨other, isOther, rfl⟩
    simp only [resolveScrobble, ListenStore.promoteImportedListen]
    split
    · exact owned.of_eq rfl (markResolution_owners ..) rfl rfl rfl
        (goesOn _ rfl)
    · rename_i listens promotes
      split at promotes
      · rename_i allowed
        cases promotes
        have byOwner : owner = active.runId := by
          rcases own item artistUri albumUri rfl with same | refused
          · exact same
          · have contradiction : true = false := allowed.symm.trans refused
            cases contradiction
        subst byOwner
        have markedAgain : ((store.markResolution externalId .resolved
            (some item.uri)).markResolution externalId .promoted
              (some item.uri)).Owned := by
          refine marked.of_eq rfl (markResolution_owners ..) rfl rfl rfl ?_
          intro other isOther
          exact ⟨other, isOther, rfl⟩
        let final : ActiveImport :=
          { counted with
            counts :=
              { counted.counts with
                resolved := counted.counts.resolved + 1,
                promoted := counted.counts.promoted + 1 } }
        have finalRun : final.runId = active.runId := sameRun
        have ofScrobble : (ListenStore.importedFact externalId scrobble item
            artistUri albumUri nowMs).externalScrobbleId = some externalId := rfl
        have promoted := markedAgain.promote running finalRun
          (by simpa using owns) ofScrobble
        rw [← sameRun] at promoted
        exact promoted
      · cases promotes

theorem Owned.importScrobble (owned : store.Owned) {active : ActiveImport}
    (running : store.importing = some active) {scrobble : LastfmScrobble}
    {resolution : ScrobbleResolution} {nowMs : Int}
    (own : store.PromotesOwn sha256Hex (.scrobble scrobble resolution nowMs)) :
    (store.importScrobble sha256Hex active scrobble resolution nowMs).Owned := by
  obtain ⟨inserted, goesOn, sameListens, owner, owns, seen⟩ :=
    @Owned.insert sha256Hex store owned active running scrobble
  have sameRun : (countStored active (store.insertExternalScrobble sha256Hex
      active scrobble).2.2).runId = active.runId := rfl
  refine inserted.resolve goesOn sameRun owns scrobble nowMs resolution ?_
  rintro item artistUri albumUri rfl
  rcases seen with byActive | ⟨row, found, sameId, sameOwner⟩
  · exact .inl byActive
  · rw [sameListens, ← sameId, ← sameOwner]
    exact own active running row found

/-- Runs change their state only. -/
theorem mem_setRunState {runId : Nat} {change : ImportRun → ImportRun}
    (sameId : ∀ run, (change run).runId = run.runId) {run : ImportRun}
    (member : run ∈ (store.setRunState runId change).runs) :
    ∃ before ∈ store.runs, before.runId = run.runId ∧
      ((run.runId = runId ∧ run = change before) ∨
        (run.runId ≠ runId ∧ run = before)) := by
  obtain ⟨before, inRuns, rfl⟩ := List.mem_map.mp member
  refine ⟨before, inRuns, ?_⟩
  split
  · rename_i same
    exact ⟨(sameId before).symm, .inl ⟨(sameId before).trans same, rfl⟩⟩
  · rename_i different
    exact ⟨rfl, .inr ⟨different, rfl⟩⟩

theorem exists_setRunState {runId owner : Nat}
    {change : ImportRun → ImportRun}
    (sameId : ∀ run, (change run).runId = run.runId)
    (known : ∃ run ∈ store.runs, run.runId = owner) :
    ∃ run ∈ (store.setRunState runId change).runs, run.runId = owner := by
  obtain ⟨run, member, isOwner⟩ := known
  refine ⟨_, List.mem_map_of_mem member, ?_⟩
  split
  · exact (sameId run).trans isOwner
  · exact isOwner

theorem Owned.start (owned : store.Owned) {runId : Nat} {username : String}
    (fresh : ∀ run ∈ store.runs, run.runId ≠ runId) :
    Owned
      { store with
        runs := store.runs ++ [⟨runId, username, .running, .zero⟩],
        importing := some ⟨runId, username, .zero⟩ } := by
  refine ⟨owned.distinct, owned.scrobbleFresh, ?_, owned.factFresh,
    owned.promotionFresh, ?_, ?_⟩
  · intro owner member
    obtain ⟨run, inRuns, isOwner⟩ := owned.ownerKnown owner member
    exact ⟨run, List.mem_append_left _ inRuns, isOwner⟩
  · intro fact member
    rcases owned.classified fact member with tracked | promoted
    · exact .inl tracked
    · obtain ⟨id, owner, owns, ofScrobble, byOwner, notUndone⟩ := promoted
      refine .inr ⟨id, owner, owns, ofScrobble, byOwner, ?_⟩
      intro run inRuns isOwner
      rcases List.mem_append.mp inRuns with old | new
      · exact notUndone run old isOwner
      · cases List.mem_singleton.mp new
        simp
  · intro active running
    cases running
    refine ⟨⟨_, List.mem_append_right _ (List.mem_singleton_self _), rfl⟩, ?_⟩
    intro run inRuns isRun
    rcases List.mem_append.mp inRuns with old | new
    · exact absurd isRun (fresh run old)
    · cases List.mem_singleton.mp new
      simp

theorem Owned.abort (owned : store.Owned) :
    Owned { store with importing := none } :=
  owned.of_eq rfl rfl rfl rfl rfl fun _ running => nomatch running

/-- A run that ends is not undone by that. -/
theorem Owned.finish (owned : store.Owned) {runId : Nat}
    {change : ImportRun → ImportRun}
    (sameId : ∀ run, (change run).runId = run.runId)
    (notUndone : ∀ run, (change run).state ≠ .undone) :
    Owned { store.setRunState runId change with importing := none } := by
  refine ⟨owned.distinct, owned.scrobbleFresh, ?_, owned.factFresh,
    owned.promotionFresh, ?_, fun _ running => nomatch running⟩
  · intro owner member
    exact exists_setRunState sameId (owned.ownerKnown owner member)
  · intro fact member
    rcases owned.classified fact member with tracked | promoted
    · exact .inl tracked
    · obtain ⟨id, owner, owns, ofScrobble, byOwner, stillThere⟩ := promoted
      refine .inr ⟨id, owner, owns, ofScrobble, byOwner, ?_⟩
      intro run inRuns isOwner
      obtain ⟨before, inBefore, same, changed | unchanged⟩ :=
        mem_setRunState sameId inRuns
      · rw [changed.2]
        exact notUndone before
      · rw [unchanged.2]
        exact stillThere before inBefore (same.trans isOwner)

/-- Undoing a run leaves no fact that the run promoted. -/
theorem Owned.undo (owned : store.Owned) (idle : store.importing = none)
    (runId : Nat) : (store.undoImportRun runId).Owned := by
  have sameId : ∀ run : ImportRun,
      ({ run with state := .undone } : ImportRun).runId = run.runId :=
    fun _ => rfl
  refine ⟨owned.distinct, owned.scrobbleFresh, ?_, ?_, owned.promotionFresh, ?_,
    ?_⟩
  · intro owner member
    exact exists_setRunState sameId (owned.ownerKnown owner member)
  · intro fact member
    exact owned.factFresh fact (List.mem_filter.mp member).1
  · intro fact member
    obtain ⟨present, notOfRun⟩ := List.mem_filter.mp member
    rcases owned.classified fact present with tracked | promoted
    · exact .inl tracked
    · obtain ⟨id, owner, owns, ofScrobble, byOwner, notUndone⟩ := promoted
      have otherRun : owner ≠ runId := by
        rintro rfl
        rw [decide_eq_true_eq] at notOfRun
        exact notOfRun ⟨id, mem_scrobblesOf.mpr owns, ofScrobble⟩
      refine .inr ⟨id, owner, owns, ofScrobble, byOwner, ?_⟩
      intro run inRuns isOwner
      obtain ⟨before, inBefore, same, changed | unchanged⟩ :=
        mem_setRunState sameId inRuns
      · exact absurd (isOwner.symm.trans changed.1) otherRun
      · rw [unchanged.2]
        exact notUndone before inBefore (same.trans isOwner)
  · intro active running
    change store.importing = some active at running
    rw [idle] at running
    cases running

theorem step_owned {next : ImportStore} {action : ImportAction}
    (owned : store.Owned) (own : store.PromotesOwn sha256Hex action)
    (steps : step sha256Hex store action = some next) : next.Owned := by
  cases action with
  | track fact =>
    simp only [step] at steps
    split at steps
    · rename_i tracked
      cases steps
      exact owned.track tracked.1 tracked.2
    · cases steps
  | start runId username =>
    simp only [step] at steps
    split at steps
    · rename_i fresh
      cases steps
      exact owned.start fresh.2
    · cases steps
  | scrobble scrobble resolution nowMs =>
    obtain ⟨active, running, rfl⟩ := Option.map_eq_some_iff.mp steps
    exact owned.importScrobble running own
  | finish state fetched =>
    simp only [step] at steps
    split at steps
    · cases steps
    · split at steps
      · rename_i ended
        cases steps
        apply owned.finish
        · exact fun _ => rfl
        · rintro _ undone
          rcases ended with completed | failed
          · exact absurd (completed.symm.trans undone) (by decide)
          · exact absurd (failed.symm.trans undone) (by decide)
      · cases steps
  | abort =>
    cases steps
    exact owned.abort
  | undo runId =>
    simp only [step] at steps
    split at steps
    · rename_i idle
      cases steps
      exact owned.undo idle runId
    · cases steps

/-- In every sequence of import runs and undos in which no run promotes a
scrobble stored under another run, undoing a run deletes exactly the facts
promoted while it was importing, and undoing all of them leaves no imported
fact. -/
theorem undo_exact_of_promotes_own (sha256Hex : String → String)
    {actions : List ImportAction} {final : ImportStore}
    (own : (machine sha256Hex).StepsMeet
      (fun store action => store.PromotesOwn sha256Hex action) initial actions)
    (runs : (machine sha256Hex).run initial actions = some final) :
    final.UndoExact := by
  have owned : final.Owned :=
    (machine sha256Hex).run_preserves_of_stepsMeet
      (fun _ _ _ owned own steps => step_owned owned own steps)
      initial_owned own runs
  exact owned.undoExact

instance (action : ImportAction) :
    Decidable (store.PromotesOwn sha256Hex action) := by
  unfold PromotesOwn
  split
  · rename_i scrobble item artistUri albumUri nowMs
    exact inferInstanceAs (Decidable (∀ active ∈ store.importing,
      ∀ row ∈ store.storedScrobble? sha256Hex active.username scrobble,
        row.importRunId = active.runId ∨
          store.listens.promotes row.id item = false))
  · infer_instance

/-- The import of one scrobble of a track that resolves. -/
def importSample (track : String) : ImportAction :=
  .scrobble
    { artist := "Artist", track := track, album := none, artistMbid := none,
      trackMbid := none, albumMbid := none, url := none,
      scrobbledAtMs := 1700000000000 }
    (.track { MediaItem.stub ("spotify:track:" ++ track) with
      durationMs := 240000 } none none)
    1700000000000

/-- A run that imports scrobbles of some tracks. -/
def sampleRun (runId : Nat) (tracks : List String) : List ImportAction :=
  .start runId "listener" :: tracks.map importSample ++
    [.finish .completed tracks.length]

theorem undo_exact_overlapping_runs :
    ∃ final, (machine id).run initial
        (sampleRun 1 ["a", "b"] ++ sampleRun 2 ["b", "c"] ++ [.undo 1]) =
          some final ∧
      final.promotions = [⟨1, 1⟩, ⟨1, 2⟩, ⟨2, 3⟩] ∧
      final.listens.facts.map StoredListenFact.id = [3] ∧
      final.UndoExact := by
  have ends : ((machine id).run initial
      (sampleRun 1 ["a", "b"] ++ sampleRun 2 ["b", "c"] ++ [.undo 1])).map
        (fun final => (final.promotions,
          final.listens.facts.map StoredListenFact.id)) =
      some ([⟨1, 1⟩, ⟨1, 2⟩, ⟨2, 3⟩], [3]) := by
    decide +kernel
  obtain ⟨final, runs, observed⟩ := Option.map_eq_some_iff.mp ends
  obtain ⟨promotions, facts⟩ := Prod.mk.inj observed
  have own : (machine id).StepsMeet
      (fun store action => store.PromotesOwn id action) initial
      (sampleRun 1 ["a", "b"] ++ sampleRun 2 ["b", "c"] ++ [.undo 1]) := by
    decide +kernel
  exact ⟨final, runs, promotions, facts,
    undo_exact_of_promotes_own id own runs⟩

/-- A scrobble is imported, undone, and imported again by another run: undoing
that run deletes nothing, though every run is undone then. -/
theorem undo_keeps_reimported :
    ∃ final, (machine id).run initial
        (sampleRun 1 ["a"] ++ [.undo 1] ++ sampleRun 2 ["a"] ++ [.undo 2]) =
          some final ∧
      final.promotions = [⟨1, 1⟩, ⟨2, 2⟩] ∧
      final.runs.map ImportRun.state = [.undone, .undone] ∧
      final.listens.facts.map StoredListenFact.id = [2] ∧
      ¬final.UndoExact := by
  have ends : ((machine id).run initial
      (sampleRun 1 ["a"] ++ [.undo 1] ++ sampleRun 2 ["a"] ++ [.undo 2])).map
        (fun final => (final.promotions, final.runs.map ImportRun.state,
          final.listens.facts.map StoredListenFact.id,
          (final.undoImportRun 2).listens.facts.map StoredListenFact.id)) =
      some ([⟨1, 1⟩, ⟨2, 2⟩], [.undone, .undone], [2], [2]) := by
    decide +kernel
  obtain ⟨final, runs, observed⟩ := Option.map_eq_some_iff.mp ends
  obtain ⟨promotions, observed⟩ := Prod.mk.inj observed
  obtain ⟨states, observed⟩ := Prod.mk.inj observed
  obtain ⟨facts, undone⟩ := Prod.mk.inj observed
  refine ⟨final, runs, promotions, states, facts, ?_⟩
  intro isExact
  -- The fact that undoing the second run leaves is one it promoted.
  have left : (2 : Nat) ∈ (final.undoImportRun 2).listens.facts.map
      StoredListenFact.id := by
    rw [undone]
    exact List.mem_singleton_self 2
  rw [isExact.deletesOwn 2] at left
  obtain ⟨fact, member, isSecond⟩ := List.mem_map.mp left
  have kept := (List.mem_filter.mp member).2
  rw [decide_eq_true_eq, isSecond, promotions] at kept
  exact kept (by decide)

end ImportStore

end Spotuify
