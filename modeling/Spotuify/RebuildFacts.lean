import Spotuify.DerivationRebuild
import Mathlib.Algebra.Order.BigOperators.Group.List

/-!
# When a rebuild is sound

The two halves of the facts after a rebuild are the tracked ones that start
before the cutoff and the derived ones of the listens that end at or after it.
Each part of soundness is traced to the listens it asks something of.
-/

namespace Spotuify

theorem qualifiedTotal_eq_zero {group : List ListenFactRow} :
    (totalsOf group).1 = 0 ↔ ∀ fact ∈ group, fact.qualified = false := by
  induction group with
  | nil => simp
  | cons fact group inductionHypothesis =>
    have split : (totalsOf (fact :: group)).1 =
        (if fact.qualified then 1 else 0) + (totalsOf group).1 := rfl
    rw [split, List.forall_mem_cons, ← inductionHypothesis]
    cases fact.qualified <;> simp

theorem skipTotal_eq_zero {group : List ListenFactRow} :
    (totalsOf group).2.1 = 0 ↔ ∀ fact ∈ group, fact.qualified = true := by
  induction group with
  | nil => simp
  | cons fact group inductionHypothesis =>
    have split : (totalsOf (fact :: group)).2.1 =
        (if fact.qualified then 0 else 1) + (totalsOf group).2.1 := rfl
    rw [split, List.forall_mem_cons, ← inductionHypothesis]
    cases fact.qualified <;> simp

theorem audibleTotal_nonneg {group : List ListenFactRow}
    (nonneg : ∀ fact ∈ group, 0 ≤ fact.audibleMs) :
    0 ≤ (totalsOf group).2.2 := by
  rw [totalsOf_eq]
  apply List.sum_nonneg
  simpa using nonneg

theorem audibleTotal_eq_zero {group : List ListenFactRow}
    (nonneg : ∀ fact ∈ group, 0 ≤ fact.audibleMs) :
    (totalsOf group).2.2 = 0 ↔ ∀ fact ∈ group, fact.audibleMs = 0 := by
  induction group with
  | nil => simp
  | cons fact group inductionHypothesis =>
    obtain ⟨first, rest⟩ := List.forall_mem_cons.mp nonneg
    have restNonneg := audibleTotal_nonneg rest
    have split : (totalsOf (fact :: group)).2.2 =
        fact.audibleMs + (totalsOf group).2.2 := rfl
    rw [split, List.forall_mem_cons, ← inductionHypothesis rest]
    omega

theorem storedTotals_zeroed (stored : Option MetricRow) :
    storedTotals (stored.map MetricRow.zeroed) =
      (0, (storedTotals stored).2.1, 0) := by
  cases stored <;> rfl

namespace ListenLog

variable (log : ListenLog)

theorem mem_rows {fact : ListenFactRow} :
    fact ∈ log.rows ↔ ∃ listen ∈ log.listens, listen.row = fact :=
  List.mem_map

theorem store_rows : log.store.rows = log.rows :=
  ListenStore.empty.recordListens_rows log.rows

/-- The tracked facts that a rebuild leaves. -/
def olderRows (cutoff : Int) : List ListenFactRow :=
  log.rows.filter fun fact => fact.startedAtMs < cutoff

/-- The tracked facts of the listens that a rebuild does not derive again. -/
def earlyRows (cutoff : Int) : List ListenFactRow :=
  log.rows.filter fun fact => fact.endedAtMs < cutoff

/-- The tracked facts of the listens that a rebuild derives again. -/
def lateRows (cutoff : Int) : List ListenFactRow :=
  log.rows.filter fun fact => !decide (fact.endedAtMs < cutoff)

theorem mem_earlyRows {cutoff : Int} {fact : ListenFactRow} :
    fact ∈ log.earlyRows cutoff ↔
      ∃ listen ∈ log.listens, listen.row.endedAtMs < cutoff ∧
        listen.row = fact := by
  rw [earlyRows, List.mem_filter, mem_rows, decide_eq_true_eq]
  constructor
  · rintro ⟨⟨listen, member, rfl⟩, ends⟩
    exact ⟨listen, member, ends, rfl⟩
  · rintro ⟨listen, member, ends, rfl⟩
    exact ⟨⟨listen, member, rfl⟩, ends⟩

theorem mem_lateRows {cutoff : Int} {fact : ListenFactRow} :
    fact ∈ log.lateRows cutoff ↔
      ∃ listen ∈ log.listens, cutoff ≤ listen.row.endedAtMs ∧
        listen.row = fact := by
  rw [lateRows, List.mem_filter, mem_rows, Bool.not_eq_true',
    decide_eq_false_iff_not, not_lt]
  constructor
  · rintro ⟨⟨listen, member, rfl⟩, ends⟩
    exact ⟨listen, member, ends, rfl⟩
  · rintro ⟨listen, member, ends, rfl⟩
    exact ⟨⟨listen, member, rfl⟩, ends⟩

theorem rebuilt_rows (sinceMs : Option Int) :
    (log.rebuilt sinceMs).rows = log.olderRows (sinceMs.getD 0) ++
      ListenStore.derivedRows (sinceMs.getD 0) log.events := by
  rw [rebuilt, ListenStore.rebuildDerivations_rows, store_rows]
  rfl

theorem mem_derivedRows {cutoff : Int} {fact : ListenFactRow} :
    fact ∈ ListenStore.derivedRows cutoff log.events ↔
      ∃ listen ∈ log.listens, cutoff ≤ listen.row.endedAtMs ∧
        listen.derived = fact := by
  rw [(log.derivedRows_perm cutoff).mem_iff]
  simp [and_assoc]

/-- The second rebuild derives the same facts again, and leaves those of the
first that start before the cutoff. -/
theorem sameFacts_iff (sinceMs : Option Int) :
    (log.rebuiltTwice sinceMs).rows = (log.rebuilt sinceMs).rows ↔
      ∀ listen ∈ log.listens, sinceMs.getD 0 ≤ listen.row.endedAtMs →
        sinceMs.getD 0 ≤ listen.row.startedAtMs := by
  have older : (log.olderRows (sinceMs.getD 0)).filter
      (fun fact => fact.startedAtMs < sinceMs.getD 0) =
        log.olderRows (sinceMs.getD 0) := by
    rw [olderRows, List.filter_filter]
    simp
  rw [rebuiltTwice, ListenStore.rebuildDerivations_rows, rebuilt_rows,
    List.filter_append, older, List.append_assoc, List.append_cancel_left_eq,
    List.append_left_eq_self, List.filter_eq_nil_iff]
  constructor
  · intro noneOlder listen member ends
    have late := noneOlder listen.derived
      (log.mem_derivedRows.mpr ⟨listen, member, ends, rfl⟩)
    rw [decide_eq_true_eq, listen.derived_startedAtMs] at late
    omega
  · intro kept fact member
    obtain ⟨listen, tracked, ends, rfl⟩ := log.mem_derivedRows.mp member
    have starts := kept listen tracked ends
    rw [decide_eq_true_eq, listen.derived_startedAtMs]
    omega

/-- The facts of a track that end at a time, on each side of the rebuild. -/
theorem countP_rebuilt (sinceMs : Option Int) (trackUri : String)
    (endedAtMs : Int) :
    ((log.rebuilt sinceMs).rows.countP fun fact =>
        fact.trackUri = trackUri ∧ fact.endedAtMs = endedAtMs) =
      (log.listens.countP fun listen =>
        (listen.row.trackUri = trackUri ∧ listen.row.endedAtMs = endedAtMs) ∧
          listen.row.startedAtMs < sinceMs.getD 0) +
      log.listens.countP fun listen =>
        (listen.row.trackUri = trackUri ∧ listen.row.endedAtMs = endedAtMs) ∧
          sinceMs.getD 0 ≤ listen.row.endedAtMs := by
  rw [rebuilt_rows, List.countP_append, (log.derivedRows_perm _).countP_eq,
    olderRows, rows, List.countP_filter, List.countP_map, List.countP_map,
    List.countP_filter]
  congr 1
  · apply List.countP_congr
    intro listen _
    simp only [Function.comp_apply, decide_eq_true_eq, Bool.and_eq_true]
  · apply List.countP_congr
    intro listen _
    simp only [Function.comp_apply, decide_eq_true_eq, Bool.and_eq_true]
    rfl

theorem countP_events (trackUri : String) (endedAtMs : Int) :
    (log.events.countP fun event =>
        event.kind = .playbackCompleted ∧ event.subjectUri = some trackUri ∧
          event.occurredAtMs = endedAtMs) =
      log.listens.countP fun listen =>
        listen.row.trackUri = trackUri ∧ listen.row.endedAtMs = endedAtMs := by
  have completed : (log.events.countP fun event =>
      event.kind = .playbackCompleted ∧ event.subjectUri = some trackUri ∧
        event.occurredAtMs = endedAtMs) =
      (log.events.filter fun event =>
        event.kind = .playbackCompleted).countP fun event =>
          event.subjectUri = some trackUri ∧
            event.occurredAtMs = endedAtMs := by
    rw [List.countP_filter]
    apply List.countP_congr
    intro event _
    simp [and_comm, and_left_comm]
  rw [completed, log.logged.countP_eq, List.countP_map]
  apply List.countP_congr
  intro listen _
  simp only [Function.comp_apply, decide_eq_true_eq,
    TrackedListen.completedEvent, playbackCompletedEvent, Option.some.injEq]

theorem countP_and_eq_countP {Value : Type} {values : List Value}
    {first second : Value → Prop} [DecidablePred first]
    [DecidablePred second] :
    (values.countP fun value => first value ∧ second value) =
        (values.countP fun value => first value) ↔
      ∀ value ∈ values, first value → second value := by
  have both : (values.countP fun value => first value ∧ second value) =
      (values.filter fun value => first value).countP
        fun value => second value := by
    rw [List.countP_filter]
    apply List.countP_congr
    intro value _
    simp [and_comm]
  have all : (values.countP fun value => first value) =
      (values.filter fun value => first value).length :=
    List.countP_eq_length_filter
  rw [both, all, List.countP_eq_length]
  simp

/-- A track's listens that end at a time have one fact each when they all
start on the side of the cutoff they end on. -/
theorem oneFactEach_at_iff (sinceMs : Option Int) (trackUri : String)
    (endedAtMs : Int) :
    ((log.rebuilt sinceMs).rows.countP fun fact =>
        fact.trackUri = trackUri ∧ fact.endedAtMs = endedAtMs) =
      (log.events.countP fun event =>
        event.kind = .playbackCompleted ∧ event.subjectUri = some trackUri ∧
          event.occurredAtMs = endedAtMs) ↔
      ∀ listen ∈ log.listens,
        listen.row.trackUri = trackUri ∧ listen.row.endedAtMs = endedAtMs →
          (listen.row.startedAtMs < sinceMs.getD 0 ↔
            endedAtMs < sinceMs.getD 0) := by
  rw [countP_rebuilt, countP_events]
  by_cases ends : endedAtMs < sinceMs.getD 0
  · have noneDerived : (log.listens.countP fun listen =>
        (listen.row.trackUri = trackUri ∧ listen.row.endedAtMs = endedAtMs) ∧
          sinceMs.getD 0 ≤ listen.row.endedAtMs) = 0 := by
      rw [List.countP_eq_zero]
      intro listen _
      rw [decide_eq_true_eq]
      omega
    rw [noneDerived, Nat.add_zero, countP_and_eq_countP]
    simp only [ends, iff_true]
  · have allDerived : (log.listens.countP fun listen =>
        (listen.row.trackUri = trackUri ∧ listen.row.endedAtMs = endedAtMs) ∧
          sinceMs.getD 0 ≤ listen.row.endedAtMs) =
        log.listens.countP fun listen =>
          listen.row.trackUri = trackUri ∧ listen.row.endedAtMs = endedAtMs := by
      rw [countP_and_eq_countP]
      intro listen _ same
      omega
    rw [allDerived, Nat.add_eq_right, List.countP_eq_zero]
    simp only [ends, iff_false, decide_eq_true_eq, not_and]

/-- A listen has one fact when it starts and ends on the same side of the
cutoff. -/
theorem oneFactEach_iff (sinceMs : Option Int) :
    (∀ trackUri endedAtMs,
      ((log.rebuilt sinceMs).rows.countP fun fact =>
        fact.trackUri = trackUri ∧ fact.endedAtMs = endedAtMs) =
      log.events.countP fun event =>
        event.kind = .playbackCompleted ∧ event.subjectUri = some trackUri ∧
          event.occurredAtMs = endedAtMs) ↔
      ∀ listen ∈ log.listens,
        (listen.row.startedAtMs < sinceMs.getD 0 ↔
          listen.row.endedAtMs < sinceMs.getD 0) := by
  simp only [log.oneFactEach_at_iff sinceMs]
  constructor
  · intro sameSide listen member
    exact sameSide _ _ listen member ⟨rfl, rfl⟩
  · rintro sameSide _ _ listen member ⟨rfl, rfl⟩
    exact sameSide listen member

theorem storedTotals_store (key : MetricKey) :
    storedTotals (log.store.metrics key) = totalsOf (factsOf key log.rows) := by
  rw [store, ListenStore.recordListens_empty_metrics, storedTotals_foldl_put]
  exact zero_add _

theorem storedTotals_rebuilt (sinceMs : Option Int) (key : MetricKey) :
    storedTotals ((log.rebuilt sinceMs).metrics key) =
      (0, (totalsOf (factsOf key log.rows)).2.1, 0) +
        totalsOf (factsOf key
          (ListenStore.derivedRows (sinceMs.getD 0) log.events)) := by
  rw [rebuilt, ListenStore.rebuildDerivations_metrics, storedTotals_foldl_put,
    storedTotals_zeroed, storedTotals_store]

theorem factsOf_append (key : MetricKey) (first second : List ListenFactRow) :
    factsOf key (first ++ second) = factsOf key first ++ factsOf key second :=
  List.filter_append ..

theorem totalsOf_rows (cutoff : Int) (key : MetricKey) :
    totalsOf (factsOf key log.rows) =
      totalsOf (factsOf key (log.earlyRows cutoff)) +
        totalsOf (factsOf key (log.lateRows cutoff)) := by
  have split : (log.earlyRows cutoff ++ log.lateRows cutoff).Perm log.rows :=
    List.filter_append_perm _ _
  rw [← totalsOf_append, ← factsOf_append]
  exact (totalsOf_perm (factsOf_perm key split)).symm

/-- The rollup of a track is filled again from the listens that are derived
again. -/
theorem totalsOf_derived_track (cutoff : Int) (trackUri : String) :
    totalsOf (factsOf (.track, trackUri)
        (ListenStore.derivedRows cutoff log.events)) =
      totalsOf (factsOf (.track, trackUri) (log.lateRows cutoff)) := by
  rw [totalsOf_perm (factsOf_perm _ (log.derivedRows_perm cutoff)), lateRows,
    rows]
  induction log.listens with
  | nil => rfl
  | cons listen listens inductionHypothesis =>
    rw [List.map_cons, List.filter_cons, List.filter_cons]
    by_cases ends : cutoff ≤ listen.row.endedAtMs
    · have notBefore : ¬listen.row.endedAtMs < cutoff := by omega
      simp only [ends, notBefore, decide_true, decide_false, Bool.not_false,
        if_true, List.map_cons]
      rw [factsOf, factsOf, List.filter_cons, List.filter_cons]
      by_cases same : listen.row.trackUri = trackUri
      · have derivedSame : listen.derived.entityUri .track =
            some trackUri := congrArg some same
        have rowSame : listen.row.entityUri .track = some trackUri :=
          congrArg some same
        simp only [derivedSame, rowSame, decide_true, if_true]
        rw [totalsOf_cons, totalsOf_cons]
        exact congrArg₂ _ rfl inductionHypothesis
      · have derivedOther : listen.derived.entityUri .track ≠
            some trackUri := fun shared => same (Option.some.inj shared)
        have rowOther : listen.row.entityUri .track ≠ some trackUri :=
          fun shared => same (Option.some.inj shared)
        simp only [derivedOther, rowOther, decide_false, Bool.false_eq_true,
          if_false]
        exact inductionHypothesis
    · have before : listen.row.endedAtMs < cutoff := by omega
      simp only [ends, before, decide_true, decide_false, Bool.not_true,
        Bool.false_eq_true, if_false]
      exact inductionHypothesis

/-- The rollups of artists and albums are not filled again. -/
theorem factsOf_derived_of_not_track {table : MetricTable}
    (notTrack : table ≠ .track) (cutoff : Int) (uri : String) :
    factsOf (table, uri) (ListenStore.derivedRows cutoff log.events) = [] := by
  rw [factsOf, List.filter_eq_nil_iff]
  intro fact member
  obtain ⟨listen, _, _, rfl⟩ := log.mem_derivedRows.mp member
  cases table with
  | track => exact absurd rfl notTrack
  | artist => exact of_decide_eq_false rfl
  | album => exact of_decide_eq_false rfl

theorem audible_nonneg_of_rows (key : MetricKey) {facts : List ListenFactRow}
    (ofLog : ∀ fact ∈ facts, fact ∈ log.rows) :
    ∀ fact ∈ factsOf key facts, 0 ≤ fact.audibleMs := by
  intro fact member
  obtain ⟨listen, _, rfl⟩ :=
    log.mem_rows.mp (ofLog fact (List.mem_filter.mp member).1)
  exact listen.audible_nonneg

/-- The rollup of a track accounts for its listens when those before the cutoff
have nothing in the zeroed columns and those at or after it nothing in the
kept one. -/
theorem accounted_track_iff (sinceMs : Option Int) (trackUri : String) :
    storedTotals ((log.rebuilt sinceMs).metrics (.track, trackUri)) =
        totalsOf (factsOf (.track, trackUri) log.rows) ↔
      (∀ fact ∈ factsOf (.track, trackUri)
          (log.earlyRows (sinceMs.getD 0)),
        fact.qualified = false ∧ fact.audibleMs = 0) ∧
      ∀ fact ∈ factsOf (.track, trackUri) (log.lateRows (sinceMs.getD 0)),
        fact.qualified = true := by
  have nonneg : ∀ fact ∈ factsOf (.track, trackUri)
      (log.earlyRows (sinceMs.getD 0)), 0 ≤ fact.audibleMs :=
    log.audible_nonneg_of_rows _ fun _ member => (List.mem_filter.mp member).1
  rw [storedTotals_rebuilt, totalsOf_derived_track,
    log.totalsOf_rows (sinceMs.getD 0), add_left_inj, forall₂_and,
    ← qualifiedTotal_eq_zero, ← audibleTotal_eq_zero nonneg,
    ← skipTotal_eq_zero, Prod.ext_iff, Prod.ext_iff]
  dsimp only [Prod.fst_add, Prod.snd_add]
  omega

/-- The rollup of an artist or an album accounts for its listens when they have
nothing in the zeroed columns. -/
theorem accounted_entity_iff {table : MetricTable} (notTrack : table ≠ .track)
    (sinceMs : Option Int) (uri : String) :
    storedTotals ((log.rebuilt sinceMs).metrics (table, uri)) =
        totalsOf (factsOf (table, uri) log.rows) ↔
      ∀ fact ∈ factsOf (table, uri) log.rows,
        fact.qualified = false ∧ fact.audibleMs = 0 := by
  have nonneg : ∀ fact ∈ factsOf (table, uri) log.rows, 0 ≤ fact.audibleMs :=
    log.audible_nonneg_of_rows _ fun _ member => member
  rw [storedTotals_rebuilt, log.factsOf_derived_of_not_track notTrack,
    totalsOf_nil, add_zero, forall₂_and, ← qualifiedTotal_eq_zero,
    ← audibleTotal_eq_zero nonneg, Prod.ext_iff, Prod.ext_iff]
  dsimp only
  omega

end ListenLog

theorem foldl_max_bounds (first : Int) (times : List Int) :
    first ≤ times.foldl max first ∧
      ∀ time ∈ times, time ≤ times.foldl max first := by
  have greatest : (first :: times).max? = some (times.foldl max first) :=
    List.max?_cons'
  rw [List.max?_eq_some_iff] at greatest
  exact List.forall_mem_cons.mp greatest.2

/-- The rollup row of an entity is not listened to later than it says. -/
def LastCovers (stored : Option MetricRow) (group : List ListenFactRow) :
    Prop :=
  ∀ row, stored = some row → ∃ last, row.lastListenedAtMs = some last ∧
    ∀ fact ∈ group, fact.endedAtMs ≤ last

theorem LastCovers.foldl_put {stored : Option MetricRow}
    (covers : LastCovers stored []) (group : List ListenFactRow) :
    LastCovers ((group.map ListenFactRow.finalized).foldl
      upsertEntityMetric.put stored) group := by
  intro row left
  cases stored with
  | some before =>
    obtain ⟨last, known, _⟩ := covers before rfl
    rw [upsertEntityMetric.foldl_put_some] at left
    cases left
    refine ⟨_, foldl_update_last group before known, ?_⟩
    intro fact member
    exact (foldl_max_bounds last _).2 _ (List.mem_map_of_mem member)
  | none =>
    cases group with
    | nil => cases left
    | cons fact group =>
      obtain ⟨recorded, recordedEq, -, last, -⟩ := foldl_put_cons fact group
      rw [recordedEq] at left
      cases left
      refine ⟨_, last, ?_⟩
      have bounds := foldl_max_bounds fact.endedAtMs
        (group.map ListenFactRow.endedAtMs)
      rw [List.forall_mem_cons]
      exact ⟨bounds.1, fun other member =>
        bounds.2 _ (List.mem_map_of_mem member)⟩

theorem foldl_max_eq_self {first : Int} {times : List Int}
    (covered : ∀ time ∈ times, time ≤ first) :
    times.foldl max first = first := by
  induction times with
  | nil => rfl
  | cons time times inductionHypothesis =>
    obtain ⟨head, rest⟩ := List.forall_mem_cons.mp covered
    rw [List.foldl_cons, max_eq_left head]
    exact inductionHypothesis rest

/-- Zeroing a rollup and putting the same listens into it again changes
nothing, when none of them is a skip. -/
theorem foldl_put_zeroed_again {stored : Option MetricRow}
    (covers : LastCovers stored []) {group : List ListenFactRow}
    (noSkip : ∀ fact ∈ group, fact.qualified = true) :
    (group.map ListenFactRow.finalized).foldl upsertEntityMetric.put
        (((group.map ListenFactRow.finalized).foldl upsertEntityMetric.put
          (stored.map MetricRow.zeroed)).map MetricRow.zeroed) =
      (group.map ListenFactRow.finalized).foldl upsertEntityMetric.put
        (stored.map MetricRow.zeroed) := by
  have zeroedCovers : LastCovers (stored.map MetricRow.zeroed) [] := by
    intro row zeroed
    obtain ⟨before, found, rfl⟩ := Option.map_eq_some_iff.mp zeroed
    exact covers before found
  have onceCovers := zeroedCovers.foldl_put group
  have onceTotals := storedTotals_foldl_put (stored.map MetricRow.zeroed) group
  rw [storedTotals_zeroed] at onceTotals
  cases once : (group.map ListenFactRow.finalized).foldl
      upsertEntityMetric.put (stored.map MetricRow.zeroed) with
  | none =>
    -- Nothing was put, and nothing is put again.
    cases group with
    | nil => rfl
    | cons fact group =>
      cases stored with
      | none =>
        rw [Option.map_none, List.map_cons,
          upsertEntityMetric.foldl_put_none] at once
        cases once
      | some row =>
        rw [Option.map_some, upsertEntityMetric.foldl_put_some] at once
        cases once
  | some row =>
    rw [once] at onceCovers onceTotals
    obtain ⟨last, known, covered⟩ := onceCovers row rfl
    have again := storedTotals_foldl_put (some row.zeroed) group
    rw [upsertEntityMetric.foldl_put_some] at again
    rw [Option.map_some, upsertEntityMetric.foldl_put_some]
    congr 1
    apply MetricRow.eq_of_totals
    · have skips : row.totals.2.1 = (storedTotals stored).2.1 := by
        have skipTotals := congrArg (fun totals => totals.2.1) onceTotals
        have none := skipTotal_eq_zero.mpr noSkip
        change row.totals.2.1 = (storedTotals stored).2.1 + _ at skipTotals
        omega
      change _ = (0, row.totals.2.1, 0) + totalsOf group at again
      rw [skips] at again
      exact again.trans onceTotals.symm
    · rw [known, foldl_update_last group row.zeroed known, foldl_max_eq_self]
      intro time member
      obtain ⟨fact, inGroup, rfl⟩ := List.mem_map.mp member
      exact covered fact inGroup
    · exact foldl_update_first group row.zeroed

namespace ListenLog

variable (log : ListenLog)

theorem lastCovers_store (key : MetricKey) :
    LastCovers (log.store.metrics key) [] := by
  have nothing : LastCovers none [] := fun _ found => nomatch found
  intro row found
  rw [store, ListenStore.recordListens_empty_metrics] at found
  obtain ⟨last, known, _⟩ := nothing.foldl_put _ row found
  exact ⟨last, known, fun _ member => nomatch member⟩

theorem sameMetrics_of_noSkip (sinceMs : Option Int)
    (noSkip : ∀ listen ∈ log.listens,
      sinceMs.getD 0 ≤ listen.row.endedAtMs → listen.row.qualified = true) :
    (log.rebuiltTwice sinceMs).metrics = (log.rebuilt sinceMs).metrics := by
  funext key
  rw [rebuiltTwice, ListenStore.rebuildDerivations_metrics, rebuilt,
    ListenStore.rebuildDerivations_metrics]
  apply foldl_put_zeroed_again (log.lastCovers_store key)
  intro fact member
  obtain ⟨listen, tracked, ends, rfl⟩ :=
    log.mem_derivedRows.mp (List.mem_filter.mp member).1
  exact noSkip listen tracked ends

theorem accounted_iff (sinceMs : Option Int) :
    (∀ key, storedTotals ((log.rebuilt sinceMs).metrics key) =
        totalsOf (factsOf key log.rows)) ↔
      ∀ listen ∈ log.listens,
        (listen.row.endedAtMs < sinceMs.getD 0 →
          listen.row.qualified = false ∧ listen.row.audibleMs = 0) ∧
        (sinceMs.getD 0 ≤ listen.row.endedAtMs →
          listen.row.qualified = true ∧ listen.row.artistUri = none ∧
            listen.row.albumUri = none) := by
  constructor
  · intro accounted listen member
    obtain ⟨early, late⟩ := (log.accounted_track_iff sinceMs _).mp
      (accounted (.track, listen.row.trackUri))
    -- A qualified listen counts in no rollup that is not filled again.
    have noEntity : ∀ table ≠ MetricTable.track,
        listen.row.qualified = true → listen.row.entityUri table = none := by
      intro table notTrack qualified
      by_contra known
      obtain ⟨uri, entity⟩ := Option.ne_none_iff_exists'.mp known
      have unqualified := ((log.accounted_entity_iff notTrack sinceMs
        uri).mp (accounted (table, uri)) listen.row (List.mem_filter.mpr
          ⟨log.mem_rows.mpr ⟨listen, member, rfl⟩,
            by simpa using entity⟩)).1
      rw [qualified] at unqualified
      cases unqualified
    constructor
    · intro ends
      exact early listen.row (List.mem_filter.mpr
        ⟨log.mem_earlyRows.mpr ⟨listen, member, ends, rfl⟩,
          decide_eq_true rfl⟩)
    · intro ends
      have qualified := late listen.row (List.mem_filter.mpr
        ⟨log.mem_lateRows.mpr ⟨listen, member, ends, rfl⟩,
          decide_eq_true rfl⟩)
      exact ⟨qualified, noEntity .artist nofun qualified,
        noEntity .album nofun qualified⟩
  · rintro kept ⟨table, uri⟩
    by_cases isTrack : table = .track
    · subst isTrack
      rw [log.accounted_track_iff]
      constructor
      · intro fact member
        obtain ⟨listen, tracked, ends, rfl⟩ :=
          log.mem_earlyRows.mp (List.mem_filter.mp member).1
        exact (kept listen tracked).1 ends
      · intro fact member
        obtain ⟨listen, tracked, ends, rfl⟩ :=
          log.mem_lateRows.mp (List.mem_filter.mp member).1
        exact ((kept listen tracked).2 ends).1
    · rw [log.accounted_entity_iff isTrack]
      intro fact member
      obtain ⟨inRows, entity⟩ := List.mem_filter.mp member
      obtain ⟨listen, tracked, rfl⟩ := log.mem_rows.mp inRows
      rw [decide_eq_true_eq] at entity
      rcases lt_or_ge listen.row.endedAtMs (sinceMs.getD 0) with early | late
      · exact (kept listen tracked).1 early
      · obtain ⟨-, noArtist, noAlbum⟩ := (kept listen tracked).2 late
        cases table with
        | track => exact absurd rfl isTrack
        | artist => exact absurd (entity.symm.trans noArtist) nofun
        | album => exact absurd (entity.symm.trans noAlbum) nofun

/-- A rebuild is sound when it keeps every listen of the log, and only
then. -/
theorem rebuildSound_iff (log : ListenLog) (sinceMs : Option Int) :
    log.RebuildSound sinceMs ↔
      ∀ listen ∈ log.listens, listen.KeptByRebuild (sinceMs.getD 0) := by
  constructor
  · intro sound listen member
    have sameSide := (log.oneFactEach_iff sinceMs).mp sound.oneFactEach
      listen member
    obtain ⟨early, late⟩ := (log.accounted_iff sinceMs).mp sound.accounted
      listen member
    rcases lt_or_ge listen.row.startedAtMs (sinceMs.getD 0) with older | newer
    · exact .inl ⟨older, sameSide.mp older, early (sameSide.mp older)⟩
    · have ends : sinceMs.getD 0 ≤ listen.row.endedAtMs := by omega
      exact .inr ⟨newer, ends, late ends⟩
  · intro kept
    refine ⟨(log.sameFacts_iff sinceMs).mpr ?_,
      log.sameMetrics_of_noSkip sinceMs ?_,
      (log.oneFactEach_iff sinceMs).mpr ?_,
      (log.accounted_iff sinceMs).mpr ?_⟩
    · intro listen member ends
      rcases kept listen member with older | newer
      · omega
      · exact newer.1
    · intro listen member ends
      rcases kept listen member with older | newer
      · omega
      · exact newer.2.2.1
    · intro listen member
      rcases kept listen member with older | newer <;> omega
    · intro listen member
      rcases kept listen member with older | newer
      · exact ⟨fun _ => older.2.2, fun ends => by omega⟩
      · exact ⟨fun ends => by omega, fun _ => newer.2.2⟩

/-- A whole listen before the cutoff 400000, one across it and a skip after
it. -/
def straddled : ListenLog where
  listens :=
    [⟨ListenStore.sampleListen 1 0, by decide, by decide⟩,
     ⟨ListenStore.sampleListen 2 300000, by decide, by decide⟩,
     ⟨{ ListenStore.sampleListen 3 600000 with
        endedAtMs := 610000, elapsedMs := 10000, audibleMs := 10000,
        qualified := false, skipReason := some .userNext },
      by decide, by decide⟩]
  events :=
    [playbackCompletedEvent "spotify:track:a" 200000 200000 true false 200000,
     playbackCompletedEvent "spotify:track:a" 200000 200000 true false 500000,
     playbackCompletedEvent "spotify:track:a" 10000 10000 false false 610000]
  logged := List.Perm.refl _

/-- The listen across the cutoff gets a second fact and, rebuilt again, a
third one; the skip is counted once more by each rebuild; and the whole listen
before the cutoff is lost from the rollup. -/
theorem rebuild_unsound_straddled :
    let track := (MetricTable.track, "spotify:track:a")
    let found := fun store : ListenStore =>
      (store.rows.map ListenFactRow.startedAtMs,
        storedTotals (store.metrics track))
    found straddled.store = ([0, 300000, 600000], (2, 1, 410000)) ∧
      found (straddled.rebuilt (some 400000)) =
        ([0, 300000, 300000, 600000], (1, 2, 210000)) ∧
      found (straddled.rebuiltTwice (some 400000)) =
        ([0, 300000, 300000, 300000, 600000], (1, 3, 210000)) ∧
      ¬∀ (log : ListenLog) (sinceMs : Option Int), log.RebuildSound sinceMs := by
  refine ⟨by decide +kernel, by decide +kernel, by decide +kernel, ?_⟩
  intro alwaysSound
  have same := (alwaysSound straddled (some 400000)).sameFacts
  have lengths : (straddled.rebuiltTwice (some 400000)).rows.length ≠
      (straddled.rebuilt (some 400000)).rows.length := by
    decide +kernel
  exact lengths (congrArg List.length same)

end ListenLog

end Spotuify
