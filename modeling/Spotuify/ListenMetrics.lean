import Spotuify.ListenStore

/-!
# Incremental rollups against rebuilt ones

The counts and the audible time of the two computations always agree.  Their
times do not: the upsert takes both from the end of a listen and never lowers
the first one, the rebuild takes the extremes of the starts.
-/

namespace Spotuify

/-- The three columns that add up: qualified listens, skips and audible
time. -/
abbrev MetricTotals := Nat × Nat × Int

def FinalizedListen.totals (listen : FinalizedListen) : MetricTotals :=
  (if listen.qualified then 1 else 0, if listen.qualified then 0 else 1,
    listen.audibleMs)

def MetricRow.totals (row : MetricRow) : MetricTotals :=
  (row.qualifiedCount, row.skipCount, row.totalAudibleMs)

theorem MetricRow.eq_of_totals {first second : MetricRow}
    (totals : first.totals = second.totals)
    (last : first.lastListenedAtMs = second.lastListenedAtMs)
    (earliest : first.firstListenedAtMs = second.firstListenedAtMs) :
    first = second := by
  cases first
  cases second
  cases totals
  cases last
  cases earliest
  rfl

/-- The columns of a rollup row that may be missing. -/
def storedTotals (stored : Option MetricRow) : MetricTotals :=
  (stored.map MetricRow.totals).getD 0

/-- What some facts add up to. -/
def totalsOf (facts : List ListenFactRow) : MetricTotals :=
  (facts.map fun fact => fact.finalized.totals).sum

theorem storedTotals_put (stored : Option MetricRow)
    (listen : FinalizedListen) :
    storedTotals (upsertEntityMetric.put stored listen) =
      storedTotals stored + listen.totals := by
  cases stored with
  | none =>
    simp [storedTotals, Upsert.put, upsertEntityMetric, MetricRow.totals,
      FinalizedListen.totals]
  | some row => rfl

theorem storedTotals_foldl_put (stored : Option MetricRow)
    (facts : List ListenFactRow) :
    storedTotals ((facts.map ListenFactRow.finalized).foldl
        upsertEntityMetric.put stored) =
      storedTotals stored + totalsOf facts := by
  rw [upsertEntityMetric.measure_foldl_put storedTotals_put, List.map_map]
  rfl

@[simp]
theorem totalsOf_nil : totalsOf [] = 0 := rfl

theorem totalsOf_cons (fact : ListenFactRow) (facts : List ListenFactRow) :
    totalsOf (fact :: facts) = fact.finalized.totals + totalsOf facts := rfl

theorem totalsOf_append (first second : List ListenFactRow) :
    totalsOf (first ++ second) = totalsOf first + totalsOf second := by
  simp [totalsOf]

theorem totalsOf_perm {first second : List ListenFactRow}
    (perm : first.Perm second) : totalsOf first = totalsOf second :=
  (perm.map _).sum_eq

/-- The sums of the rebuild are the totals of the group. -/
theorem totalsOf_eq (group : List ListenFactRow) :
    totalsOf group =
      ((group.map fun fact => if fact.qualified then 1 else 0).sum,
        (group.map fun fact => if fact.qualified then 0 else 1).sum,
        (group.map ListenFactRow.audibleMs).sum) := by
  induction group with
  | nil => rfl
  | cons fact group inductionHypothesis =>
    rw [totalsOf_cons, inductionHypothesis]
    rfl

theorem metricRebuild_cons (fact : ListenFactRow)
    (group : List ListenFactRow) :
    ∃ row, metricRebuild (fact :: group) = some row ∧
      row.totals = totalsOf (fact :: group) ∧
      row.lastListenedAtMs =
        ((fact :: group).map ListenFactRow.startedAtMs).max? ∧
      row.firstListenedAtMs =
        ((fact :: group).map ListenFactRow.startedAtMs).min? :=
  ⟨_, rfl, (totalsOf_eq _).symm, rfl, rfl⟩

theorem foldl_update_last (group : List ListenFactRow) (row : MetricRow)
    {last : Int} (known : row.lastListenedAtMs = some last) :
    ((group.map ListenFactRow.finalized).foldl upsertEntityMetric.update
        row).lastListenedAtMs =
      some ((group.map ListenFactRow.endedAtMs).foldl max last) := by
  induction group generalizing row last with
  | nil => exact known
  | cons fact group inductionHypothesis =>
    apply inductionHypothesis (upsertEntityMetric.update row fact.finalized)
    simp [upsertEntityMetric, known, sqlMax, ListenFactRow.finalized]

theorem foldl_update_first (group : List ListenFactRow) (row : MetricRow) :
    ((group.map ListenFactRow.finalized).foldl upsertEntityMetric.update
        row).firstListenedAtMs = row.firstListenedAtMs := by
  induction group generalizing row with
  | nil => rfl
  | cons fact group inductionHypothesis =>
    exact inductionHypothesis (upsertEntityMetric.update row fact.finalized)

/-- The row that the upserts of one entity leave. -/
theorem foldl_put_cons (fact : ListenFactRow) (group : List ListenFactRow) :
    ∃ row, ((fact :: group).map ListenFactRow.finalized).foldl
        upsertEntityMetric.put none = some row ∧
      row.totals = totalsOf (fact :: group) ∧
      row.lastListenedAtMs =
        ((fact :: group).map ListenFactRow.endedAtMs).max? ∧
      row.firstListenedAtMs = some fact.endedAtMs := by
  have totals := storedTotals_foldl_put none (fact :: group)
  rw [List.map_cons, upsertEntityMetric.foldl_put_none] at totals
  refine ⟨_, upsertEntityMetric.foldl_put_none _ _, ?_, ?_, ?_⟩
  · rw [show storedTotals none = 0 from rfl, zero_add] at totals
    exact totals
  · rw [List.map_cons, List.max?_cons']
    exact foldl_update_last group _ rfl
  · exact foldl_update_first group _

/-- The last listen ends when the last one starts, and the first recorded
listen ends when the first one starts. -/
def TimesAgree (group : List ListenFactRow) : Prop :=
  (group.map ListenFactRow.endedAtMs).max? =
      (group.map ListenFactRow.startedAtMs).max? ∧
    (group.map ListenFactRow.endedAtMs).head? =
      (group.map ListenFactRow.startedAtMs).min?

/-- Upserting the facts of an entity leaves the rebuilt row when their times
agree, and only then. -/
theorem foldl_put_eq_metricRebuild (group : List ListenFactRow) :
    (group.map ListenFactRow.finalized).foldl upsertEntityMetric.put none =
        metricRebuild group ↔ TimesAgree group := by
  cases group with
  | nil => exact ⟨fun _ => ⟨rfl, rfl⟩, fun _ => rfl⟩
  | cons fact group =>
    obtain ⟨recorded, recordedEq, totals, last, first⟩ :=
      foldl_put_cons fact group
    obtain ⟨rebuilt, rebuiltEq, totals', last', first'⟩ :=
      metricRebuild_cons fact group
    rw [recordedEq, rebuiltEq, TimesAgree, ← last, ← last', ← first']
    constructor
    · intro same
      cases same
      exact ⟨rfl, first.symm⟩
    · rintro ⟨sameLast, sameFirst⟩
      have sameTotals : recorded.totals = rebuilt.totals := by
        rw [totals, totals']
      rw [MetricRow.eq_of_totals sameTotals sameLast (first.trans sameFirst)]

theorem max?_perm {first second : List Int} (perm : first.Perm second) :
    first.max? = second.max? := by
  cases greatest : second.max? with
  | none =>
    rw [List.max?_eq_none_iff] at greatest ⊢
    subst greatest
    exact perm.eq_nil
  | some value =>
    rw [List.max?_eq_some_iff] at greatest ⊢
    exact ⟨perm.mem_iff.mpr greatest.1, fun other member =>
      greatest.2 other (perm.mem_iff.mp member)⟩

theorem min?_perm {first second : List Int} (perm : first.Perm second) :
    first.min? = second.min? := by
  cases least : second.min? with
  | none =>
    rw [List.min?_eq_none_iff] at least ⊢
    subst least
    exact perm.eq_nil
  | some value =>
    rw [List.min?_eq_some_iff] at least ⊢
    exact ⟨perm.mem_iff.mpr least.1, fun other member =>
      least.2 other (perm.mem_iff.mp member)⟩

/-- The rebuild does not depend on the order of the table. -/
theorem metricRebuild_perm {first second : List ListenFactRow}
    (perm : first.Perm second) : metricRebuild first = metricRebuild second := by
  have empties : first = [] ↔ second = [] :=
    ⟨fun empty => (empty ▸ perm).symm.eq_nil, fun empty => (empty ▸ perm).eq_nil⟩
  have starts := perm.map ListenFactRow.startedAtMs
  unfold metricRebuild
  simp only [empties, max?_perm starts, min?_perm starts,
    (perm.map fun fact : ListenFactRow => if fact.qualified then 1 else 0).sum_eq,
    (perm.map fun fact : ListenFactRow => if fact.qualified then 0 else 1).sum_eq,
    (perm.map ListenFactRow.audibleMs).sum_eq]

theorem factsOf_perm {first second : List ListenFactRow} (key : MetricKey)
    (perm : first.Perm second) :
    (factsOf key first).Perm (factsOf key second) :=
  perm.filter _

/-- Every listen of an entity is over in the instant it starts in, the same
for all of them. -/
def SameInstant (group : List ListenFactRow) : Prop :=
  ∃ instant, ∀ fact ∈ group,
    fact.startedAtMs = instant ∧ fact.endedAtMs = instant

theorem TimesAgree.of_sameInstant {group : List ListenFactRow}
    (same : SameInstant group) : TimesAgree group := by
  obtain ⟨instant, times⟩ := same
  have ends : group.map ListenFactRow.endedAtMs =
      group.map ListenFactRow.startedAtMs :=
    List.map_congr_left fun fact member =>
      (times fact member).2.trans (times fact member).1.symm
  refine ⟨by rw [ends], ?_⟩
  rw [ends]
  cases group with
  | nil => rfl
  | cons fact group =>
    symm
    rw [List.map_cons, List.head?_cons, List.min?_eq_some_iff]
    refine ⟨List.mem_cons_self, ?_⟩
    intro start member
    rw [← List.map_cons] at member
    obtain ⟨other, inGroup, rfl⟩ := List.mem_map.mp member
    have first := (times fact List.mem_cons_self).1
    have second := (times other inGroup).1
    omega

/-- When every listen could have been recorded first, the times of an entity
agree only if they are all one. -/
theorem SameInstant.of_timesAgree {group : List ListenFactRow}
    (agrees : ∀ fact ∈ group, ∃ others, (fact :: others).Perm group ∧
      TimesAgree (fact :: others)) :
    SameInstant group := by
  cases least : (group.map ListenFactRow.startedAtMs).min? with
  | none =>
    have empty : group = [] := by simpa using least
    exact ⟨0, by simp [empty]⟩
  | some instant =>
    have ends : ∀ fact ∈ group, fact.endedAtMs = instant := by
      intro fact member
      obtain ⟨others, perm, _, first⟩ := agrees fact member
      have starts := min?_perm (perm.map ListenFactRow.startedAtMs)
      rw [starts, least, List.map_cons, List.head?_cons] at first
      exact Option.some.inj first
    refine ⟨instant, fun fact member => ⟨?_, ends fact member⟩⟩
    obtain ⟨others, perm, last, _⟩ := agrees fact member
    have greatest : ((fact :: others).map ListenFactRow.endedAtMs).max? =
        some instant := by
      rw [List.max?_eq_some_iff]
      constructor
      · rw [← ends fact member]
        exact List.mem_map_of_mem List.mem_cons_self
      · intro time inEnds
        obtain ⟨other, inOthers, rfl⟩ := List.mem_map.mp inEnds
        exact (ends other (perm.mem_iff.mp inOthers)).le
    rw [last, List.max?_eq_some_iff] at greatest
    rw [List.min?_eq_some_iff] at least
    have latest := greatest.2 fact.startedAtMs
      (List.mem_map_of_mem List.mem_cons_self)
    have earliest := least.2 fact.startedAtMs (List.mem_map_of_mem member)
    omega

namespace ListenStore

theorem recordListens_empty_metrics (facts : List ListenFactRow)
    (key : MetricKey) :
    (empty.recordListens facts).metrics key =
      ((factsOf key facts).map ListenFactRow.finalized).foldl
        upsertEntityMetric.put none :=
  empty.recordListens_metrics facts key

theorem rebuild_recordListens_metrics (facts : List ListenFactRow)
    (key : MetricKey) :
    (empty.recordListens facts).rebuildMetricRollups.metrics key =
      metricRebuild (factsOf key facts) := by
  rw [rebuildMetricRollups, recordListens_rows]
  rfl

/-- The upserts leave the rebuilt rollups of the recorded facts when the times
of every entity agree, and in every order of recording when the listens of
every entity are over in one instant; and only then. -/
theorem recorded_eq_rebuilt_iff (facts : List ListenFactRow) :
    ((empty.recordListens facts).metrics =
        (empty.recordListens facts).rebuildMetricRollups.metrics ↔
      ∀ key, TimesAgree (factsOf key facts)) ∧
    ((∀ order : List ListenFactRow, order.Perm facts →
        (empty.recordListens order).metrics =
          (empty.recordListens facts).rebuildMetricRollups.metrics) ↔
      ∀ key, SameInstant (factsOf key facts)) := by
  have atKey : ∀ order : List ListenFactRow, order.Perm facts →
      ((empty.recordListens order).metrics =
          (empty.recordListens facts).rebuildMetricRollups.metrics ↔
        ∀ key, TimesAgree (factsOf key order)) := by
    intro order perm
    rw [funext_iff]
    apply forall_congr'
    intro key
    rw [recordListens_empty_metrics, rebuild_recordListens_metrics,
      ← metricRebuild_perm (factsOf_perm key perm)]
    exact foldl_put_eq_metricRebuild _
  refine ⟨atKey facts (List.Perm.refl _), ?_⟩
  constructor
  · intro inEveryOrder key
    apply SameInstant.of_timesAgree
    intro fact member
    obtain ⟨recorded, counts⟩ := List.mem_filter.mp member
    have perm := (List.perm_cons_erase recorded).symm
    have agrees := (atKey _ perm).mp (inEveryOrder _ perm) key
    have first : factsOf key (fact :: facts.erase fact) =
        fact :: factsOf key (facts.erase fact) :=
      List.filter_cons_of_pos counts
    rw [first] at agrees
    exact ⟨_, first ▸ factsOf_perm key perm, agrees⟩
  · intro same order perm
    rw [atKey order perm]
    intro key
    obtain ⟨instant, times⟩ := same key
    apply TimesAgree.of_sameInstant
    exact ⟨instant, fun fact member =>
      times fact ((factsOf_perm key perm).mem_iff.mp member)⟩

/-- A listen of 200 s to one track. -/
def sampleListen (session : Nat) (startedAtMs : Int) : ListenFactRow where
  session := .tracked session
  trackUri := "spotify:track:a"
  artistUri := none
  albumUri := none
  contextUri := none
  startedAtMs := startedAtMs
  endedAtMs := startedAtMs + 200000
  durationMs := 200000
  elapsedMs := 200000
  audibleMs := 200000
  qualified := true
  skipReason := some .trackEnd
  privateSession := false
  measurementKind := .observedPlayback
  externalScrobbleId := none
  createdAtMs := startedAtMs + 200000

/-- A late listen recorded before an early one: both times differ from the
rebuilt ones, and the first one from that of the other order. -/
theorem recorded_ne_rebuilt_late_first :
    let late := sampleListen 1 1000000
    let early := sampleListen 2 0
    let totals : MetricTotals := (2, 0, 400000)
    let found := fun store : ListenStore =>
      (store.metrics (.track, "spotify:track:a")).map fun row =>
        (row.totals, row.lastListenedAtMs, row.firstListenedAtMs)
    found (empty.recordListens [late, early]) =
        some (totals, some 1200000, some 1200000) ∧
      found (empty.recordListens [late, early]).rebuildMetricRollups =
        some (totals, some 1000000, some 0) ∧
      found (empty.recordListens [early, late]) =
        some (totals, some 1200000, some 200000) ∧
      ¬∀ facts : List ListenFactRow, (empty.recordListens facts).metrics =
        (empty.recordListens facts).rebuildMetricRollups.metrics := by
  have recorded : ((empty.recordListens
      [sampleListen 1 1000000, sampleListen 2 0]).metrics
        (.track, "spotify:track:a")).map MetricRow.firstListenedAtMs =
      some (some 1200000) := by
    decide +kernel
  have rebuilt : ((empty.recordListens
      [sampleListen 1 1000000, sampleListen 2 0]).rebuildMetricRollups.metrics
        (.track, "spotify:track:a")).map MetricRow.firstListenedAtMs =
      some (some 0) := by
    decide +kernel
  refine ⟨by decide +kernel, by decide +kernel, by decide +kernel, ?_⟩
  intro alwaysSame
  rw [alwaysSame, rebuilt] at recorded
  cases recorded

end ListenStore

end Spotuify
