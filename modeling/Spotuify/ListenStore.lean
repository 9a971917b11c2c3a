import Spotuify.ListenSessions
import Spotuify.Upserts
import Mathlib.Algebra.Group.Prod

/-!
# Listen facts and their rollups

The `listen_facts` table and the track, artist and album rollups over it.  A
finalized listen is inserted and then upserted into the rollup of each of its
entities; a rebuild computes the rollups from the table instead.  Sums of
audible milliseconds stay within 64 bits.
-/

namespace Spotuify

inductive MeasurementKind where
  | observedPlayback
  | lastfmScrobbleImport
  deriving DecidableEq, Repr

/-- The session texts facts are stored under: the tracker's own,
`rebuild-{occurred}` and `lastfm-import-{external_id}`. -/
inductive FactSession where
  | tracked (session : Nat)
  | rebuilt (occurredAtMs : Int)
  | imported (externalId : Nat)
  deriving DecidableEq, Repr

/-- The columns of a `listen_facts` row that are bound from a fact. -/
structure ListenFactRow where
  session : FactSession
  trackUri : String
  artistUri : Option String
  albumUri : Option String
  contextUri : Option String
  startedAtMs : Int
  endedAtMs : Int
  durationMs : Int
  elapsedMs : Int
  audibleMs : Int
  qualified : Bool
  skipReason : Option SkipReason
  privateSession : Bool
  measurementKind : MeasurementKind
  externalScrobbleId : Option Nat
  createdAtMs : Int
  deriving DecidableEq

structure StoredListenFact where
  id : Nat
  row : ListenFactRow
  deriving DecidableEq

/-- The tables with a rollup row for each entity. -/
inductive MetricTable where
  | track
  | artist
  | album
  deriving DecidableEq, Repr

/-- A rollup row is found by its table and its primary key. -/
abbrev MetricKey := MetricTable × String

structure MetricRow where
  qualifiedCount : Nat
  skipCount : Nat
  totalAudibleMs : Int
  lastListenedAtMs : Option Int
  firstListenedAtMs : Option Int
  deriving DecidableEq

namespace ListenFactRow

variable (fact : ListenFactRow)

def entityUri : MetricTable → Option String
  | .track => some fact.trackUri
  | .artist => fact.artistUri
  | .album => fact.albumUri

/-- The rollup rows a fact counts in. -/
def metricKeys : List MetricKey :=
  [MetricTable.track, .artist, .album].filterMap fun table =>
    (fact.entityUri table).map fun uri => (table, uri)

end ListenFactRow

/-- The facts that count in a rollup row. -/
def factsOf (key : MetricKey) (facts : List ListenFactRow) :
    List ListenFactRow :=
  facts.filter fun fact => fact.entityUri key.1 = some key.2

/-- What `upsert_entity_metric` is called with, besides the key. -/
structure FinalizedListen where
  qualified : Bool
  audibleMs : Int
  finalizedAtMs : Int
  deriving DecidableEq

/-- SQLite's two-argument `MAX`. -/
def sqlMax : Option Int → Option Int → Option Int
  | some first, some second => some (max first second)
  | _, _ => none

/-- The `VALUES` and the `DO UPDATE` of `upsert_entity_metric`. -/
def upsertEntityMetric : Upsert FinalizedListen MetricRow where
  insert listen :=
    { qualifiedCount := if listen.qualified then 1 else 0,
      skipCount := if listen.qualified then 0 else 1,
      totalAudibleMs := listen.audibleMs,
      lastListenedAtMs := some listen.finalizedAtMs,
      firstListenedAtMs := some listen.finalizedAtMs }
  update row listen :=
    { row with
      qualifiedCount := row.qualifiedCount + if listen.qualified then 1 else 0,
      skipCount := row.skipCount + if listen.qualified then 0 else 1,
      totalAudibleMs := row.totalAudibleMs + listen.audibleMs,
      lastListenedAtMs :=
        sqlMax row.lastListenedAtMs (some listen.finalizedAtMs) }

def ListenFactRow.finalized (fact : ListenFactRow) : FinalizedListen where
  qualified := fact.qualified
  audibleMs := fact.audibleMs
  finalizedAtMs := fact.endedAtMs

/-- The `SELECT` of `metric_rebuild_sql` over one group. -/
def metricRebuild (group : List ListenFactRow) : Option MetricRow :=
  if group = [] then none
  else
    some
      { qualifiedCount :=
          (group.map fun fact => if fact.qualified then 1 else 0).sum,
        skipCount :=
          (group.map fun fact => if fact.qualified then 0 else 1).sum,
        totalAudibleMs := (group.map ListenFactRow.audibleMs).sum,
        lastListenedAtMs := (group.map ListenFactRow.startedAtMs).max?,
        firstListenedAtMs := (group.map ListenFactRow.startedAtMs).min? }

structure ListenStore where
  nextFactId : Nat
  facts : List StoredListenFact
  metrics : MetricKey → Option MetricRow

namespace ListenStore

def empty : ListenStore where
  nextFactId := 1
  facts := []
  metrics := fun _ => none

variable (store : ListenStore)

def rows : List ListenFactRow := store.facts.map StoredListenFact.row

def insertListenFact (fact : ListenFactRow) : ListenStore :=
  { store with
    nextFactId := store.nextFactId + 1,
    facts := store.facts ++ [⟨store.nextFactId, fact⟩] }

def upsertMetrics (entries : List (MetricKey × FinalizedListen)) :
    ListenStore :=
  { store with metrics := upsertEntityMetric.allInto store.metrics entries }

/-- Insert a fact and upsert the rollups of its track, artist and album. -/
def recordListen (fact : ListenFactRow) : ListenStore :=
  (store.insertListenFact fact).upsertMetrics
    (fact.metricKeys.map fun key => (key, fact.finalized))

/-- Record facts one after the other. -/
def recordListens (facts : List ListenFactRow) : ListenStore :=
  facts.foldl recordListen store

def rebuildMetricRollups : ListenStore :=
  { store with metrics := fun key => metricRebuild (factsOf key store.rows) }

end ListenStore

theorem mem_metricKeys {fact : ListenFactRow} {key : MetricKey} :
    key ∈ fact.metricKeys ↔ fact.entityUri key.1 = some key.2 := by
  obtain ⟨table, uri⟩ := key
  cases table <;>
    simp [ListenFactRow.metricKeys, ListenFactRow.entityUri, eq_comm]

theorem metricKeys_nodup (fact : ListenFactRow) : fact.metricKeys.Nodup := by
  apply List.Nodup.filterMap _ (by decide)
  intro first second key inFirst inSecond
  obtain ⟨uri, -, rfl⟩ := Option.map_eq_some_iff.mp inFirst
  obtain ⟨uri', -, same⟩ := Option.map_eq_some_iff.mp inSecond
  exact congrArg Prod.fst same.symm

/-- A fact puts one value into each rollup row it counts in. -/
theorem valuesOf_metricKeys (key : MetricKey) (fact : ListenFactRow)
    (listen : FinalizedListen) :
    Upsert.valuesOf key (fact.metricKeys.map fun other => (other, listen)) =
      if fact.entityUri key.1 = some key.2 then [listen] else [] := by
  rw [Upsert.valuesOf_map_key (metricKeys_nodup fact)]
  simp only [mem_metricKeys]

namespace ListenStore

variable (store : ListenStore)

theorem recordListens_rows (facts : List ListenFactRow) :
    (store.recordListens facts).rows = store.rows ++ facts := by
  induction facts generalizing store with
  | nil => simp [recordListens]
  | cons fact facts inductionHypothesis =>
    have rest := inductionHypothesis (store.recordListen fact)
    rw [recordListens, List.foldl_cons, ← recordListens, rest]
    simp [recordListen, upsertMetrics, insertListenFact, rows]

/-- The rollup row of an entity depends on its own facts only. -/
theorem recordListens_metrics (facts : List ListenFactRow) (key : MetricKey) :
    (store.recordListens facts).metrics key =
      ((factsOf key facts).map ListenFactRow.finalized).foldl
        upsertEntityMetric.put (store.metrics key) := by
  induction facts generalizing store with
  | nil => rfl
  | cons fact facts inductionHypothesis =>
    have rest := inductionHypothesis (store.recordListen fact)
    rw [recordListens, List.foldl_cons, ← recordListens, rest, recordListen,
      upsertMetrics]
    dsimp only
    rw [upsertEntityMetric.allInto_apply, valuesOf_metricKeys, factsOf,
      factsOf]
    split
    · rename_i counts
      rw [List.filter_cons_of_pos (by simpa using counts)]
      rfl
    · rename_i elsewhere
      rw [List.filter_cons_of_neg (by simpa using elsewhere)]
      rfl

end ListenStore

end Spotuify
