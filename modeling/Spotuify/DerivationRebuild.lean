import Spotuify.ListenMetrics
import Mathlib.Data.List.Sort

/-!
# Rebuilding the derivations from the event log

`analytics rebuild` deletes the facts that start at or after a cutoff, zeroes
two columns of every rollup and derives a fact from each completed playback
that ends at or after the cutoff.  Ties of the log's order are kept as they
are logged.
-/

namespace Spotuify

inductive AnalyticsEventKind where
  | actionFinished
  | searchPerformed
  | searchResultSelected
  | playbackStarted
  | playbackPaused
  | playbackResumed
  | playbackSkipped
  | playbackCompleted
  | listenQualified
  | providerApiFinished
  deriving DecidableEq, Repr

/-- The members of an event's payload that the rebuild reads, where they are
there with their type. -/
structure PlaybackPayload where
  elapsedMs : Option Int
  audibleMs : Option Int
  qualified : Option Bool
  privateSession : Option Bool
  deriving DecidableEq

structure AnalyticsEvent where
  kind : AnalyticsEventKind
  subjectUri : Option String
  occurredAtMs : Int
  payload : PlaybackPayload
  deriving DecidableEq

def playbackCompletedEvent (trackUri : String) (elapsedMs audibleMs : Int)
    (qualified privateSession : Bool) (occurredAtMs : Int) :
    AnalyticsEvent where
  kind := .playbackCompleted
  subjectUri := some trackUri
  occurredAtMs := occurredAtMs
  payload :=
    { elapsedMs := some elapsedMs,
      audibleMs := some audibleMs,
      qualified := some qualified,
      privateSession := some privateSession }

/-- The fact synthesised from a completed playback of a track. -/
def AnalyticsEvent.derivedFact (event : AnalyticsEvent) (trackUri : String) :
    ListenFactRow :=
  let audibleMs := event.payload.audibleMs.getD 0
  let elapsedMs := event.payload.elapsedMs.getD audibleMs
  { session := .rebuilt event.occurredAtMs,
    trackUri := trackUri,
    artistUri := none,
    albumUri := none,
    contextUri := none,
    startedAtMs := event.occurredAtMs - elapsedMs,
    endedAtMs := event.occurredAtMs,
    durationMs := elapsedMs,
    elapsedMs := elapsedMs,
    audibleMs := audibleMs,
    qualified := event.payload.qualified.getD false,
    skipReason := none,
    privateSession := event.payload.privateSession.getD false,
    measurementKind := .observedPlayback,
    externalScrobbleId := none,
    createdAtMs := event.occurredAtMs }

/-- The completed playbacks that occurred at or after a cutoff, in order. -/
def completedSince (cutoff : Int) (events : List AnalyticsEvent) :
    List AnalyticsEvent :=
  (events.filter fun event =>
    event.kind = .playbackCompleted ∧ cutoff ≤ event.occurredAtMs).insertionSort
      fun first second => first.occurredAtMs ≤ second.occurredAtMs

/-- `SET qualified_count = 0, total_audible_ms = 0`. -/
def MetricRow.zeroed (row : MetricRow) : MetricRow :=
  { row with qualifiedCount := 0, totalAudibleMs := 0 }

namespace ListenStore

variable (store : ListenStore)

/-- The transaction that the rebuild starts with. -/
def wipeDerivations (cutoff : Int) : ListenStore :=
  { store with
    facts := store.facts.filter fun fact => fact.row.startedAtMs < cutoff,
    metrics := fun key => (store.metrics key).map MetricRow.zeroed }

/-- Insert the fact of one event and upsert the rollup of its track. -/
def deriveListen (event : AnalyticsEvent) : ListenStore :=
  match event.subjectUri with
  | none => store
  | some trackUri =>
    let fact := event.derivedFact trackUri
    (store.insertListenFact fact).upsertMetrics
      [((.track, trackUri), fact.finalized)]

def rebuildDerivationsFromEvents (events : List AnalyticsEvent)
    (sinceMs : Option Int) : ListenStore :=
  let cutoff := sinceMs.getD 0
  (completedSince cutoff events).foldl deriveListen
    (store.wipeDerivations cutoff)

end ListenStore

/-- A listen as the tracker finalizes it. -/
structure TrackedListen where
  row : ListenFactRow
  elapsed_eq : row.elapsedMs = max 0 (row.endedAtMs - row.startedAtMs)
  audible_nonneg : 0 ≤ row.audibleMs

namespace TrackedListen

variable (listen : TrackedListen)

def completedEvent : AnalyticsEvent :=
  playbackCompletedEvent listen.row.trackUri listen.row.elapsedMs
    listen.row.audibleMs listen.row.qualified listen.row.privateSession
    listen.row.endedAtMs

/-- The fact a rebuild derives from the listen's event. -/
def derived : ListenFactRow :=
  listen.completedEvent.derivedFact listen.row.trackUri

/-- The derived fact starts with the listen, or with its end where the clock
went back. -/
theorem derived_startedAtMs :
    listen.derived.startedAtMs =
      min listen.row.startedAtMs listen.row.endedAtMs := by
  have elapsed := listen.elapsed_eq
  change listen.row.endedAtMs - listen.row.elapsedMs = _
  omega

end TrackedListen

/-- A log whose completed playbacks are those of the tracked listens, in the
order they were recorded in or any other. -/
structure ListenLog where
  listens : List TrackedListen
  events : List AnalyticsEvent
  logged : (events.filter fun event => event.kind = .playbackCompleted).Perm
    (listens.map TrackedListen.completedEvent)

namespace ListenLog

variable (log : ListenLog)

def rows : List ListenFactRow := log.listens.map TrackedListen.row

/-- The facts and rollups the incremental path produced. -/
def store : ListenStore := ListenStore.empty.recordListens log.rows

def rebuilt (sinceMs : Option Int) : ListenStore :=
  log.store.rebuildDerivationsFromEvents log.events sinceMs

def rebuiltTwice (sinceMs : Option Int) : ListenStore :=
  (log.rebuilt sinceMs).rebuildDerivationsFromEvents log.events sinceMs

/-- Rebuilding twice is rebuilding once, every listen of the log has one fact,
and the rollups of tracks, artists and albums still account for all listens,
those before the cutoff included. -/
structure RebuildSound (sinceMs : Option Int) : Prop where
  sameFacts : (log.rebuiltTwice sinceMs).rows = (log.rebuilt sinceMs).rows
  sameMetrics :
    (log.rebuiltTwice sinceMs).metrics = (log.rebuilt sinceMs).metrics
  oneFactEach : ∀ trackUri endedAtMs,
    ((log.rebuilt sinceMs).rows.countP fun fact =>
      fact.trackUri = trackUri ∧ fact.endedAtMs = endedAtMs) =
    log.events.countP fun event =>
      event.kind = .playbackCompleted ∧ event.subjectUri = some trackUri ∧
        event.occurredAtMs = endedAtMs
  accounted : ∀ key,
    storedTotals ((log.rebuilt sinceMs).metrics key) =
      totalsOf (factsOf key log.rows)

end ListenLog

/-- A rebuild keeps a listen: the listen lies on one side of the cutoff, has
nothing to lose before it, and after it has no skip to count again and no
artist or album whose rollup is not filled again. -/
def TrackedListen.KeptByRebuild (listen : TrackedListen) (cutoff : Int) :
    Prop :=
  (listen.row.startedAtMs < cutoff ∧ listen.row.endedAtMs < cutoff ∧
    listen.row.qualified = false ∧ listen.row.audibleMs = 0) ∨
  (cutoff ≤ listen.row.startedAtMs ∧ cutoff ≤ listen.row.endedAtMs ∧
    listen.row.qualified = true ∧ listen.row.artistUri = none ∧
      listen.row.albumUri = none)

namespace ListenStore

variable (store : ListenStore)

/-- The facts derived from a log. -/
def derivedRows (cutoff : Int) (events : List AnalyticsEvent) :
    List ListenFactRow :=
  (completedSince cutoff events).filterMap fun event =>
    event.subjectUri.map event.derivedFact

/-- A derived fact counts in the rollup of its track only, so it is recorded
like any other. -/
theorem deriveListen_of_subject {event : AnalyticsEvent} {trackUri : String}
    (subject : event.subjectUri = some trackUri) :
    store.deriveListen event =
      store.recordListen (event.derivedFact trackUri) := by
  rw [deriveListen, subject]
  rfl

theorem foldl_deriveListen (events : List AnalyticsEvent) :
    events.foldl deriveListen store =
      store.recordListens (events.filterMap fun event =>
        event.subjectUri.map event.derivedFact) := by
  induction events generalizing store with
  | nil => rfl
  | cons event events inductionHypothesis =>
    rw [List.foldl_cons, inductionHypothesis, List.filterMap_cons]
    cases subject : event.subjectUri with
    | none =>
      rw [deriveListen, subject]
      rfl
    | some trackUri =>
      rw [store.deriveListen_of_subject subject]
      rfl

theorem rebuildDerivations_eq (events : List AnalyticsEvent)
    (sinceMs : Option Int) :
    store.rebuildDerivationsFromEvents events sinceMs =
      (store.wipeDerivations (sinceMs.getD 0)).recordListens
        (derivedRows (sinceMs.getD 0) events) :=
  foldl_deriveListen _ _

theorem wipeDerivations_rows (cutoff : Int) :
    (store.wipeDerivations cutoff).rows =
      store.rows.filter fun fact => fact.startedAtMs < cutoff := by
  rw [wipeDerivations, rows, rows, List.filter_map]
  rfl

theorem rebuildDerivations_rows (events : List AnalyticsEvent)
    (sinceMs : Option Int) :
    (store.rebuildDerivationsFromEvents events sinceMs).rows =
      (store.rows.filter fun fact => fact.startedAtMs < sinceMs.getD 0) ++
        derivedRows (sinceMs.getD 0) events := by
  rw [rebuildDerivations_eq, recordListens_rows, wipeDerivations_rows]

theorem rebuildDerivations_metrics (events : List AnalyticsEvent)
    (sinceMs : Option Int) (key : MetricKey) :
    (store.rebuildDerivationsFromEvents events sinceMs).metrics key =
      ((factsOf key (derivedRows (sinceMs.getD 0) events)).map
        ListenFactRow.finalized).foldl upsertEntityMetric.put
          ((store.metrics key).map MetricRow.zeroed) := by
  rw [rebuildDerivations_eq, recordListens_metrics]
  rfl

end ListenStore

namespace ListenLog

variable (log : ListenLog) (cutoff : Int)

/-- The derived facts are those of the listens that end at or after the
cutoff. -/
theorem derivedRows_perm :
    (ListenStore.derivedRows cutoff log.events).Perm
      ((log.listens.filter fun listen => cutoff ≤ listen.row.endedAtMs).map
        TrackedListen.derived) := by
  have since : (log.events.filter fun event =>
      event.kind = .playbackCompleted ∧ cutoff ≤ event.occurredAtMs) =
      (log.events.filter fun event => event.kind = .playbackCompleted).filter
        fun event => cutoff ≤ event.occurredAtMs := by
    rw [List.filter_filter]
    apply List.filter_congr
    intro event _
    simp [Bool.and_comm]
  have sorted : (completedSince cutoff log.events).Perm
      ((log.listens.map TrackedListen.completedEvent).filter
        fun event => cutoff ≤ event.occurredAtMs) := by
    apply (List.perm_insertionSort _ _).trans
    rw [since]
    exact log.logged.filter _
  apply (sorted.filterMap _).trans
  rw [List.filter_map, List.filterMap_map]
  rw [← List.filterMap_eq_map]
  exact List.Perm.refl _

end ListenLog

end Spotuify
