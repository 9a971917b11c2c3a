import Spotuify.GuardedMachine
import Spotuify.ListenStore

/-!
# Last.fm import runs

A run stores each fetched scrobble once, under the run that saw it first, and
promotes it to a listen fact when it resolves to a track.  Undoing a run
deletes the facts of the scrobbles stored under it.  Runs and undos follow one
another; which track a scrobble resolves to, and its artist and album, are
read from elsewhere and given with each step.
-/

namespace Spotuify

structure LastfmScrobble where
  artist : String
  track : String
  album : Option String
  artistMbid : Option String
  trackMbid : Option String
  albumMbid : Option String
  url : Option String
  scrobbledAtMs : Int
  deriving DecidableEq

/-- ASCII lower case, anything but ASCII letters and digits a blank, and one
blank between words. -/
def normalizeWords (value : String) : String :=
  let blanked := value.toList.map fun char =>
    if char.isAlphanum then char.toLower else ' '
  " ".intercalate
    (((blanked.splitOn ' ').filter (· ≠ [])).map String.ofList)

def normalizedScrobbleKey (scrobble : LastfmScrobble) : String :=
  "|".intercalate
    [normalizeWords scrobble.artist, normalizeWords scrobble.track,
      (scrobble.album.map normalizeWords).getD "",
      scrobble.artistMbid.getD "", scrobble.trackMbid.getD "",
      scrobble.albumMbid.getD "", scrobble.url.getD ""]

/-- The digest's text is a parameter. -/
def scrobbleIdempotencyKey (sha256Hex : String → String) (username : String)
    (scrobble : LastfmScrobble) : String :=
  sha256Hex ("\x00".intercalate
    ["lastfm", username, toString scrobble.scrobbledAtMs,
      normalizedScrobbleKey scrobble])

inductive ResolutionStatus where
  | pending
  | resolved
  | promoted
  | unresolved
  | resolveError
  deriving DecidableEq, Repr

/-- An `external_scrobbles` row; the provider is always Last.fm. -/
structure ExternalScrobble where
  id : Nat
  username : String
  importRunId : Nat
  idempotencyKey : String
  scrobble : LastfmScrobble
  normalizedKey : String
  resolutionStatus : ResolutionStatus
  resolvedUri : Option String
  deriving DecidableEq

inductive ImportRunState where
  | running
  | completed
  | failed
  | undone
  deriving DecidableEq, Repr

structure ImportCounts where
  fetched : Nat
  stored : Nat
  duplicates : Nat
  resolved : Nat
  promoted : Nat
  unresolved : Nat
  deriving DecidableEq

def ImportCounts.zero : ImportCounts := ⟨0, 0, 0, 0, 0, 0⟩

/-- An `analytics_import_runs` row of a run that is applied. -/
structure ImportRun where
  runId : Nat
  username : String
  state : ImportRunState
  counts : ImportCounts
  deriving DecidableEq

/-- A run that is importing, with its counts so far. -/
structure ActiveImport where
  runId : Nat
  username : String
  counts : ImportCounts
  deriving DecidableEq

/-- What a scrobble resolves to; a track comes with its artist and album. -/
inductive ScrobbleResolution where
  | track (item : MediaItem) (artistUri albumUri : Option String)
  | unresolved
  | error

/-- A fact and the run that was importing when it was promoted. -/
structure Promotion where
  runId : Nat
  factId : Nat
  deriving DecidableEq

/-- The import tables beside the listen store, the run in progress, and every
promotion so far. -/
structure ImportStore where
  listens : ListenStore
  nextScrobbleId : Nat
  scrobbles : List ExternalScrobble
  runs : List ImportRun
  importing : Option ActiveImport
  promotions : List Promotion

inductive ImportAction where
  | track (fact : ListenFactRow)
  | start (runId : Nat) (username : String)
  | scrobble (scrobble : LastfmScrobble) (resolution : ScrobbleResolution)
      (nowMs : Int)
  | finish (state : ImportRunState) (fetched : Nat)
  | abort
  | undo (runId : Nat)

namespace ListenStore

variable (store : ListenStore)

def countListenFactsForExternal (externalId : Nat) : Nat :=
  store.facts.countP fun fact => fact.row.externalScrobbleId = some externalId

/-- The checks that `promote_imported_listen` makes before it inserts. -/
def promotes (externalId : Nat) (item : MediaItem) : Bool :=
  store.countListenFactsForExternal externalId == 0 &&
    30000 < max 0 (asSigned item.durationMs)

def importedFact (externalId : Nat) (scrobble : LastfmScrobble)
    (item : MediaItem) (artistUri albumUri : Option String) (nowMs : Int) :
    ListenFactRow :=
  let durationMs := max 0 (asSigned item.durationMs)
  let lowerBoundMs := (qualifyListen durationMs (2 ^ 63 - 1)).thresholdMs
  let endedAtMs := scrobble.scrobbledAtMs
  { session := .imported externalId,
    trackUri := item.uri,
    artistUri := artistUri,
    albumUri := albumUri,
    contextUri := none,
    startedAtMs := saturatingSub endedAtMs lowerBoundMs,
    endedAtMs := endedAtMs,
    durationMs := durationMs,
    elapsedMs := lowerBoundMs,
    audibleMs := lowerBoundMs,
    qualified := true,
    skipReason := some .trackEnd,
    privateSession := false,
    measurementKind := .lastfmScrobbleImport,
    externalScrobbleId := some externalId,
    createdAtMs := nowMs }

def promoteImportedListen (externalId : Nat) (scrobble : LastfmScrobble)
    (item : MediaItem) (artistUri albumUri : Option String) (nowMs : Int) :
    Option ListenStore :=
  if store.promotes externalId item then
    some (store.recordListen
      (importedFact externalId scrobble item artistUri albumUri nowMs))
  else none

end ListenStore

namespace ImportStore

/-- No listen and no run yet. -/
def initial : ImportStore where
  listens := .empty
  nextScrobbleId := 1
  scrobbles := []
  runs := []
  importing := none
  promotions := []

variable (sha256Hex : String → String) (store : ImportStore)

/-- The row that stops a scrobble from being inserted. -/
def storedScrobble? (username : String) (scrobble : LastfmScrobble) :
    Option ExternalScrobble :=
  store.scrobbles.find? fun row => row.username = username ∧
    row.idempotencyKey = scrobbleIdempotencyKey sha256Hex username scrobble

/-- `insert_external_scrobble`, with the id and whether it is a duplicate. -/
def insertExternalScrobble (active : ActiveImport)
    (scrobble : LastfmScrobble) : ImportStore × Nat × Bool :=
  match store.storedScrobble? sha256Hex active.username scrobble with
  | some row => (store, row.id, true)
  | none =>
    ({ store with
        nextScrobbleId := store.nextScrobbleId + 1,
        scrobbles := store.scrobbles ++
          [{ id := store.nextScrobbleId,
             username := active.username,
             importRunId := active.runId,
             idempotencyKey :=
              scrobbleIdempotencyKey sha256Hex active.username scrobble,
             scrobble := scrobble,
             normalizedKey := normalizedScrobbleKey scrobble,
             resolutionStatus := .pending,
             resolvedUri := none }] },
      store.nextScrobbleId, false)

/-- `mark_external_scrobble_resolution`. -/
def markResolution (externalId : Nat) (status : ResolutionStatus)
    (resolvedUri : Option String) : ImportStore :=
  { store with
    scrobbles := store.scrobbles.map fun row =>
      if row.id = externalId then
        { row with resolutionStatus := status, resolvedUri := resolvedUri }
      else row }

/-- The rest of a scrobble's import once it is stored. -/
def resolveScrobble (active : ActiveImport) (externalId : Nat)
    (scrobble : LastfmScrobble) (nowMs : Int) :
    ScrobbleResolution → ImportStore
  | .track item artistUri albumUri =>
    let store := store.markResolution externalId .resolved (some item.uri)
    let counts := { active.counts with resolved := active.counts.resolved + 1 }
    match store.listens.promoteImportedListen externalId scrobble item
        artistUri albumUri nowMs with
    | none => { store with importing := some { active with counts := counts } }
    | some listens =>
      { store.markResolution externalId .promoted (some item.uri) with
        listens := listens,
        importing := some
          { active with
            counts := { counts with promoted := counts.promoted + 1 } },
        promotions := store.promotions ++
          [⟨active.runId, store.listens.nextFactId⟩] }
  | .unresolved =>
    { store.markResolution externalId .unresolved none with
      importing := some
        { active with
          counts :=
            { active.counts with unresolved := active.counts.unresolved + 1 } } }
  | .error =>
    { store.markResolution externalId .resolveError none with
      importing := some
        { active with
          counts :=
            { active.counts with unresolved := active.counts.unresolved + 1 } } }

/-- The counts after a scrobble is stored. -/
def countStored (active : ActiveImport) (duplicate : Bool) : ActiveImport :=
  { active with
    counts :=
      if duplicate then
        { active.counts with duplicates := active.counts.duplicates + 1 }
      else { active.counts with stored := active.counts.stored + 1 } }

def importScrobble (active : ActiveImport) (scrobble : LastfmScrobble)
    (resolution : ScrobbleResolution) (nowMs : Int) : ImportStore :=
  let (stored, externalId, duplicate) :=
    store.insertExternalScrobble sha256Hex active scrobble
  stored.resolveScrobble (countStored active duplicate) externalId scrobble
    nowMs resolution

def setRunState (runId : Nat) (change : ImportRun → ImportRun) : ImportStore :=
  { store with
    runs := store.runs.map fun run =>
      if run.runId = runId then change run else run }

/-- The ids of the scrobbles stored under a run. -/
def scrobblesOf (runId : Nat) : List Nat :=
  (store.scrobbles.filter fun row => row.importRunId = runId).map
    ExternalScrobble.id

def undoImportRun (runId : Nat) : ImportStore :=
  { store.setRunState runId fun run => { run with state := .undone } with
    listens :=
      { store.listens with
        facts := store.listens.facts.filter fun fact =>
          ¬∃ id ∈ store.scrobblesOf runId,
            fact.row.externalScrobbleId = some id }.rebuildMetricRollups }

def step (store : ImportStore) : ImportAction → Option ImportStore
  | .track fact =>
    if fact.externalScrobbleId = none ∧
        fact.measurementKind = .observedPlayback then
      some { store with listens := store.listens.recordListen fact }
    else none
  | .start runId username =>
    if store.importing = none ∧ ∀ run ∈ store.runs, run.runId ≠ runId then
      some
        { store with
          runs := store.runs ++ [⟨runId, username, .running, .zero⟩],
          importing := some ⟨runId, username, .zero⟩ }
    else none
  | .scrobble scrobble resolution nowMs =>
    store.importing.map fun active =>
      store.importScrobble sha256Hex active scrobble resolution nowMs
  | .finish state fetched =>
    match store.importing with
    | none => none
    | some active =>
      if state = .completed ∨ state = .failed then
        some
          { store.setRunState active.runId fun run =>
              { run with
                state := state,
                counts := { active.counts with fetched := fetched } } with
            importing := none }
      else none
  | .abort => some { store with importing := none }
  | .undo runId =>
    match store.importing with
    | none => some (store.undoImportRun runId)
    | some _ => none

def machine : GuardedMachine ImportStore ImportAction where
  step := step sha256Hex

/-- Undoing a run, now, deletes exactly the facts promoted while it was
importing; and once every run is undone there is no imported fact. -/
structure UndoExact : Prop where
  deletesOwn : ∀ runId, (store.undoImportRun runId).listens.facts =
    store.listens.facts.filter fun fact =>
      ⟨runId, fact.id⟩ ∉ store.promotions
  nothingLeft : (∀ run ∈ store.runs, run.state = .undone) →
    ∀ fact ∈ store.listens.facts,
      fact.row.measurementKind ≠ .lastfmScrobbleImport

/-- A run promotes no scrobble that is stored under another run. -/
def PromotesOwn : ImportAction → Prop
  | .scrobble scrobble (.track item _ _) _ =>
    ∀ active, store.importing = some active →
      ∀ row, store.storedScrobble? sha256Hex active.username scrobble =
          some row →
        row.importRunId = active.runId ∨
          store.listens.promotes row.id item = false
  | _ => True

end ImportStore

end Spotuify
