import Spotuify.ReplayedMutations

/-!
# Redo without a target

A redo without an explicit target scans the newest page of the operations log,
by the time the operations occurred, and takes the first undone one.  When
several operations were undone newest first, that is the operation that was
undone first, and not the one that was undone last.
-/

namespace Spotuify

/-- What one recorded mutation reads outside the log. -/
structure StepReads where
  handler : HandlerReads
  source : OperationSource
  occurredAtMs : Int
  finishedAtMs : Int

/-- The provider's content, the operations log, and the requests stored with
the receipts.  Operation and receipt ids are minted together. -/
structure LoggedService where
  content : ServiceContent
  operations : OperationTable
  requests : ReceiptId → Option RedoableRequest
  minted : Nat
  clockMs : Int

namespace LoggedService

variable (service : MusicService) (world : LoggedService)

def context (reads : StepReads) : RecordingContext where
  operationId := ⟨world.minted⟩
  receiptId := ⟨world.minted⟩
  source := reads.source
  occurredAtMs := reads.occurredAtMs
  finishedAtMs := reads.finishedAtMs

/-- Insert a row that occurs now; the clock does not run backwards. -/
def insertRow (reads : StepReads) (row : Operation) : Option LoggedService :=
  if reads.occurredAtMs < world.clockMs then none
  else do
    let operations ← world.operations.insert? row
    return { world with
      operations := operations, minted := world.minted + 1,
      clockMs := reads.occurredAtMs }

/-- A library or playlist mutation that succeeds. -/
def forward (reads : StepReads) (request : RedoableRequest) :
    Option LoggedService := do
  let (content, row) ← service.apply reads.handler (world.context reads)
    world.content request
  let recorded ← world.insertRow reads row
  return { recorded with
    content := content,
    requests := Function.update world.requests ⟨world.minted⟩
      (some request) }

/-- Record a mutation of the log itself as pending. -/
def start (reads : StepReads) (recorded : RecordedMutation) :
    Option LoggedService :=
  world.insertRow reads (recorded.pendingOperation ⟨world.minted⟩
    ⟨world.minted⟩ reads.source reads.occurredAtMs)

def update (issuer : OperationId) (updates : List LogUpdate) :
    LoggedService :=
  { world with
    operations := LogUpdate.applyAll issuer world.operations updates }

/-- `handle_ops_undo` of one operation that succeeds. -/
def undo (reads : StepReads) (operationId : OperationId) (force : Bool) :
    Option LoggedService := do
  let selected ← world.operations.get? operationId
  let recorded :=
    recordUndo (.opsUndo (some operationId) false force none) selected
  let started ← world.start reads recorded
  let content ← service.undo world.content selected force
  return { started.update ⟨world.minted⟩
      (recorded.body.flatMap BodyStep.updates ++
        [.finish .succeeded reads.finishedAtMs none]) with
    content := content }

/-- `handle_ops_redo` of a row the default selection may return: the stored
request is dispatched once more, and then the row is marked redone. -/
def redo (own replay : StepReads) (selected : Operation) :
    Option LoggedService :=
  if world.operations.IsLastUndone selected then do
    let receiptId ← selected.receiptId
    let request ← world.requests receiptId
    let _ ← (service.topology.operationReconciliationSeed selected).toOption
    let started ← world.start own (recordRedo (.opsRedo none) selected)
    let linked := started.update ⟨world.minted⟩
      [.subject selected.operationId]
    let replayed ← linked.forward service replay request
    return replayed.update ⟨world.minted⟩
      [.redone selected.operationId,
        .finish .succeeded own.finishedAtMs none]
  else none

/-- The last reversible operations, newest first. -/
def lastReversible (count : Nat) : List OperationId :=
  ((world.operations.rows.filter Operation.isOffered).map
    Operation.operationId).reverse.take count

/-- Undo some operations one at a time. -/
def undoAll :
    LoggedService → List (OperationId × StepReads × Bool) →
      Option LoggedService
  | world, [] => some world
  | world, (operationId, reads, force) :: rest => do
    undoAll (← world.undo service reads operationId force) rest

/-- Redo without a target re-applies exactly the expected operations in their
order, whatever the log selects among equal times and whatever the replayed
handlers read, and afterwards the content is the given one. -/
def RedoesInOrder (target : ServiceContent) :
    LoggedService → List OperationId → Prop
  | world, [] => world.content.Same target
  | world, expected :: rest =>
    (∃ selected, world.operations.IsLastUndone selected) ∧
      ∀ selected, world.operations.IsLastUndone selected →
        selected.operationId = expected ∧
          ∀ own replay : StepReads, world.clockMs ≤ own.occurredAtMs →
            own.occurredAtMs ≤ replay.occurredAtMs →
              ∃ next, world.redo service own replay selected = some next ∧
                RedoesInOrder target next rest

end LoggedService

/-- Histories of successful library and playlist mutations. -/
def historyMachine (service : MusicService) :
    GuardedMachine LoggedService (StepReads × RedoableRequest) where
  step world action := world.forward service action.1 action.2

section

variable {service : MusicService} {world next : LoggedService}
  {reads : StepReads}

theorem insertRow_eq_some {row : Operation} :
    world.insertRow reads row = some next ↔
      world.clockMs ≤ reads.occurredAtMs ∧
        ∃ operations, world.operations.insert? row = some operations ∧
          next = { world with
            operations := operations, minted := world.minted + 1,
            clockMs := reads.occurredAtMs } := by
  unfold LoggedService.insertRow
  split
  · rename_i backwards
    simp only [reduceCtorEq, false_iff]
    rintro ⟨forwards, _⟩
    exact absurd backwards (by omega)
  · rename_i forwards
    simp only [Option.bind_eq_bind, Option.bind_eq_some_iff]
    constructor
    · rintro ⟨operations, inserted, result⟩
      cases result
      exact ⟨by omega, operations, inserted, rfl⟩
    · rintro ⟨_, operations, inserted, rfl⟩
      exact ⟨operations, inserted, rfl⟩

theorem forward_eq_some {request : RedoableRequest} :
    world.forward service reads request = some next ↔
      ∃ content row recorded,
        service.apply reads.handler (world.context reads) world.content
          request = some (content, row) ∧
        world.insertRow reads row = some recorded ∧
        next = { recorded with
          content := content,
          requests := Function.update world.requests ⟨world.minted⟩
            (some request) } := by
  simp only [LoggedService.forward, Option.bind_eq_bind,
    Option.bind_eq_some_iff, Prod.exists]
  constructor
  · rintro ⟨content, row, applied, recorded, inserted, result⟩
    cases result
    exact ⟨content, row, recorded, applied, inserted, rfl⟩
  · rintro ⟨content, row, recorded, applied, inserted, rfl⟩
    exact ⟨content, row, applied, recorded, inserted, rfl⟩

end

section

variable {provider : VersionedProvider} {topology : ProviderTopology}
  {playlists written : PlaylistTable}
  {resolved : ResolvedPlaylist provider topology playlists}
  {row : Operation}

/-- The row of an add. -/
theorem playlistAddItems_row {uris : List String} {added : Operation}
    (succeeded : playlistAddItems provider topology resolved uris row =
      .ok (written, added)) :
    added = { row with
      kind := .playlistAdd, subjectUris := uris, reversible := true,
      preState := some (.playlistAdd resolved.playlist.uri.asUri
        resolved.playlist.versionToken uris),
      reversalPlan := some (.playlistRemoveTracks
        resolved.playlist.uri.asUri uris resolved.playlist.versionToken),
      status := .succeeded } := by
  unfold playlistAddItems at succeeded
  split at succeeded
  · cases succeeded
  · obtain ⟨_, _, writes⟩ := Except.bind_eq_ok.mp succeeded
    obtain ⟨_, _, result⟩ := Except.bind_eq_ok.mp writes
    cases result
    rfl

/-- Texts of URIs in one namespace. -/
def UrisOf (scheme : UriScheme) (values : List String) : Prop :=
  ∀ value ∈ values, ∃ uri, ResourceUri.parse value = .ok uri ∧
    uri.scheme = scheme

theorem urisOf_of_parseUris {scheme : UriScheme} {values : List String}
    {uris : List ResourceUri} (parsed : parseUris values = .ok uris)
    (own : ∀ uri ∈ uris, uri.scheme = scheme) : UrisOf scheme values := by
  induction values generalizing uris with
  | nil => nofun
  | cons value rest inductionHypothesis =>
    obtain ⟨uri, parsedFirst, parsed⟩ := Except.bind_eq_ok.mp parsed
    obtain ⟨others, parsedRest, result⟩ := Except.bind_eq_ok.mp parsed
    cases result
    rw [List.forall_mem_cons] at own
    intro other member
    rcases List.mem_cons.mp member with rfl | inRest
    · exact ⟨uri, parseUri_eq_ok.mp parsedFirst, own.1⟩
    · exact inductionHypothesis parsedRest own.2 other inRest

/-- The row of a removal, whose subjects are URIs of the provider. -/
theorem playlistRemove_row
    {entries : PlaylistEntries provider resolved.playlist}
    {request : PlaylistRemoveRequest} {removed : Operation}
    (succeeded : playlistRemove provider topology resolved entries request
      row = .ok (written, removed)) :
    ∃ subjectUris removedItems plan,
      removed = { row with
        kind := .playlistRemove, subjectUris := subjectUris,
        reversible := true,
        preState := some (.playlistRemove resolved.playlist.uri.asUri
          resolved.playlist.versionToken removedItems),
        reversalPlan := some plan, status := .succeeded } ∧
      UrisOf provider.scheme subjectUris := by
  obtain ⟨plan, built, executed⟩ := Except.bind_eq_ok.mp succeeded
  have sound := buildRemovePlan_sound built
  obtain ⟨_, _, _, _, _, _, _, own, _⟩ :=
    executePlaylistRemovePlan_eq_ok sound executed
  unfold executePlaylistRemovePlan at executed
  dsimp only at executed
  split at executed
  · cases executed
  · cases executed
  · cases executed
  · rename_i table postVersion applied
    cases executed
    refine ⟨_, _, _, rfl, ?_⟩
    cases request with
    | items uris =>
      simp only [buildRemovePlan, buildPlaylistRemovePlan] at built
      split at built
      · cases built
      · obtain ⟨itemUris, preflight, _⟩ := Except.bind_eq_ok.mp built
        obtain ⟨parsed, ownItems⟩ :=
          preflightPlaylistAddItems_eq_ok (liftRejection_eq_ok.mp preflight)
        exact urisOf_of_parseUris parsed ownItems
    | occurrences references =>
      intro value member
      dsimp only at member
      rw [sound.removed_eq, List.map_map, List.mem_map] at member
      obtain ⟨entry, inPlan, rfl⟩ := member
      exact ⟨entry.2, ResourceUri.parse_asUri entry.2,
        own entry (List.mem_reverse.mp inPlan)⟩

end

/-- A row that a recorded mutation left: it can be undone, and it carries the
ids and the time it was recorded with. -/
structure RecordedAs (context : RecordingContext) (row : Operation) :
    Prop where
  operationId : row.operationId = context.operationId
  receiptId : row.receiptId = some context.receiptId
  occurredAtMs : row.occurredAtMs = context.occurredAtMs
  offered : row.isOffered = true

theorem RecordedAs.of_succeeded {recorded : RecordedMutation}
    {context : RecordingContext}
    (offered : (recorded.succeededOperation context).isOffered = true) :
    RecordedAs context (recorded.succeededOperation context) where
  operationId := LogUpdate.rowAfterAll_operationId _ _ _
  receiptId := LogUpdate.rowAfterAll_receiptId _ _ _
  occurredAtMs := LogUpdate.rowAfterAll_occurredAtMs _ _ _
  offered := offered

theorem apply_recordedAs {service : MusicService} {reads : HandlerReads}
    {context : RecordingContext} {before changed : ServiceContent}
    {request : RedoableRequest} {row : Operation}
    (applied : service.apply reads context before request =
      some (changed, row)) : RecordedAs context row := by
  cases request with
  | library request =>
    obtain ⟨library, applies, rfl, rfl⟩ := apply_library_eq_some.mp applied
    obtain ⟨value, targets, _⟩ := LibraryRequest.apply_eq_ok.mp applies
    have valid := (request.succeededOperation_recorded targets context).1
    exact .of_succeeded (validateUndoable_eq_ok.mp valid).1
  | playlistAdd playlist uris =>
    obtain ⟨resolved, written, _, adds, rfl⟩ :=
      apply_playlistAdd_eq_some.mp applied
    rw [playlistAddItems_row adds]
    exact ⟨rfl, rfl, rfl, rfl⟩
  | playlistRemove playlist request =>
    obtain ⟨resolved, entries, written, _, _, removes, rfl⟩ :=
      apply_playlistRemove_eq_some.mp applied
    obtain ⟨_, _, _, rfl, _⟩ := playlistRemove_row removes
    exact ⟨rfl, rfl, rfl, rfl⟩
  | playlistCreate name uris =>
    simp only [MusicService.apply, Option.bind_eq_bind,
      Option.bind_eq_some_iff, Prod.exists] at applied
    obtain ⟨created, playlist, _, result⟩ := applied
    cases result
    apply RecordedAs.of_succeeded
    rw [createdOperation_eq]
    rfl

section

variable {topology : ProviderTopology}

theorem firstResource_mem {values : List String} {uri : ResourceUri}
    (first : firstResource values = some uri) :
    ∃ value ∈ values, ResourceUri.parse value = .ok uri := by
  induction values with
  | nil => cases first
  | cons value rest inductionHypothesis =>
    unfold firstResource at first
    split at first
    · rename_i parses
      cases first
      exact ⟨value, List.mem_cons_self, parses⟩
    · obtain ⟨other, member, parses⟩ := inductionHypothesis first
      exact ⟨other, List.mem_cons_of_mem _ member, parses⟩

/-- A row whose resources are routed has a seed, or needs none. -/
theorem operationReconciliationSeed_eq_ok {operation : Operation}
    (routed : ∀ value ∈ operation.reconciliationUris, ∀ uri,
      ResourceUri.parse value = .ok uri →
        (topology.providerForUri uri).isSome = true) :
    ∃ seed, topology.operationReconciliationSeed operation = .ok seed := by
  unfold ProviderTopology.operationReconciliationSeed
  cases operationReconciliationTarget operation.kind with
  | none => exact ⟨none, rfl⟩
  | some target =>
    dsimp only
    cases first : firstResource operation.reconciliationUris with
    | none => exact ⟨none, rfl⟩
    | some uri =>
      obtain ⟨value, member, parses⟩ := firstResource_mem first
      obtain ⟨provider, routes⟩ :=
        Option.isSome_iff_exists.mp (routed value member uri parses)
      simp only [routes]
      exact ⟨_, rfl⟩

theorem mem_reconciliationUris {operation : Operation} {value : String} :
    value ∈ operation.reconciliationUris ↔
      value ∈ operation.subjectUris ∨
        ∃ preState ∈ operation.preState, preState.playlistId? = some value := by
  simp [Operation.reconciliationUris, sortedResources,
    Option.bind_eq_some_iff]

theorem requireRouted_eq_ok {uri : ResourceUri} :
    requireRouted topology uri = .ok () ↔
      (topology.providerForUri uri).isSome = true := by
  unfold requireRouted
  split
  · rename_i routed
    simp [routed]
  · rename_i unrouted
    simp [unrouted]

theorem isSome_providerForUri_congr {first second : ResourceUri}
    (same : first.scheme = second.scheme)
    (routed : (topology.providerForUri second).isSome = true) :
    (topology.providerForUri first).isSome = true := by
  simpa only [ProviderTopology.providerForUri, same] using routed

/-- The row of a mutation on a playlist names that playlist and items of its
namespace. -/
theorem operationReconciliationSeed_of_playlist {operation : Operation}
    {playlist : ResourceUri} {preState : PreState}
    (routed : (topology.providerForUri playlist).isSome = true)
    (subjects : UrisOf playlist.scheme operation.subjectUris)
    (captured : operation.preState = some preState)
    (named : preState.playlistId? = some playlist.asUri) :
    ∃ seed, topology.operationReconciliationSeed operation = .ok seed := by
  apply operationReconciliationSeed_eq_ok
  intro value member uri parses
  rcases mem_reconciliationUris.mp member with subject | ⟨_, isState, isId⟩
  · obtain ⟨found, parsesFound, scheme⟩ := subjects value subject
    rw [parses] at parsesFound
    cases parsesFound
    exact isSome_providerForUri_congr scheme routed
  · rw [captured] at isState
    cases isState
    rw [named] at isId
    cases isId
    rw [ResourceUri.parse_asUri] at parses
    cases parses
    exact routed

end

theorem apply_seed {service : MusicService} {reads : HandlerReads}
    {context : RecordingContext} {before changed : ServiceContent}
    {request : RedoableRequest} {row : Operation}
    (applied : service.apply reads context before request =
      some (changed, row))
    (notCreate : ∀ name uris, request ≠ .playlistCreate name uris) :
    ∃ seed, service.topology.operationReconciliationSeed row = .ok seed := by
  cases request with
  | library request =>
    obtain ⟨library, applies, rfl, rfl⟩ := apply_library_eq_some.mp applied
    obtain ⟨value, targets, applies⟩ := LibraryRequest.apply_eq_ok.mp applies
    obtain ⟨uri, parsed, routed, _⟩ := applyUriMutation_eq_ok.mp applies
    obtain ⟨_, _, captured, subjects⟩ :=
      request.succeededOperation_recorded targets context
    apply operationReconciliationSeed_eq_ok
    intro other member found parses
    rcases mem_reconciliationUris.mp member with subject | ⟨_, isState, isId⟩
    · rw [subjects, List.mem_singleton] at subject
      rw [subject, parseUri_eq_ok.mp parsed] at parses
      cases parses
      exact requireRouted_eq_ok.mp routed
    · rw [captured] at isState
      cases isState
      cases isId
  | playlistAdd playlist uris =>
    obtain ⟨resolved, written, _, adds, rfl⟩ :=
      apply_playlistAdd_eq_some.mp applied
    obtain ⟨items, parsed, _, own, _⟩ := playlistAddItems_eq_ok adds
    rw [playlistAddItems_row adds]
    refine operationReconciliationSeed_of_playlist resolved.routed ?_ rfl rfl
    rw [resolved.ownScheme]
    exact urisOf_of_parseUris parsed own
  | playlistRemove playlist request =>
    obtain ⟨resolved, entries, written, _, _, removes, rfl⟩ :=
      apply_playlistRemove_eq_some.mp applied
    obtain ⟨_, _, _, rfl, subjects⟩ := playlistRemove_row removes
    refine operationReconciliationSeed_of_playlist resolved.routed ?_ rfl rfl
    rw [resolved.ownScheme]
    exact subjects
  | playlistCreate name uris => exact absurd rfl (notCreate name uris)

/-- What holds of the log of a history of forward mutations. -/
structure IsHistory (world : LoggedService) : Prop where
  offered : ∀ row ∈ world.operations.rows, row.isOffered = true
  ordered : world.operations.rows.Pairwise fun earlier later =>
    earlier.occurredAtMs ≤ later.occurredAtMs
  past : ∀ row ∈ world.operations.rows, row.occurredAtMs ≤ world.clockMs
  minted : ∀ row ∈ world.operations.rows,
    row.operationId.value < world.minted

section

variable {service : MusicService} {world next : LoggedService}
  {reads : StepReads}

/-- The rows a forward mutation leaves. -/
theorem forward_rows {request : RedoableRequest}
    (steps : world.forward service reads request = some next) :
    ∃ row, RecordedAs (world.context reads) row ∧
      next.operations.rows = world.operations.rows ++ [row] ∧
      next.requests = Function.update world.requests ⟨world.minted⟩
        (some request) ∧
      next.minted = world.minted + 1 ∧
      world.clockMs ≤ reads.occurredAtMs ∧
      next.clockMs = reads.occurredAtMs ∧
      service.apply reads.handler (world.context reads) world.content
        request = some (next.content, row) := by
  obtain ⟨content, row, recorded, applied, inserted, rfl⟩ :=
    forward_eq_some.mp steps
  obtain ⟨forwards, operations, insertion, rfl⟩ :=
    insertRow_eq_some.mp inserted
  exact ⟨row, apply_recordedAs applied,
    (SqlTable.insert?_eq_some.mp insertion).2, rfl, rfl, forwards, rfl,
    applied⟩

theorem IsHistory.forward (history : IsHistory world)
    {request : RedoableRequest}
    (steps : world.forward service reads request = some next) :
    IsHistory next := by
  obtain ⟨row, recorded, rows, _, mintedEq, forwards, clockEq, _⟩ :=
    forward_rows steps
  have rowTime : row.occurredAtMs = reads.occurredAtMs := recorded.occurredAtMs
  have rowId : row.operationId.value = world.minted := by
    rw [recorded.operationId]
    rfl
  constructor
  · intro other member
    rw [rows, List.mem_append, List.mem_singleton] at member
    rcases member with old | rfl
    · exact history.offered other old
    · exact recorded.offered
  · rw [rows, List.pairwise_append]
    refine ⟨history.ordered, List.pairwise_singleton _ _, ?_⟩
    intro earlier old later isNew
    rw [List.mem_singleton] at isNew
    subst isNew
    have := history.past earlier old
    omega
  · intro other member
    rw [rows, List.mem_append, List.mem_singleton] at member
    rcases member with old | rfl
    · have := history.past other old
      omega
    · omega
  · intro other member
    rw [rows, List.mem_append, List.mem_singleton] at member
    rcases member with old | rfl
    · have := history.minted other old
      omega
    · omega

/-- A log starts empty. -/
def LoggedService.IsFresh (world : LoggedService) : Prop :=
  world.operations = .empty

theorem LoggedService.IsFresh.isHistory (fresh : world.IsFresh) :
    IsHistory world := by
  have noRows : world.operations.rows = [] := by
    rw [fresh]
    rfl
  constructor <;> simp [noRows]

theorem isHistory_of_run {history : List (StepReads × RedoableRequest)}
    {initial : LoggedService} (fresh : initial.IsFresh)
    (runs : (historyMachine service).run initial history = some world) :
    IsHistory world :=
  (historyMachine service).run_preserves
    (fun _ _ _ holds steps => holds.forward steps) fresh.isHistory runs

end

/-- The log after some operations of a history were undone: their rows are
undone and otherwise as they were, and what was added is not undone. -/
structure UndoneFrom (base world : LoggedService)
    (undone : List OperationId) : Prop where
  kept : ∀ target ∉ undone, ∀ row, base.operations.get? target = some row →
    world.operations.get? target = some row
  marked : ∀ target ∈ undone, ∃ row issuer,
    base.operations.get? target = some row ∧
      world.operations.get? target = some
        { row with status := .undone, undoneByOpId := some issuer }
  added : ∀ row ∈ world.operations.rows,
    base.operations.get? row.operationId = none →
      row.status = .succeeded ∧ base.minted ≤ row.operationId.value
  minted : world.minted = base.minted + undone.length
  fresh : ∀ row ∈ world.operations.rows,
    row.operationId.value < world.minted
  requests : world.requests = base.requests

section

variable {service : MusicService} {world next : LoggedService}
  {reads : StepReads}

/-- The updates of one undo leave a row other than the undo's own alone,
except for the row that is undone. -/
theorem rowAfterAll_undo {issuer original : OperationId} {row : Operation}
    {finishedAtMs : Int} (other : row.operationId ≠ issuer) :
    LogUpdate.rowAfterAll issuer row
        [.subject original, .undone original,
          .finish .succeeded finishedAtMs none] =
      if row.operationId = original ∧ row.status = .succeeded then
        { row with status := .undone, undoneByOpId := some issuer }
      else row := by
  have linked : LogUpdate.rowAfter issuer (.subject original) row = row :=
    LogUpdate.rowAfter_of_ne issuer other
  have finished : ∀ marked : Operation, marked.operationId = row.operationId →
      LogUpdate.rowAfter issuer (.finish .succeeded finishedAtMs none)
        marked = marked := by
    intro marked same
    exact LogUpdate.rowAfter_of_ne issuer (same ▸ other)
  simp only [LogUpdate.rowAfterAll, linked]
  rw [finished _ (LogUpdate.rowAfter_operationId issuer _ row)]
  simp [LogUpdate.rowAfter, LogUpdate.target, LogUpdate.guard,
    LogUpdate.change]

/-- The undo's own row is finished. -/
theorem rowAfterAll_undo_own {issuer original : OperationId} {row : Operation}
    {finishedAtMs : Int} (own : row.operationId = issuer)
    (pending : row.status = .pending) (older : original ≠ issuer) :
    (LogUpdate.rowAfterAll issuer row
      [.subject original, .undone original,
        .finish .succeeded finishedAtMs none]).status = .succeeded := by
  subst own
  have admitted : row.isPending = true :=
    Operation.isPending_eq_true.mpr pending
  have linked : LogUpdate.rowAfter row.operationId (.subject original) row =
      { row with subjectOpId := some original } := if_pos ⟨rfl, admitted⟩
  have unmarked : LogUpdate.rowAfter row.operationId (.undone original)
      { row with subjectOpId := some original } =
        { row with subjectOpId := some original } :=
    LogUpdate.rowAfter_of_ne row.operationId (Ne.symm older)
  have finished : LogUpdate.rowAfter row.operationId
      (.finish .succeeded finishedAtMs none)
        { row with subjectOpId := some original } =
          { row with
            subjectOpId := some original, status := .succeeded,
            finishedAtMs := some finishedAtMs, errorMessage := none } :=
    if_pos ⟨rfl, admitted⟩
  simp only [LogUpdate.rowAfterAll, linked, unmarked, finished]

/-- What an undo that succeeded selected and left. -/
theorem undo_eq_some {operationId : OperationId} {force : Bool}
    (steps : world.undo service reads operationId force = some next) :
    ∃ selected pending operations,
      world.operations.get? operationId = some selected ∧
      service.undo world.content selected force = some next.content ∧
      pending.operationId = ⟨world.minted⟩ ∧ pending.status = .pending ∧
      world.operations.insert? pending = some operations ∧
      next.operations = LogUpdate.applyAll ⟨world.minted⟩ operations
        [.subject operationId, .undone operationId,
          .finish .succeeded reads.finishedAtMs none] ∧
      next.requests = world.requests ∧ next.minted = world.minted + 1 := by
  simp only [LoggedService.undo, LoggedService.start, Option.bind_eq_bind,
    Option.bind_eq_some_iff] at steps
  obtain ⟨selected, found, started, starts, content, undoes, result⟩ := steps
  cases result
  obtain ⟨_, operations, inserted, rfl⟩ := insertRow_eq_some.mp starts
  have sameId : selected.operationId = operationId :=
    SqlTable.key_of_get? found
  subst sameId
  exact ⟨selected, _, operations, found, undoes, rfl, rfl, inserted, rfl, rfl,
    rfl⟩

theorem undo_offered {content undone : ServiceContent} {operation : Operation}
    {force : Bool}
    (undoes : service.undo content operation force = some undone) :
    operation.isOffered = true := by
  simp only [MusicService.undo, Option.bind_eq_bind, Option.bind_eq_some_iff,
    Except.toOption_eq_some] at undoes
  obtain ⟨_, valid, _⟩ := undoes
  exact (validateUndoable_eq_ok.mp valid).1

/-- What an undo leaves under each id. -/
theorem get?_undo {operationId : OperationId} {force : Bool}
    (fresh : ∀ row ∈ world.operations.rows,
      row.operationId.value < world.minted)
    (steps : world.undo service reads operationId force = some next) :
    (∃ row, next.operations.get? ⟨world.minted⟩ = some row ∧
      row.status = .succeeded) ∧
    (∃ selected, world.operations.get? operationId = some selected ∧
      next.operations.get? operationId = some
        { selected with
          status := .undone, undoneByOpId := some ⟨world.minted⟩ }) ∧
    ∀ target, target ≠ ⟨world.minted⟩ → target ≠ operationId →
      next.operations.get? target = world.operations.get? target := by
  obtain ⟨selected, pending, operations, found, undoes, pendingId,
    isPending, inserted, tableEq, _⟩ := undo_eq_some steps
  have offered := Operation.isOffered_eq_true.mp (undo_offered undoes)
  obtain ⟨member, selectedId⟩ := SqlTable.get?_eq_some.mp found
  have older : operationId ≠ ⟨world.minted⟩ := by
    rintro rfl
    have := fresh selected member
    rw [selectedId] at this
    exact Nat.lt_irrefl _ this
  have inserts := SqlTable.get?_insert inserted
  rw [pendingId] at inserts
  refine ⟨?_, ⟨selected, found, ?_⟩, ?_⟩
  · rw [tableEq, LogUpdate.get?_applyAll, inserts, if_pos rfl]
    exact ⟨_, rfl, rowAfterAll_undo_own pendingId isPending older⟩
  · rw [tableEq, LogUpdate.get?_applyAll, inserts, if_neg older, found,
      Option.map_some, rowAfterAll_undo (selectedId ▸ older),
      if_pos ⟨selectedId, offered.2⟩]
  · intro target notNew notUndone
    rw [tableEq, LogUpdate.get?_applyAll, inserts, if_neg notNew]
    cases stored : world.operations.get? target with
    | none => rfl
    | some row =>
      have rowId : row.operationId = target := SqlTable.key_of_get? stored
      rw [Option.map_some, rowAfterAll_undo (rowId ▸ notNew),
        if_neg fun both => notUndone (rowId.symm.trans both.1)]

theorem UndoneFrom.refl
    (fresh : ∀ row ∈ world.operations.rows,
      row.operationId.value < world.minted) : UndoneFrom world world [] where
  kept _ _ _ stored := stored
  marked _ member := by cases member
  added row member absent := by
    rw [SqlTable.get?_eq_none] at absent
    exact absurd rfl (absent row member)
  minted := rfl
  fresh := fresh
  requests := rfl

/-- One more operation of the history is undone. -/
theorem UndoneFrom.undo {base : LoggedService} {undone : List OperationId}
    (sofar : UndoneFrom base world undone) {operationId : OperationId}
    {force : Bool} (notYet : operationId ∉ undone)
    (inBase : (base.operations.get? operationId).isSome = true)
    (steps : world.undo service reads operationId force = some next) :
    UndoneFrom base next (undone ++ [operationId]) := by
  obtain ⟨⟨own, ownStored, ownStatus⟩, ⟨selected, found, marked⟩, others⟩ :=
    get?_undo sofar.fresh steps
  obtain ⟨_, _, _, _, _, _, _, _, _, requestsEq, mintedEq⟩ :=
    undo_eq_some steps
  obtain ⟨original, originalStored⟩ := Option.isSome_iff_exists.mp inBase
  have notMinted : ∀ target row,
      world.operations.get? target = some row → target ≠ ⟨world.minted⟩ := by
    rintro target row stored rfl
    obtain ⟨member, rowId⟩ := SqlTable.get?_eq_some.mp stored
    have older := sofar.fresh row member
    rw [rowId] at older
    exact Nat.lt_irrefl _ older
  constructor
  · intro target notUndone row stored
    rw [List.mem_append, List.mem_singleton, not_or] at notUndone
    have storedNow := sofar.kept target notUndone.1 row stored
    rw [others target (notMinted target row storedNow) notUndone.2]
    exact storedNow
  · intro target isUndone
    rw [List.mem_append, List.mem_singleton] at isUndone
    rcases isUndone with before | rfl
    · obtain ⟨row, issuer, stored, storedNow⟩ := sofar.marked target before
      refine ⟨row, issuer, stored, ?_⟩
      rw [others target (notMinted target _ storedNow)
        fun same => notYet (same ▸ before)]
      exact storedNow
    · have same := sofar.kept target notYet original originalStored
      rw [found] at same
      cases same
      exact ⟨selected, _, originalStored, marked⟩
  · intro row member absent
    have stored := SqlTable.get?_eq_some.mpr ⟨member, rfl⟩
    by_cases isOwn : row.operationId = ⟨world.minted⟩
    · rw [isOwn, ownStored] at stored
      cases stored
      refine ⟨ownStatus, ?_⟩
      rw [isOwn, sofar.minted]
      exact Nat.le_add_right _ _
    · have notUndone : row.operationId ≠ operationId := by
        intro same
        rw [same, originalStored] at absent
        cases absent
      rw [others _ isOwn notUndone] at stored
      exact sofar.added row (SqlTable.get?_eq_some.mp stored).1 absent
  · rw [mintedEq, sofar.minted, List.length_append, List.length_singleton,
      Nat.add_assoc]
  · intro row member
    have stored := SqlTable.get?_eq_some.mpr ⟨member, rfl⟩
    rw [mintedEq]
    by_cases isOwn : row.operationId = ⟨world.minted⟩
    · rw [isOwn]
      exact Nat.lt_succ_self _
    · by_cases isUndone : row.operationId = operationId
      · have older := sofar.fresh selected (SqlTable.get?_eq_some.mp found).1
        rw [SqlTable.key_of_get? found, ← isUndone] at older
        exact Nat.lt_succ_of_lt older
      · rw [others _ isOwn isUndone] at stored
        exact Nat.lt_succ_of_lt
          (sofar.fresh row (SqlTable.get?_eq_some.mp stored).1)
  · exact requestsEq.trans sofar.requests

/-- All of the operations are undone. -/
theorem UndoneFrom.undoAll {base final : LoggedService}
    {undone : List OperationId} (sofar : UndoneFrom base world undone)
    {undos : List (OperationId × StepReads × Bool)}
    (inBase : ∀ undo ∈ undos,
      (base.operations.get? undo.1).isSome = true)
    (distinct : (undone ++ undos.map Prod.fst).Nodup)
    (undoes : LoggedService.undoAll service world undos = some final) :
    UndoneFrom base final (undone ++ undos.map Prod.fst) := by
  induction undos generalizing world undone with
  | nil =>
    cases undoes
    simpa using sofar
  | cons undo rest inductionHypothesis =>
    obtain ⟨operationId, reads, force⟩ := undo
    obtain ⟨middle, steps, undoesRest⟩ := Option.bind_eq_some_iff.mp undoes
    have regrouped : undone ++ ((operationId, reads, force) :: rest).map
        Prod.fst = (undone ++ [operationId]) ++ rest.map Prod.fst := by
      simp
    rw [regrouped] at distinct ⊢
    have notYet : operationId ∉ undone := by
      have apart := (List.nodup_append.mp
        (List.nodup_append.mp distinct).1).2.2
      intro member
      exact apart operationId member operationId (List.mem_singleton_self _) rfl
    rw [List.forall_mem_cons] at inBase
    exact inductionHypothesis (sofar.undo notYet inBase.1 steps) inBase.2
      distinct undoesRest

end

section

variable {base : LoggedService}

theorem IsHistory.lastReversible_eq (history : IsHistory base) (count : Nat) :
    base.lastReversible count =
      (base.operations.rows.map Operation.operationId).reverse.take count := by
  rw [LoggedService.lastReversible, List.filter_eq_self.mpr history.offered]

theorem IsHistory.lastReversible_nodup (history : IsHistory base)
    (count : Nat) : (base.lastReversible count).Nodup := by
  rw [history.lastReversible_eq]
  exact (List.nodup_reverse.mpr base.operations.keysNodup).sublist
    (List.take_sublist _ _)

theorem IsHistory.isSome_of_mem_lastReversible (history : IsHistory base)
    {count : Nat} {operationId : OperationId}
    (member : operationId ∈ base.lastReversible count) :
    (base.operations.get? operationId).isSome = true := by
  rw [history.lastReversible_eq] at member
  have inRows := List.mem_reverse.mp (List.mem_of_mem_take member)
  obtain ⟨row, isRow, rfl⟩ := List.mem_map.mp inRows
  rw [SqlTable.get?_eq_some.mpr ⟨isRow, rfl⟩]
  rfl

/-- The newest operation of a history is its last row, and none occurred
later. -/
theorem IsHistory.newest (history : IsHistory base) {count : Nat}
    {newest : OperationId} {older : List OperationId}
    (last : base.lastReversible count = newest :: older) :
    ∃ row, base.operations.rows.getLast? = some row ∧
      base.operations.get? newest = some row ∧
      ∀ other ∈ base.operations.rows,
        other.occurredAtMs ≤ row.occurredAtMs := by
  rw [history.lastReversible_eq] at last
  have ordered := history.ordered
  rcases List.eq_nil_or_concat base.operations.rows with none | ⟨rest, row, rows⟩
  · simp [none] at last
  · have same : row.operationId = newest := by
      rw [rows] at last
      cases count with
      | zero => simp at last
      | succ count => simp at last; exact last.1
    refine ⟨row, by simp [rows], ?_, ?_⟩
    · exact SqlTable.get?_eq_some.mpr ⟨by simp [rows], same⟩
    · intro other member
      rw [rows] at member ordered
      rw [List.concat_eq_append] at member ordered
      rcases List.mem_append.mp member with old | isLast
      · exact (List.pairwise_append.mp ordered).2.2 other old row
          (List.mem_singleton_self row)
      · rw [List.mem_singleton.mp isLast]

/-- An undone row is one of the operations that were undone. -/
theorem UndoneFrom.of_undone {world : LoggedService}
    {undone : List OperationId} (sofar : UndoneFrom base world undone)
    (history : IsHistory base) {row : Operation}
    (member : row ∈ world.operations.rows) (isUndone : row.status = .undone) :
    ∃ original issuer, original ∈ base.operations.rows ∧
      original.operationId ∈ undone ∧
      row = { original with
        status := .undone, undoneByOpId := some issuer } := by
  have stored := SqlTable.get?_eq_some.mpr ⟨member, rfl⟩
  cases original : base.operations.get? row.operationId with
  | none =>
    have := (sofar.added row member original).1
    rw [isUndone] at this
    cases this
  | some found =>
    obtain ⟨inBase, foundId⟩ := SqlTable.get?_eq_some.mp original
    by_cases marked : row.operationId ∈ undone
    · obtain ⟨other, issuer, otherStored, storedNow⟩ :=
        sofar.marked _ marked
      rw [stored] at storedNow
      rw [original] at otherStored
      cases otherStored
      exact ⟨found, issuer, inBase, foundId ▸ marked,
        Option.some.inj storedNow⟩
    · have kept := sofar.kept _ marked found original
      rw [stored] at kept
      cases kept
      have offered := Operation.isOffered_eq_true.mp (history.offered row inBase)
      rw [offered.2] at isUndone
      cases isUndone

/-- The row of the newest operation is the one the default redo may select,
when few enough rows are newer. -/
theorem UndoneFrom.isLastUndone {world : LoggedService}
    {undone : List OperationId} (sofar : UndoneFrom base world undone)
    (history : IsHistory base) {newest : OperationId} {row : Operation}
    (stored : base.operations.get? newest = some row)
    (latest : ∀ other ∈ base.operations.rows,
      other.occurredAtMs ≤ row.occurredAtMs)
    (isUndone : newest ∈ undone)
    (page : (world.operations.rows.countP fun other =>
      row.occurredAtMs < other.occurredAtMs) < redoLookback) :
    ∃ issuer, world.operations.IsLastUndone
      { row with status := .undone, undoneByOpId := some issuer } := by
  obtain ⟨found, issuer, storedBase, storedNow⟩ := sofar.marked newest isUndone
  rw [stored] at storedBase
  cases storedBase
  refine ⟨issuer, (SqlTable.get?_eq_some.mp storedNow).1, rfl, ?_, page⟩
  intro other member otherUndone
  obtain ⟨original, _, inBase, _, rfl⟩ :=
    sofar.of_undone history member otherUndone
  exact latest original inBase

/-- With two operations undone, the redo does not select the one that was
undone last. -/
theorem UndoneFrom.not_redoesInOrder {service : MusicService}
    {world : LoggedService} {undone : List OperationId}
    (sofar : UndoneFrom base world undone) (history : IsHistory base)
    {newest expected : OperationId} {row : Operation}
    (stored : base.operations.get? newest = some row)
    (latest : ∀ other ∈ base.operations.rows,
      other.occurredAtMs ≤ row.occurredAtMs)
    (isUndone : newest ∈ undone) (different : expected ≠ newest)
    (target : ServiceContent) (rest : List OperationId) :
    ¬ LoggedService.RedoesInOrder service target world (expected :: rest) := by
  rintro ⟨⟨selected, isSelected⟩, selections⟩
  obtain ⟨member, selectedUndone, _, page⟩ := isSelected
  obtain ⟨original, _, inBase, _, rfl⟩ :=
    sofar.of_undone history member selectedUndone
  have fewer : (world.operations.rows.countP fun other =>
      row.occurredAtMs < other.occurredAtMs) < redoLookback := by
    refine lt_of_le_of_lt (List.countP_mono_left ?_) page
    intro other _ newer
    have := latest original inBase
    simp only [decide_eq_true_eq] at newer ⊢
    omega
  obtain ⟨issuer, isNewest⟩ :=
    sofar.isLastUndone history stored latest isUndone fewer
  have rowId : row.operationId = newest := SqlTable.key_of_get? stored
  apply different
  rw [← (selections _ isNewest).1]
  exact rowId

end

/-- What the replay of a redo is recorded with: the redo's own row takes the
next id. -/
def LoggedService.replayContext (world : LoggedService) (replay : StepReads) :
    RecordingContext where
  operationId := ⟨world.minted + 1⟩
  receiptId := ⟨world.minted + 1⟩
  source := replay.source
  occurredAtMs := replay.occurredAtMs
  finishedAtMs := replay.finishedAtMs

section

variable {service : MusicService} {world next : LoggedService}
  {own replay : StepReads} {selected : Operation}

theorem redo_eq_some
    (steps : world.redo service own replay selected = some next) :
    ∃ receiptId request row, selected.receiptId = some receiptId ∧
      world.requests receiptId = some request ∧
      service.apply replay.handler (world.replayContext replay) world.content
        request = some (next.content, row) := by
  unfold LoggedService.redo at steps
  split at steps
  · simp only [LoggedService.start, Option.bind_eq_bind,
      Option.bind_eq_some_iff] at steps
    obtain ⟨receiptId, hasReceipt, request, stored, _, _, started, starts,
      replayed, replays, result⟩ := steps
    cases result
    obtain ⟨_, operations, _, rfl⟩ := insertRow_eq_some.mp starts
    obtain ⟨row, _, _, _, _, _, _, applied⟩ := forward_rows replays
    exact ⟨receiptId, request, row, hasReceipt, stored, applied⟩
  · cases steps

theorem insertRow_succeeds {reads : StepReads} {row : Operation}
    (forwards : world.clockMs ≤ reads.occurredAtMs)
    (free : world.operations.get? row.operationId = none) :
    ∃ operations, world.operations.insert? row = some operations ∧
      world.insertRow reads row = some { world with
        operations := operations, minted := world.minted + 1,
        clockMs := reads.occurredAtMs } := by
  have fresh : row.operationId ∉
      world.operations.rows.map Operation.operationId := by
    intro member
    obtain ⟨other, isRow, sameId⟩ := List.mem_map.mp member
    exact SqlTable.get?_eq_none.mp free other isRow sameId
  have inserted : ∃ operations,
      world.operations.insert? row = some operations := by
    rw [SqlTable.insert?, dif_pos fresh]
    exact ⟨_, rfl⟩
  obtain ⟨operations, inserts⟩ := inserted
  exact ⟨operations, inserts,
    insertRow_eq_some.mpr ⟨forwards, operations, inserts, rfl⟩⟩

theorem forward_succeeds {reads : StepReads} {request : RedoableRequest}
    {content : ServiceContent} {row : Operation}
    (forwards : world.clockMs ≤ reads.occurredAtMs)
    (applied : service.apply reads.handler (world.context reads) world.content
      request = some (content, row))
    (free : world.operations.get? row.operationId = none) :
    ∃ next, world.forward service reads request = some next ∧
      next.content = content := by
  obtain ⟨_, _, records⟩ := insertRow_succeeds forwards free
  exact ⟨_, forward_eq_some.mpr ⟨content, row, _, applied, records, rfl⟩, rfl⟩

theorem redo_succeeds {receiptId : ReceiptId} {request : RedoableRequest}
    {seed : Option ReconciliationSeed} {content : ServiceContent}
    {row : Operation}
    (fresh : ∀ row ∈ world.operations.rows,
      row.operationId.value < world.minted)
    (isSelected : world.operations.IsLastUndone selected)
    (hasReceipt : selected.receiptId = some receiptId)
    (stored : world.requests receiptId = some request)
    (seeded : service.topology.operationReconciliationSeed selected =
      .ok seed)
    (ownTime : world.clockMs ≤ own.occurredAtMs)
    (replayTime : own.occurredAtMs ≤ replay.occurredAtMs)
    (applied : service.apply replay.handler (world.replayContext replay)
      world.content request = some (content, row)) :
    ∃ next, world.redo service own replay selected = some next ∧
      next.content = content := by
  have unused : ∀ number, world.minted ≤ number →
      world.operations.get? ⟨number⟩ = none := by
    intro number later
    rw [SqlTable.get?_eq_none]
    intro other member sameId
    have older := fresh other member
    rw [sameId] at older
    exact absurd older (by simpa using later)
  have freePending : world.operations.get?
      ((recordRedo (.opsRedo none) selected).pendingOperation ⟨world.minted⟩
        ⟨world.minted⟩ own.source own.occurredAtMs).operationId = none :=
    unused _ le_rfl
  obtain ⟨operations, inserts, starts⟩ :=
    insertRow_succeeds ownTime freePending
  have rowId := (apply_recordedAs applied).operationId
  have freeRow : (LogUpdate.applyAll ⟨world.minted⟩ operations
      [.subject selected.operationId]).get? row.operationId = none := by
    rw [rowId, LogUpdate.get?_applyAll, SqlTable.get?_insert inserts,
      if_neg (by simp [LoggedService.replayContext,
        RecordedMutation.pendingOperation]), Option.map_eq_none_iff]
    exact unused _ (Nat.le_succ _)
  obtain ⟨replayed, replays, contentEq⟩ :=
    @forward_succeeds service
      (LoggedService.update { world with
        operations := operations, minted := world.minted + 1,
        clockMs := own.occurredAtMs } ⟨world.minted⟩
          [.subject selected.operationId])
      replay request content row replayTime applied freeRow
  refine ⟨replayed.update ⟨world.minted⟩ [.redone selected.operationId,
    .finish .succeeded own.finishedAtMs none], ?_, contentEq⟩
  rw [LoggedService.redo, if_pos isSelected]
  simp only [hasReceipt, stored, seeded, LoggedService.start, starts,
    Except.toOption, Option.bind_eq_bind, Option.bind_some]
  exact Option.bind_eq_some_iff.mpr ⟨replayed, replays, rfl⟩

end

/-- At most one row has a given id. -/
theorem countP_le_one {operations : OperationTable} {target : OperationId}
    {property : Operation → Bool}
    (only : ∀ row ∈ operations.rows, property row = true →
      row.operationId = target) :
    operations.rows.countP property ≤ 1 := by
  have fewer : operations.rows.countP property ≤
      operations.rowsAffected target fun _ => true := by
    apply List.countP_mono_left
    intro row member holds
    simp [only row member holds]
  refine le_trans fewer ?_
  rw [SqlTable.rowsAffected_eq]
  split <;> omega

/-- After a single undo only the undo itself is newer. -/
theorem UndoneFrom.page {base world : LoggedService} {newest : OperationId}
    (sofar : UndoneFrom base world [newest]) {row : Operation}
    (latest : ∀ other ∈ base.operations.rows,
      other.occurredAtMs ≤ row.occurredAtMs) :
    (world.operations.rows.countP fun other =>
      row.occurredAtMs < other.occurredAtMs) < redoLookback := by
  have atMostOne : (world.operations.rows.countP fun other =>
      decide (row.occurredAtMs < other.occurredAtMs)) ≤ 1 := by
    refine @countP_le_one _ ⟨base.minted⟩ _ ?_
    intro other member newer
    rw [decide_eq_true_eq] at newer
    have otherStored := SqlTable.get?_eq_some.mpr ⟨member, rfl⟩
    cases original : base.operations.get? other.operationId with
    | none =>
      obtain ⟨_, notOlder⟩ := sofar.added other member original
      have notNewer := sofar.fresh other member
      rw [sofar.minted, List.length_singleton] at notNewer
      have : other.operationId.value = base.minted := by omega
      cases same : other.operationId with
      | mk value =>
        rw [same] at this
        exact congrArg OperationId.mk this
    | some found =>
      have inBase := (SqlTable.get?_eq_some.mp original).1
      have notNewer := latest found inBase
      by_cases isNewest : other.operationId ∈ [newest]
      · obtain ⟨_, _, foundStored, storedNow⟩ := sofar.marked _ isNewest
        rw [original] at foundStored
        cases foundStored
        rw [otherStored] at storedNow
        cases storedNow
        exact absurd newer (not_lt.mpr notNewer)
      · have kept := sofar.kept _ isNewest found original
        rw [otherStored] at kept
        cases kept
        exact absurd newer (not_lt.mpr notNewer)
  exact lt_of_le_of_lt atMostOne (by decide)

/-- After a single undo, the redo restores the content exactly when the
request replays. -/
theorem redoesInOrder_single_iff {service : MusicService}
    {before base world : LoggedService} {reads undoReads : StepReads}
    {request : RedoableRequest} {force : Bool} (history : IsHistory before)
    (steps : before.forward service reads request = some base)
    (undoes : base.undo service undoReads ⟨before.minted⟩ force =
      some world) :
    LoggedService.RedoesInOrder service base.content world
        [⟨before.minted⟩] ↔
      request.ReplaysAfterUndo service before.content := by
  obtain ⟨row, recorded, rows, requestsEq, mintedEq, _, _, applied⟩ :=
    forward_rows steps
  have baseHistory : IsHistory base := history.forward steps
  have stored : base.operations.get? ⟨before.minted⟩ = some row := by
    rw [SqlTable.get?_eq_some, rows]
    exact ⟨by simp, recorded.operationId⟩
  have latest : ∀ other ∈ base.operations.rows,
      other.occurredAtMs ≤ row.occurredAtMs := by
    have ordered := baseHistory.ordered
    rw [rows] at ordered ⊢
    intro other member
    rcases List.mem_append.mp member with old | isLast
    · exact (List.pairwise_append.mp ordered).2.2 other old row
        (List.mem_singleton_self row)
    · rw [List.mem_singleton.mp isLast]
  have sofar : UndoneFrom base world [⟨before.minted⟩] := by
    refine (UndoneFrom.refl baseHistory.minted).undo (by simp) ?_ undoes
    rw [stored]
    rfl
  obtain ⟨selected, _, _, found, undoneContent, _⟩ := undo_eq_some undoes
  rw [stored] at found
  cases found
  obtain ⟨issuer, isNewest⟩ := sofar.isLastUndone baseHistory stored latest
    (List.mem_singleton_self _) (sofar.page latest)
  have requested : world.requests ⟨before.minted⟩ = some request := by
    rw [sofar.requests, requestsEq, Function.update_self]
  have onlyRow : ∀ selected, world.operations.IsLastUndone selected →
      ∃ issuer, selected = { row with
        status := .undone, undoneByOpId := some issuer } := by
    intro selected isSelected
    obtain ⟨original, issuer, inBase, isLast, rfl⟩ :=
      sofar.of_undone baseHistory isSelected.1 isSelected.2.1
    have same := base.operations.row_eq_of_key_eq inBase
      (SqlTable.get?_eq_some.mp stored).1
        ((List.mem_singleton.mp isLast).trans recorded.operationId.symm)
    exact ⟨issuer, by rw [same]⟩
  constructor
  · rintro ⟨_, selections⟩
    have replays : service.Replays
        (world.replayContext ⟨reads.handler, .cli, world.clockMs, 0⟩)
        world.content base.content request := by
      intro handler
      obtain ⟨next, redoes, same⟩ := (selections _ isNewest).2
        ⟨handler, .cli, world.clockMs, 0⟩ ⟨handler, .cli, world.clockMs, 0⟩
        le_rfl le_rfl
      obtain ⟨receiptId, replayed, again, hasReceipt, isRequest, applies⟩ :=
        redo_eq_some redoes
      rw [recorded.receiptId] at hasReceipt
      cases hasReceipt
      have sameRequest := requested.symm.trans isRequest
      cases sameRequest
      exact ⟨next.content, again, applies, same⟩
    exact (replays_iff applied undoneContent).mp replays
  · intro safe
    refine ⟨⟨_, isNewest⟩, ?_⟩
    intro selected isSelected
    obtain ⟨issuer, rfl⟩ := onlyRow selected isSelected
    refine ⟨recorded.operationId, ?_⟩
    intro own replay ownTime replayTime
    have replays : service.Replays (world.replayContext replay) world.content
        base.content request := (replays_iff applied undoneContent).mpr safe
    obtain ⟨again, _, applies, same⟩ := replays replay.handler
    have notCreate : ∀ name uris, request ≠ .playlistCreate name uris := by
      rintro name uris rfl
      exact safe
    obtain ⟨seed, seeded⟩ := apply_seed applied notCreate
    obtain ⟨next, redoes, contentEq⟩ := redo_succeeds sofar.fresh isSelected
      recorded.receiptId requested seeded ownTime replayTime applies
    rw [← contentEq] at same
    exact ⟨next, redoes, same⟩

/-- The last mutation of a history replays on what it was first applied
to. -/
def ReplaysLast (service : MusicService) (initial : LoggedService)
    (history : List (StepReads × RedoableRequest)) : Prop :=
  ∀ earlier last before, history = earlier ++ [last] →
    (historyMachine service).run initial earlier = some before →
      last.2.ReplaysAfterUndo service before.content

theorem replaysLast_concat_iff {service : MusicService}
    {initial before : LoggedService}
    {earlier : List (StepReads × RedoableRequest)}
    {last : StepReads × RedoableRequest}
    (runs : (historyMachine service).run initial earlier = some before) :
    ReplaysLast service initial (earlier ++ [last]) ↔
      last.2.ReplaysAfterUndo service before.content := by
  constructor
  · intro replays
    exact replays earlier last before rfl runs
  · intro replays other otherLast otherBefore same otherRuns
    obtain ⟨rfl, sameLast⟩ := List.append_inj' same rfl
    cases sameLast
    rw [runs] at otherRuns
    cases otherRuns
    exact replays

/-- A single undo of the last operation of a history. -/
theorem redoesInOrder_last_iff {service : MusicService}
    {initial world undone : LoggedService} (fresh : initial.IsFresh)
    {history : List (StepReads × RedoableRequest)}
    (runs : (historyMachine service).run initial history = some world)
    {operationId : OperationId} {undoReads : StepReads} {force : Bool}
    (isLast : world.lastReversible 1 = [operationId])
    (undoes : world.undo service undoReads operationId force = some undone) :
    LoggedService.RedoesInOrder service world.content undone [operationId] ↔
      ReplaysLast service initial history := by
  obtain ⟨row, lastRow, stored, _⟩ :=
    (isHistory_of_run fresh runs).newest isLast
  rcases List.eq_nil_or_concat history with rfl | ⟨earlier, step, rfl⟩
  · cases runs
    rw [fresh] at stored
    cases stored
  · rw [List.concat_eq_append] at runs ⊢
    obtain ⟨before, runsEarlier, runsLast⟩ :=
      (historyMachine service).run_append_eq_some.mp runs
    obtain ⟨_, steps, ends⟩ :=
      (historyMachine service).run_cons_eq_some.mp runsLast
    cases ends
    have steps : before.forward service step.1 step.2 = some world := steps
    obtain ⟨newRow, recorded, rows, _⟩ := forward_rows steps
    have sameId : operationId = ⟨before.minted⟩ := by
      rw [rows, List.getLast?_concat, Option.some.injEq] at lastRow
      rw [← SqlTable.key_of_get? stored, ← lastRow]
      exact recorded.operationId
    subst sameId
    rw [replaysLast_concat_iff runsEarlier]
    exact redoesInOrder_single_iff (isHistory_of_run fresh runsEarlier) steps
      undoes

/-- After the last operations of a history were undone newest first, as many
redos without a target re-apply them in the opposite order and restore the
content exactly when at most one was undone, and that one replays. -/
theorem redo_restores_iff (service : MusicService)
    (initial world undone : LoggedService) (fresh : initial.IsFresh)
    (history : List (StepReads × RedoableRequest))
    (runs : (historyMachine service).run initial history = some world)
    (undos : List (OperationId × StepReads × Bool))
    (newestFirst : undos.map Prod.fst = world.lastReversible undos.length)
    (undoes : LoggedService.undoAll service world undos = some undone) :
    LoggedService.RedoesInOrder service world.content undone
        (undos.map Prod.fst).reverse ↔
      undos = [] ∨ undos.length = 1 ∧ ReplaysLast service initial history := by
  have isHistory := isHistory_of_run fresh runs
  match undos with
  | [] =>
    cases undoes
    exact iff_of_true ⟨rfl, fun _ => rfl⟩ (.inl rfl)
  | [(operationId, reads, force)] =>
    obtain ⟨_, steps, ends⟩ := Option.bind_eq_some_iff.mp undoes
    cases ends
    simp only [reduceCtorEq, List.length_singleton, true_and, false_or]
    exact redoesInOrder_last_iff fresh runs newestFirst.symm steps
  | newest :: second :: rest =>
    refine iff_of_false ?_ (by simp)
    have distinct : ((newest :: second :: rest).map Prod.fst).Nodup := by
      rw [newestFirst]
      exact isHistory.lastReversible_nodup _
    have inBase : ∀ undo ∈ newest :: second :: rest,
        (world.operations.get? undo.1).isSome = true := by
      intro undo member
      apply isHistory.isSome_of_mem_lastReversible
      rw [← newestFirst]
      exact List.mem_map_of_mem member
    have sofar : UndoneFrom world undone
        ([] ++ (newest :: second :: rest).map Prod.fst) :=
      (UndoneFrom.refl isHistory.minted).undoAll inBase distinct undoes
    obtain ⟨row, _, stored, latest⟩ := isHistory.newest newestFirst.symm
    -- The operation that was undone last comes first among the redos.
    obtain ⟨middle, oldest, split⟩ : ∃ middle oldest,
        (second :: rest).map Prod.fst = middle ++ [oldest] :=
      ⟨_, _, (List.dropLast_append_getLast (by simp)).symm⟩
    have different : oldest ≠ newest.1 := by
      rw [List.map_cons, split, List.nodup_cons] at distinct
      rintro rfl
      exact distinct.1 (by simp)
    rw [List.map_cons, split, List.reverse_cons, List.reverse_append]
    exact sofar.not_redoesInOrder isHistory stored latest (by simp) different
      world.content _

/-- Playlists numbered in unary. -/
def fakePlaylistId (number : Nat) : String :=
  "playlist-" ++ String.ofList (List.replicate number '1')

theorem toList_fakePlaylistId (number : Nat) :
    (fakePlaylistId number).toList =
      "playlist-".toList ++ List.replicate number '1' := by
  simp [fakePlaylistId]

theorem fakePlaylistId_valid (number : Nat) :
    validateBareId (fakePlaylistId number) = .ok () := by
  have named : ("playlist-".toList.all isBareIdCharacter) = true := by decide
  have numbered :
      ((List.replicate number '1').all isBareIdCharacter) = true := by
    rw [List.all_replicate]
    split
    · rfl
    · decide
  unfold validateBareId
  rw [toList_fakePlaylistId, List.all_append, named, numbered]
  rfl

def fakeService : MusicService where
  versioned := fakeProvider
  libraryProvider := fakeLibraryProvider
  topology := fakeTopology
  media uri := MediaItem.stub uri.asUri
  named := named_stub
  resolvePlaylist uris text := uris.find? fun uri => uri.asUri = text
  acceptsName name := name ≠ ""
  createdUri number :=
    ⟨fakeProvider.scheme, .playlist, fakePlaylistId number,
      fakePlaylistId_valid number⟩
  createdUri_injective := by
    intro first second same
    have sameIds : fakePlaylistId first = fakePlaylistId second :=
      congrArg ResourceUri.id same
    have lengths := congrArg (fun id => id.toList.length) sameIds
    simpa [toList_fakePlaylistId] using lengths
  initialToken := some "v1"

/-- An empty log over an empty library. -/
def emptyLog : LoggedService where
  content := { library := ∅, playlists := .empty, nextPlaylist := 0 }
  operations := .empty
  requests _ := none
  minted := 0
  clockMs := 0

/-- What a command line request reads at a time. -/
def readsAt (ms : Int) : StepReads where
  handler := idleReads
  source := .cli
  occurredAtMs := ms
  finishedAtMs := ms

def saveOne : RedoableRequest :=
  .library (.save (some "fake:track:one") false)

def unsaveOne : RedoableRequest := .library (.unsave "fake:track:one")

/-- A save that is undone once is restored by the redo. -/
theorem redo_restores_save :
    ∃ world undone,
      (historyMachine fakeService).run emptyLog [(readsAt 1, saveOne)] =
        some world ∧
      LoggedService.undoAll fakeService world [(⟨0⟩, readsAt 2, false)] =
        some undone ∧
      LoggedService.RedoesInOrder fakeService world.content undone
        [⟨0⟩] := by
  refine ⟨_, _, rfl, rfl, ?_⟩
  refine (redo_restores_iff fakeService emptyLog _ _ rfl
    [(readsAt 1, saveOne)] rfl [(⟨0⟩, readsAt 2, false)] rfl rfl).mpr ?_
  exact .inr ⟨rfl,
    (@replaysLast_concat_iff fakeService emptyLog _ [] _ rfl).mpr rfl⟩

/-- After a save and an unsave of one URI are undone, the redo picks the
unsave first, and the URI stays saved. -/
theorem redo_reorders_unsave :
    ∃ world undone first unsaved second final,
      (historyMachine fakeService).run emptyLog
        [(readsAt 1, saveOne), (readsAt 2, unsaveOne)] = some world ∧
      LoggedService.undoAll fakeService world
        [(⟨1⟩, readsAt 3, false), (⟨0⟩, readsAt 4, false)] = some undone ∧
      undone.operations.get? ⟨1⟩ = some first ∧
      undone.redo fakeService (readsAt 5) (readsAt 5) first = some unsaved ∧
      unsaved.operations.get? ⟨0⟩ = some second ∧
      unsaved.redo fakeService (readsAt 6) (readsAt 6) second = some final ∧
      world.content.library = ∅ ∧
      final.content.library = {fakeTrack "one" (by decide)} ∧
      ¬ LoggedService.RedoesInOrder fakeService world.content undone
        [⟨0⟩, ⟨1⟩] := by
  have scenario : ((do
      let world ← (historyMachine fakeService).run emptyLog
        [(readsAt 1, saveOne), (readsAt 2, unsaveOne)]
      let undone ← LoggedService.undoAll fakeService world
        [(⟨1⟩, readsAt 3, false), (⟨0⟩, readsAt 4, false)]
      let first ← undone.operations.get? ⟨1⟩
      let unsaved ← undone.redo fakeService (readsAt 5) (readsAt 5) first
      let second ← unsaved.operations.get? ⟨0⟩
      let final ← unsaved.redo fakeService (readsAt 6) (readsAt 6) second
      return (world.content.library, final.content.library)) :
        Option (Finset ResourceUri × Finset ResourceUri)) =
      some (∅, {fakeTrack "one" (by decide)}) := by
    decide +kernel
  simp only [Option.bind_eq_bind, Option.bind_eq_some_iff, Option.pure_def,
    Option.some.injEq, Prod.mk.injEq] at scenario
  obtain ⟨world, runs, undone, undoes, first, isFirst, unsaved, redoesFirst,
    second, isSecond, final, redoesSecond, before, after⟩ := scenario
  refine ⟨world, undone, first, unsaved, second, final, runs, undoes, isFirst,
    redoesFirst, isSecond, redoesSecond, before, after, ?_⟩
  rintro ⟨_, selections⟩
  have isSelected : undone.operations.IsLastUndone first := by
    unfold LoggedService.redo at redoesFirst
    split at redoesFirst
    · assumption
    · cases redoesFirst
  have expected := (selections first isSelected).1
  rw [SqlTable.key_of_get? isFirst] at expected
  cases expected

end Spotuify
