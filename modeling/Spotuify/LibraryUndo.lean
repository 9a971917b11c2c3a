import Spotuify.MutationEffects
import Spotuify.PlaylistAddUndo
import Mathlib.Data.Finset.Basic

/-!
# Undoing a library save or unsave

A save always records that its URI was not saved before, and an unsave that it
was.  Neither asks the provider, so the reversal plan follows from the request
alone and is right for one of the two possible prior memberships.
-/

namespace Spotuify

/-- A provider whose saves and unsaves are set insertion and removal.  What it
refuses (a foreign namespace, a kind it does not save, unknown media) it
refuses in both directions. -/
structure LibraryProvider where
  refusal : ResourceUri → Option ProviderError
  maximumUris : Nat

namespace LibraryProvider

variable (provider : LibraryProvider)

def ensureAccepted : List ResourceUri → Except ProviderError Unit
  | [] => .ok ()
  | uri :: rest =>
    match provider.refusal uri with
    | some error => .error error
    | none => ensureAccepted rest

def ensureBatch (count : Nat) : Except ProviderError Unit :=
  if count > provider.maximumUris then
    .error (.invalidInput "uris"
      ("batch size " ++ toString count ++ " exceeds provider maximum " ++
        toString provider.maximumUris))
  else
    .ok ()

/-- Apply a mutation that edits the saved set. -/
def applyLibraryMutation (saved : Finset ResourceUri) :
    Mutation → Option (Except ProviderError (Finset ResourceUri))
  | .librarySave uris => some do
    provider.ensureBatch uris.length
    provider.ensureAccepted uris
    return uris.foldl (fun library uri => insert uri library) saved
  | .libraryUnsave uris => some do
    provider.ensureBatch uris.length
    provider.ensureAccepted uris
    return uris.foldl Finset.erase saved
  | _ => none

end LibraryProvider

/-- Why a library mutation or its undo stops. -/
inductive LibraryFailure where
  | nothingPlaying
  | uri (error : ReversalError)
  | undo (error : UndoError)
  | provider (error : ProviderError)
  | notALibraryMutation (call : ReversalCall)

section

variable (provider : LibraryProvider) (topology : ProviderTopology)

def applyLibraryCall (saved : Finset ResourceUri) (mutation : Mutation) :
    Except LibraryFailure (Finset ResourceUri) :=
  match provider.applyLibraryMutation saved mutation with
  | none => .error (.notALibraryMutation (.mutation mutation))
  | some result => result.mapError .provider

/-- `apply_uri_mutation`. -/
def applyUriMutation (saved : Finset ResourceUri) (value : String)
    (mutation : ResourceUri → Mutation) :
    Except LibraryFailure (Finset ResourceUri) := do
  let uri ← (parseUri value).mapError .uri
  (requireRouted topology uri).mapError .uri
  applyLibraryCall provider saved (mutation uri)

/-- The two ways to write the saved set. -/
inductive LibraryWrite where
  | save
  | unsave
  deriving DecidableEq

namespace LibraryWrite

def opposite : LibraryWrite → LibraryWrite
  | .save => .unsave
  | .unsave => .save

def mutation (uri : ResourceUri) : LibraryWrite → Mutation
  | .save => .librarySave [uri]
  | .unsave => .libraryUnsave [uri]

/-- The saved set a write leaves. -/
def write (saved : Finset ResourceUri) (uri : ResourceUri) :
    LibraryWrite → Finset ResourceUri
  | .save => insert uri saved
  | .unsave => saved.erase uri

/-- The membership a write claims to have found. -/
def priorWasSaved : LibraryWrite → Bool
  | .save => false
  | .unsave => true

/-- The reversal plan that is recorded with a write. -/
def reversalPlan (value : String) : LibraryWrite → ReversalPlan
  | .save => .libraryUnsave value
  | .unsave => .librarySave value none

/-- Whether a write changes the membership of its URI. -/
def Changes (saved : Finset ResourceUri) (uri : ResourceUri) :
    LibraryWrite → Prop
  | .save => uri ∉ saved
  | .unsave => uri ∈ saved

end LibraryWrite

/-- The two library requests. -/
inductive LibraryRequest where
  | save (uri : Option String) (current : Bool)
  | unsave (uri : String)
  deriving DecidableEq

namespace LibraryRequest

/-- What the handler of a library request records. -/
def recorded (reads : HandlerReads) : LibraryRequest → RecordedMutation
  | .save uri current =>
    reads.librarySave (.librarySave uri current) uri current
  | .unsave uri => HandlerReads.libraryUnsave (.libraryUnsave uri) uri

/-- The URI a request acts on. -/
def target (reads : HandlerReads) : LibraryRequest → Option String
  | .save uri current => reads.resolvedSave uri current
  | .unsave uri => some uri

def libraryWrite : LibraryRequest → LibraryWrite
  | .save .. => .save
  | .unsave _ => .unsave

/-- The remote half of a request's body. -/
def apply (reads : HandlerReads) (saved : Finset ResourceUri)
    (request : LibraryRequest) :
    Except LibraryFailure (Finset ResourceUri) :=
  match request.target reads with
  | none => .error .nothingPlaying
  | some value =>
    applyUriMutation provider topology saved value
      fun uri => request.libraryWrite.mutation uri

end LibraryRequest

/-- `undo_single` on a library plan. -/
def undoLibraryOperation (saved : Finset ResourceUri) (operation : Operation)
    (force : Bool) : Except LibraryFailure (Finset ResourceUri) := do
  (validateUndoable operation).mapError .undo
  match operation.reversalPlan with
  | none => .error (.undo (.missingReversalPlan operation.operationId))
  | some plan => do
    (checkVersionToken plan (fun _ => none) force).mapError .undo
    match ← (reversalCall topology plan).mapError .uri with
    | .mutation mutation => applyLibraryCall provider saved mutation
    | .transfer deviceId target =>
      .error (.notALibraryMutation (.transfer deviceId target))

end

/-- When and as whose an operation is recorded. -/
structure RecordingContext where
  operationId : OperationId
  receiptId : ReceiptId
  source : OperationSource
  occurredAtMs : Int
  finishedAtMs : Int

/-- The row of a mutation whose body ran to its end. -/
def RecordedMutation.succeededOperation (recorded : RecordedMutation)
    (context : RecordingContext) : Operation :=
  LogUpdate.rowAfterAll context.operationId
    (recorded.pendingOperation context.operationId context.receiptId
      context.source context.occurredAtMs)
    (recorded.body.flatMap BodyStep.updates ++
      [.finish .succeeded context.finishedAtMs none])

section

variable {provider : LibraryProvider} {topology : ProviderTopology}

private theorem Except.mapError_eq_ok {First Second Result : Type}
    {wrap : First → Second} {outcome : Except First Result}
    {result : Result} :
    outcome.mapError wrap = .ok result ↔ outcome = .ok result := by
  cases outcome with
  | error failure => simp [Except.mapError]
  | ok found => simp [Except.mapError]

/-- An update of the issuer's own row that its guard admits. -/
theorem LogUpdate.rowAfterAll_cons_own {issuer : OperationId}
    {update : LogUpdate} {row : Operation} {rest : List LogUpdate}
    (own : row.operationId = update.target issuer)
    (admitted : update.guard row = true) :
    rowAfterAll issuer row (update :: rest) =
      rowAfterAll issuer (update.change issuer row) rest := by
  rw [rowAfterAll, rowAfter, if_pos ⟨own, admitted⟩]

/-- What a provider accepts of one URI, it accepts in both directions. -/
theorem applyLibraryCall_eq_ok {saved written : Finset ResourceUri}
    {uri : ResourceUri} {write : LibraryWrite} :
    applyLibraryCall provider saved (write.mutation uri) = .ok written ↔
      (1 ≤ provider.maximumUris ∧ provider.refusal uri = none) ∧
        write.write saved uri = written := by
  have batch : provider.ensureBatch 1 = .ok () ↔ 1 ≤ provider.maximumUris := by
    unfold LibraryProvider.ensureBatch
    split
    · simp only [reduceCtorEq, false_iff]
      omega
    · simp only [true_iff]
      omega
  have accepted : provider.ensureAccepted [uri] = .ok () ↔
      provider.refusal uri = none := by
    cases refused : provider.refusal uri with
    | none => simp [LibraryProvider.ensureAccepted, refused]
    | some error => simp [LibraryProvider.ensureAccepted, refused]
  cases write with
  | save =>
    simp only [applyLibraryCall, LibraryWrite.mutation,
      LibraryProvider.applyLibraryMutation, Except.mapError_eq_ok,
      Except.bind_eq_ok, List.length_singleton, batch, accepted]
    simp [LibraryWrite.write, pure, Except.pure, and_assoc]
  | unsave =>
    simp only [applyLibraryCall, LibraryWrite.mutation,
      LibraryProvider.applyLibraryMutation, Except.mapError_eq_ok,
      Except.bind_eq_ok, List.length_singleton, batch, accepted]
    simp [LibraryWrite.write, pure, Except.pure, and_assoc]

/-- A write followed by its opposite restores the saved set exactly when it
changed it. -/
theorem LibraryWrite.opposite_write_eq_iff (write : LibraryWrite)
    (saved : Finset ResourceUri) (uri : ResourceUri) :
    write.opposite.write (write.write saved uri) uri = saved ↔
      write.Changes saved uri := by
  cases write with
  | save =>
    simp only [LibraryWrite.write, LibraryWrite.opposite, LibraryWrite.Changes,
      Finset.erase_insert_eq_erase, Finset.erase_eq_self]
  | unsave =>
    simp only [LibraryWrite.write, LibraryWrite.opposite, LibraryWrite.Changes]
    constructor
    · intro restored
      rw [← restored]
      exact Finset.mem_insert_self uri _
    · exact Finset.insert_erase

theorem applyUriMutation_eq_ok {saved written : Finset ResourceUri}
    {value : String} {write : LibraryWrite} :
    applyUriMutation provider topology saved value
        (fun uri => write.mutation uri) = .ok written ↔
      ∃ uri, parseUri value = .ok uri ∧
        requireRouted topology uri = .ok () ∧
        applyLibraryCall provider saved (write.mutation uri) =
          .ok written := by
  simp only [applyUriMutation, Except.bind_eq_ok, Except.mapError_eq_ok]
  constructor
  · rintro ⟨uri, parsed, ⟨⟩, routed, applied⟩
    exact ⟨uri, parsed, routed, applied⟩
  · rintro ⟨uri, parsed, routed, applied⟩
    exact ⟨uri, parsed, (), routed, applied⟩

namespace LibraryRequest

/-- A request that succeeded wrote the URI it names. -/
theorem apply_eq_ok {reads : HandlerReads} {request : LibraryRequest}
    {saved written : Finset ResourceUri} :
    request.apply provider topology reads saved = .ok written ↔
      ∃ value, request.target reads = some value ∧
        applyUriMutation provider topology saved value
          (fun uri => request.libraryWrite.mutation uri) = .ok written := by
  unfold apply
  cases targets : request.target reads with
  | none => simp
  | some value => simp

/-- The row of a request that succeeded can be undone, and what it captured and
plans does not depend on what was saved before. -/
theorem succeededOperation_recorded {reads : HandlerReads}
    {request : LibraryRequest} {value : String}
    (targets : request.target reads = some value)
    (context : RecordingContext) :
    let operation := (request.recorded reads).succeededOperation context
    validateUndoable operation = .ok () ∧
      operation.reversalPlan =
        some (request.libraryWrite.reversalPlan value) ∧
      operation.preState = some (.librarySave value
        request.libraryWrite.priorWasSaved) ∧
      operation.subjectUris = [value] := by
  cases request with
  | save uri current =>
    have resolved : reads.resolvedSave uri current = some value := targets
    simp only [recorded, HandlerReads.librarySave, resolved,
      RecordedMutation.succeededOperation, List.flatMap_cons,
      BodyStep.updates, List.flatMap_nil, List.cons_append, List.nil_append]
    rw [LogUpdate.rowAfterAll_cons_own rfl rfl,
      LogUpdate.rowAfterAll_cons_own rfl rfl,
      LogUpdate.rowAfterAll_cons_own rfl rfl]
    exact ⟨rfl, rfl, rfl, rfl⟩
  | unsave uri =>
    cases targets
    simp only [recorded, HandlerReads.libraryUnsave,
      RecordedMutation.succeededOperation, List.flatMap_cons,
      BodyStep.updates, List.flatMap_nil, List.nil_append]
    rw [LogUpdate.rowAfterAll_cons_own rfl rfl]
    exact ⟨rfl, rfl, rfl, rfl⟩

end LibraryRequest

theorem undoLibraryOperation_eq {operation : Operation}
    {write : LibraryWrite} {value : String}
    (valid : validateUndoable operation = .ok ())
    (planned : operation.reversalPlan = some (write.reversalPlan value))
    (saved : Finset ResourceUri) (force : Bool) :
    undoLibraryOperation provider topology saved operation force =
      applyUriMutation provider topology saved value
        fun uri => write.opposite.mutation uri := by
  have unchecked : checkVersionToken (write.reversalPlan value)
      (fun _ => none) force = .ok () := by
    cases write <;> rfl
  have call : reversalCall topology (write.reversalPlan value) = do
      let uri ← parseUri value
      requireRouted topology uri
      return .mutation (write.opposite.mutation uri) := by
    cases write <;> rfl
  simp only [undoLibraryOperation, valid, planned, unchecked, call,
    applyUriMutation]
  cases parsed : parseUri value with
  | error failure => rfl
  | ok uri =>
    cases routed : requireRouted topology uri with
    | error failure => simp [routed, Except.mapError, bind, Except.bind]
    | ok _ => simp [routed, Except.mapError, bind, Except.bind, pure, Except.pure]

/-- Undoing a library request that succeeded restores the saved set exactly
when the request changed it: when the URI was not saved before a save, or was
saved before an unsave. -/
theorem undo_libraryRequest_restores_iff (reads : HandlerReads)
    (request : LibraryRequest) (value : String) (uri : ResourceUri)
    (targets : request.target reads = some value)
    (parses : ResourceUri.parse value = .ok uri)
    (saved written : Finset ResourceUri)
    (succeeded : request.apply provider topology reads saved = .ok written)
    (context : RecordingContext) (force : Bool) :
    undoLibraryOperation provider topology written
        ((request.recorded reads).succeededOperation context) force =
      .ok saved ↔
    request.libraryWrite.Changes saved uri := by
  obtain ⟨valid, planned, _⟩ :=
    request.succeededOperation_recorded targets context
  obtain ⟨_, targets', applied⟩ := LibraryRequest.apply_eq_ok.mp succeeded
  rw [targets] at targets'
  cases targets'
  have parsed : parseUri value = .ok uri := parseUri_eq_ok.mpr parses
  obtain ⟨_, parsed', routed, called⟩ := applyUriMutation_eq_ok.mp applied
  rw [parsed] at parsed'
  cases parsed'
  obtain ⟨accepted, rfl⟩ := applyLibraryCall_eq_ok.mp called
  rw [undoLibraryOperation_eq valid planned,
    ← request.libraryWrite.opposite_write_eq_iff saved uri]
  constructor
  · intro undone
    obtain ⟨_, parsed', _, reversed⟩ := applyUriMutation_eq_ok.mp undone
    rw [parsed] at parsed'
    cases parsed'
    exact (applyLibraryCall_eq_ok.mp reversed).2
  · intro restored
    exact applyUriMutation_eq_ok.mpr
      ⟨uri, parsed, routed, applyLibraryCall_eq_ok.mpr ⟨accepted, restored⟩⟩

end

/-- The fake provider's library: it saves the media of its namespace. -/
def fakeLibraryProvider : LibraryProvider where
  refusal uri :=
    match fakeProvider.ensureOwnUri uri with
    | .error error => some error
    | .ok _ => none
  maximumUris := maximumBatch

def idleReads : HandlerReads where
  provider := ⟨"fake"⟩
  playlistId := ""
  playlistUri := (fakePlaylist [] none).uri
  versionToken := none
  removedItems := []
  postVersion := none
  createdUri := (fakePlaylist [] none).uri
  currentItem := none
  priorDeviceId := none
  discoveredUris := []
  selected := []

def cliRecording : RecordingContext where
  operationId := ⟨1⟩
  receiptId := ⟨1⟩
  source := .cli
  occurredAtMs := 0
  finishedAtMs := 0

/-- The undo of a save of a new URI restores the empty library. -/
theorem undo_librarySave_restores_unsaved :
    LibraryRequest.apply fakeLibraryProvider fakeTopology idleReads ∅
        (.save (some "fake:track:one") false) =
      .ok {fakeTrack "one" (by decide)} ∧
    undoLibraryOperation fakeLibraryProvider fakeTopology
        {fakeTrack "one" (by decide)}
        (((LibraryRequest.save (some "fake:track:one") false).recorded
          idleReads).succeededOperation cliRecording) false = .ok ∅ :=
  ⟨rfl, (@undo_libraryRequest_restores_iff fakeLibraryProvider fakeTopology
    idleReads (.save (some "fake:track:one") false) "fake:track:one"
    (fakeTrack "one" (by decide)) rfl rfl ∅ _ rfl cliRecording false).mpr
      (Finset.notMem_empty _)⟩

/-- The undo of a save of a URI that was saved already removes it. -/
theorem undo_librarySave_removes_saved :
    LibraryRequest.apply fakeLibraryProvider fakeTopology idleReads
        {fakeTrack "one" (by decide)}
        (.save (some "fake:track:one") false) =
      .ok {fakeTrack "one" (by decide)} ∧
    undoLibraryOperation fakeLibraryProvider fakeTopology
        {fakeTrack "one" (by decide)}
        (((LibraryRequest.save (some "fake:track:one") false).recorded
          idleReads).succeededOperation cliRecording) false = .ok ∅ ∧
    ({fakeTrack "one" (by decide)} : Finset ResourceUri) ≠ ∅ :=
  ⟨rfl, rfl, by simp⟩

end Spotuify
