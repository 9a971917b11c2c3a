import Spotuify.PartialReceipts
import Spotuify.ListenSessions
import Mathlib.Data.List.Infix

/-!
# Spotify mutations in batches

The Spotify provider sends playlist insertions one position at a time and
library edits one media kind at a time.  Each request of such a batch succeeds
or fails as a whole, so the receipt reports the items of the batches that went
through as done and names every item of the others as failed.
-/

namespace Spotuify

namespace Receipts

section Grouping

variable {Key Value : Type} [DecidableEq Key]

/-- Append a value to its key's group; a new key opens the last group. -/
def pushGroup (key : Key) (value : Value) :
    List (Key × List Value) → List (Key × List Value)
  | [] => [(key, [value])]
  | (present, values) :: rest =>
    if present = key then
      (present, values ++ [value]) :: rest
    else
      (present, values) :: pushGroup key value rest

/-- Values by key, keys in the order they are first met. -/
def groupsOf (key : Value → Key) (values : List Value) :
    List (Key × List Value) :=
  values.foldl (fun groups value => pushGroup (key value) value groups) []

theorem pushGroup_perm (key : Key) (value : Value)
    (groups : List (Key × List Value)) :
    ((pushGroup key value groups).flatMap Prod.snd).Perm
      (groups.flatMap Prod.snd ++ [value]) := by
  induction groups with
  | nil => rfl
  | cons group rest inductionHypothesis =>
    obtain ⟨present, values⟩ := group
    rw [pushGroup]
    by_cases same : present = key
    · rw [if_pos same, List.flatMap_cons, List.flatMap_cons,
        List.append_assoc, List.append_assoc]
      exact List.perm_append_comm.append_left values
    · rw [if_neg same, List.flatMap_cons, List.flatMap_cons, List.append_assoc]
      exact inductionHypothesis.append_left values

theorem pushGroup_ne_nil {key : Key} {value : Value}
    {groups : List (Key × List Value)}
    (filled : ∀ group ∈ groups, group.2 ≠ []) :
    ∀ group ∈ pushGroup key value groups, group.2 ≠ [] := by
  induction groups with
  | nil => simp [pushGroup]
  | cons group rest inductionHypothesis =>
    obtain ⟨first, others⟩ := List.forall_mem_cons.mp filled
    rw [pushGroup]
    by_cases same : group.1 = key
    · rw [if_pos same, List.forall_mem_cons]
      exact ⟨by simp, others⟩
    · rw [if_neg same, List.forall_mem_cons]
      exact ⟨first, inductionHypothesis others⟩

/-- No group is opened without a value. -/
theorem groupsOf_ne_nil (key : Value → Key) (values : List Value) :
    ∀ group ∈ groupsOf key values, group.2 ≠ [] := by
  have run (groups : List (Key × List Value))
      (filled : ∀ group ∈ groups, group.2 ≠ []) :
      ∀ group ∈ values.foldl
        (fun groups value => pushGroup (key value) value groups) groups,
        group.2 ≠ [] := by
    induction values generalizing groups with
    | nil => exact filled
    | cons value rest inductionHypothesis =>
      exact inductionHypothesis _ (pushGroup_ne_nil filled)
  exact run [] (by simp)

/-- Grouping loses and repeats nothing. -/
theorem groupsOf_perm (key : Value → Key) (values : List Value) :
    ((groupsOf key values).flatMap Prod.snd).Perm values := by
  have run (groups : List (Key × List Value)) :
      ((values.foldl
          (fun groups value => pushGroup (key value) value groups)
          groups).flatMap Prod.snd).Perm
        (groups.flatMap Prod.snd ++ values) := by
    induction values generalizing groups with
    | nil => rw [List.foldl_nil, List.append_nil]
    | cons value rest inductionHypothesis =>
      have step := (pushGroup_perm (key value) value groups).append_right rest
      rw [List.append_assoc] at step
      exact (inductionHypothesis _).trans step
  exact run []

end Grouping

inductive SpotifyError where
  | authRequired
  | rateLimited (retryAfterMs : Nat) (scope : String)
  | authExpired
  | authRevoked
  | forbidden (scope : String)
  | notFound
  | deprecated (endpoint : String)
  | network (endpoint message : String)
  | decode (endpoint message : String)
  | api (status : Nat) (endpoint message body : String)
  | invalidInput (message : String)
  | client (message : String)
  deriving DecidableEq

inductive ProviderError where
  | unsupported (operation : String)
  | rateLimited (scope : Option String) (retryAfterMs : Option Nat)
  | authRequired
  | authExpired
  | authRevoked
  | forbidden (operation : String)
  | noActiveDevice
  | invalidInput (field message : String)
  | network (message : String)
  | transient (status : Option Nat) (message : String)
  | upstream (status : Nat) (message : String)
  | decode (message : String)
  | notFound (resource : String)
  | syncTokenExpired (reason : String)
  | versionConflict (expected actual : Option String)
  | provider (message : String)
  deriving DecidableEq

/-- `{status:?}`. -/
def debugStatus : Option Nat → String
  | none => "None"
  | some status => "Some(" ++ toString status ++ ")"

/-- The text of an error; `debug` is `{:?}` of an optional text. -/
def ProviderError.message (debug : Option String → String) :
    ProviderError → String
  | .unsupported operation =>
    "provider operation `" ++ operation ++ "` is unsupported"
  | .rateLimited .. => "provider rate limited the request"
  | .authRequired => "provider authentication is required"
  | .authExpired => "provider authentication has expired"
  | .authRevoked => "provider authentication was revoked"
  | .forbidden operation => "provider denied `" ++ operation ++ "`"
  | .noActiveDevice => "provider has no active playback device"
  | .invalidInput field message =>
    "invalid provider input `" ++ field ++ "`: " ++ message
  | .network message => "provider network error: " ++ message
  | .transient status message =>
    "provider transient error (status " ++ debugStatus status ++ "): " ++
      message
  | .upstream status message =>
    "provider upstream error (HTTP " ++ toString status ++ "): " ++ message
  | .decode message => "provider response decode error: " ++ message
  | .notFound resource => "provider resource not found: " ++ resource
  | .syncTokenExpired reason => "provider sync token expired: " ++ reason
  | .versionConflict expected actual =>
    "provider version conflict (expected " ++ debug expected ++ ", actual " ++
      debug actual ++ ")"
  | .provider message => "provider error: " ++ message

/-- Whether a text contains another once both are lowercase ASCII; the
pattern is. -/
def containsLower (text : String) (pattern : String) : Bool :=
  decide (pattern.toList <:+: text.toList.map Char.toLower)

def providerError (error : SpotifyError) (operation : String) :
    ProviderError :=
  match error with
  | .authRequired => .authRequired
  | .rateLimited retryAfterMs scope => .rateLimited (some scope) (some retryAfterMs)
  | .authExpired => .authExpired
  | .authRevoked => .authRevoked
  | .forbidden scope => .forbidden scope
  | .notFound => .notFound operation
  | .deprecated endpoint =>
    .upstream 410 ("Spotify deprecated endpoint " ++ endpoint)
  | .network endpoint message => .network (endpoint ++ ": " ++ message)
  | .decode endpoint message => .decode (endpoint ++ ": " ++ message)
  | .api status endpoint message body =>
    if containsLower (message ++ " " ++ body) "no active device" then
      .noActiveDevice
    else if message = "" then
      .upstream status
        ("Spotify " ++ endpoint ++ " returned HTTP " ++ toString status)
    else
      .upstream status (endpoint ++ ": " ++ message)
  | .invalidInput message => .invalidInput operation message
  | .client message => .provider message

def versionConflictMarkers : List String :=
  ["mismatch", "conflict", "current snapshot", "latest snapshot", "stale",
    "out of date"]

def isVersionConflict : SpotifyError → Bool
  | .api status _ message body =>
    let detail := message ++ " " ++ body
    status == 409 || status == 412 ||
      (status == 400 && containsLower detail "snapshot" &&
        versionConflictMarkers.any (containsLower detail))
  | _ => false

def playlistMutationError (error : SpotifyError) (operation : String)
    (expected : Option String) : ProviderError :=
  if isVersionConflict error then .versionConflict expected none
  else providerError error operation

/-- The answers of the Spotify client during one mutation.  A mutation that is
not applied in batches is one field: its outcome and version. -/
structure SpotifyClient where
  providerId : ProviderId
  playlistVersion : String → Except SpotifyError (Option String)
  addPlaylistItems :
    String → List String → Option Nat → Except SpotifyError String
  librarySaveByUris : List String → Except SpotifyError Unit
  libraryUnsaveByUris : List String → Except SpotifyError Unit
  applyWhole :
    Mutation → Except ProviderError (MutationOutcome × Option String)

def playlistMutationMax : Nat := 100

def libraryMutationMax : Nat := 50

def ensureSpotifyUri (uri : ResourceUri) (field : String) :
    Except ProviderError Unit :=
  if uri.scheme.label ≠ "spotify" then
    .error (.invalidInput field
      ("URI `" ++ uri.asUri ++ "` is outside the Spotify namespace"))
  else .ok ()

def ensureKind (uri : ResourceUri) (allowed : List MediaKind)
    (field : String) : Except ProviderError Unit := do
  ensureSpotifyUri uri field
  if uri.kind ∈ allowed then .ok ()
  else
    .error (.invalidInput field
      ("Spotify does not support `" ++ uri.kind.label ++
        "` for this operation"))

def validateBatchSize (actual max : Nat) (field : String) :
    Except ProviderError Unit :=
  if actual > max then
    .error (.invalidInput field
      ("batch contains " ++ toString actual ++
        " items; Spotify supports at most " ++ toString max))
  else .ok ()

def isUnavailablePlaylistPlaceholder (uri : ResourceUri) : Bool :=
  uri.kind == .track &&
    ("local~".toList.isPrefixOf uri.id.toList ||
      "unavailable~".toList.isPrefixOf uri.id.toList)

def checkVersion (client : SpotifyClient) (playlistUri : ResourceUri) :
    Option String → Except ProviderError Unit
  | none => .ok ()
  | some expected =>
    match client.playlistVersion playlistUri.id with
    | .error error => .error (providerError error "playlist_version")
    | .ok actual =>
      if actual ≠ some expected then
        .error (.versionConflict (some expected) actual)
      else .ok ()

def checkInsertions : List PlaylistInsertion → Except ProviderError Unit
  | [] => .ok ()
  | item :: rest => do
    ensureKind item.uri [.track, .episode] "items.uri"
    if isUnavailablePlaylistPlaceholder item.uri then
      .error (.invalidInput "items.uri"
        "unavailable and local playlist items cannot be added on Spotify")
    else
      checkInsertions rest

def checkKinds (allowed : List MediaKind) :
    List ResourceUri → Except ProviderError Unit
  | [] => .ok ()
  | uri :: rest => do
    ensureKind uri allowed "uris"
    checkKinds allowed rest

/-- What a mutation has to pass before its first batch is sent. -/
def checkMutation (client : SpotifyClient) :
    Mutation → Except ProviderError Unit
  | .playlistAdd playlistUri items expectedVersion => do
    ensureKind playlistUri [.playlist] "playlist_uri"
    validateBatchSize items.length playlistMutationMax "items"
    checkInsertions items
    checkVersion client playlistUri expectedVersion
  | .librarySave uris | .libraryUnsave uris => do
    validateBatchSize uris.length libraryMutationMax "uris"
    checkKinds [.track, .episode, .show, .album] uris
  | .follow uris | .unfollow uris => do
    validateBatchSize uris.length libraryMutationMax "uris"
    checkKinds [.artist] uris
  | _ => .ok ()

/-- Insertions at one position after another, then the appended ones. -/
def insertionGroups (items : List PlaylistInsertion) :
    List (Option Nat × List PlaylistInsertion) :=
  let positioned :=
    (groupsOf PlaylistInsertion.position
      (items.filter fun item => item.position.isSome)).insertionSort
      fun first second => first.1.getD 0 ≤ second.1.getD 0
  let appended := items.filter fun item => item.position.isNone
  if appended.isEmpty then positioned else positioned ++ [(none, appended)]

section Apply

variable (debug : Option String → String) (client : SpotifyClient)

def batchFailures (uris : List ResourceUri) (error : ProviderError) :
    List MutationFailure :=
  uris.map fun uri => ⟨some uri, error.message debug⟩

structure PlaylistAddProgress where
  failures : List MutationFailure
  firstError : Option ProviderError
  applied : Nat
  version : Option String

def addGroup (playlistUri : ResourceUri) (expectedVersion : Option String)
    (progress : PlaylistAddProgress)
    (group : Option Nat × List PlaylistInsertion) : PlaylistAddProgress :=
  let uris := group.2.map fun item => item.uri.asUri
  match client.addPlaylistItems playlistUri.id uris group.1 with
  | .ok snapshot =>
    { progress with
      applied := progress.applied + group.2.length,
      version := if snapshot = "" then none else some snapshot }
  | .error error =>
    let error := playlistMutationError error "playlist_add" expectedVersion
    { progress with
      firstError := progress.firstError.or (some error),
      failures := progress.failures ++
        batchFailures debug (group.2.map PlaylistInsertion.uri) error }

structure LibraryBatchResult where
  successful : List ResourceUri
  failures : List MutationFailure
  firstError : Option ProviderError

def callLibrary (add : Bool) (uris : List String) :
    Except SpotifyError Unit :=
  if add then client.librarySaveByUris uris
  else client.libraryUnsaveByUris uris

def applyGroup (add : Bool) (operation : String)
    (result : LibraryBatchResult) (group : MediaKind × List ResourceUri) :
    LibraryBatchResult :=
  match callLibrary client add (group.2.map ResourceUri.asUri) with
  | .ok () => { result with successful := result.successful ++ group.2 }
  | .error error =>
    let error := providerError error operation
    { result with
      firstError := result.firstError.or (some error),
      failures := result.failures ++ batchFailures debug group.2 error }

def applyLibraryBatches (uris : List ResourceUri) (add : Bool)
    (operation : String) : LibraryBatchResult :=
  (groupsOf ResourceUri.kind uris).foldl
    (applyGroup debug client add operation) ⟨[], [], none⟩

def completion (failures : List MutationFailure) : MutationCompletion :=
  if failures.isEmpty then .applied else .partiallyApplied

def receipt (mutationId : Nat) (outcome : MutationOutcome)
    (versionToken : Option String) (failures : List MutationFailure) :
    MutationReceipt where
  mutationId := mutationId
  provider := client.providerId
  completion := completion failures
  outcome := outcome
  versionToken := versionToken
  failures := failures

/-- The receipt of library batches, unless nothing went through. -/
def libraryReceipt (mutationId : Nat) (batches : LibraryBatchResult)
    (outcome : List ResourceUri → MutationOutcome) :
    Except ProviderError MutationReceipt :=
  match batches.successful, batches.firstError with
  | [], some error => .error error
  | _, _ =>
    .ok (receipt client mutationId (outcome batches.successful) none
      batches.failures)

def applyMutation (mutationId : Nat) (mutation : Mutation) :
    Except ProviderError MutationReceipt := do
  checkMutation client mutation
  match mutation with
  | .playlistAdd playlistUri items expectedVersion =>
    let progress := (insertionGroups items).foldl
      (addGroup debug client playlistUri expectedVersion)
      ⟨[], none, 0, expectedVersion⟩
    match progress.applied, progress.firstError with
    | 0, some error => .error error
    | _, _ =>
      .ok (receipt client mutationId (.playlistChanged playlistUri)
        progress.version progress.failures)
  | .librarySave uris =>
    libraryReceipt client mutationId
      (applyLibraryBatches debug client uris true "library_mutation")
      fun successful => .libraryChanged successful true
  | .libraryUnsave uris =>
    libraryReceipt client mutationId
      (applyLibraryBatches debug client uris false "library_mutation")
      fun successful => .libraryChanged successful false
  | .follow uris =>
    libraryReceipt client mutationId
      (applyLibraryBatches debug client uris true "follow_mutation")
      fun successful => .followChanged successful true
  | .unfollow uris =>
    libraryReceipt client mutationId
      (applyLibraryBatches debug client uris false "follow_mutation")
      fun successful => .followChanged successful false
  | .playlistCreate .. | .playlistRemove .. | .playlistReorder ..
  | .playlistSetImage .. | .playlistUnfollow .. => do
    let (outcome, version) ← client.applyWhole mutation
    return receipt client mutationId outcome version []

end Apply

/-- The items of a batch, and its error unless it went through. -/
abbrev SettledBatch := List ResourceUri × Option ProviderError

def doneItems (settled : List SettledBatch) : List ResourceUri :=
  settled.flatMap fun batch => if batch.2.isNone then batch.1 else []

def failedItems (settled : List SettledBatch) : List ResourceUri :=
  settled.flatMap fun batch => if batch.2.isNone then [] else batch.1

theorem done_append_failed_perm (settled : List SettledBatch) :
    (doneItems settled ++ failedItems settled).Perm
      (settled.flatMap Prod.fst) := by
  induction settled with
  | nil => rfl
  | cons batch rest inductionHypothesis =>
    obtain ⟨uris, error⟩ := batch
    simp only [doneItems, failedItems, List.flatMap_cons] at *
    cases error with
    | none =>
      simp only [Option.isNone_none, if_true, List.nil_append,
        List.append_assoc]
      exact inductionHypothesis.append_left uris
    | some error =>
      simp only [Option.isNone_some, Bool.false_eq_true, if_false,
        List.nil_append]
      exact (List.perm_append_comm_assoc _ _ _).trans
        (inductionHypothesis.append_left uris)

theorem doneItems_ne_nil {settled : List SettledBatch} {batch : SettledBatch}
    (member : batch ∈ settled) (wentThrough : batch.2 = none)
    (filled : batch.1 ≠ []) : doneItems settled ≠ [] := by
  intro empty
  have all := List.flatMap_eq_nil_iff.mp empty batch member
  rw [wentThrough] at all
  exact filled all

theorem failedItems_ne_nil {settled : List SettledBatch}
    {batch : SettledBatch} (member : batch ∈ settled)
    (failed : batch.2 ≠ none) (filled : batch.1 ≠ []) :
    failedItems settled ≠ [] := by
  intro empty
  have all := List.flatMap_eq_nil_iff.mp empty batch member
  rw [if_neg (by rwa [Option.isNone_iff_eq_none])] at all
  exact filled all

/-- Without an error nothing failed. -/
theorem failedItems_eq_nil {settled : List SettledBatch}
    (clean : settled.findSome? Prod.snd = none) :
    failedItems settled = [] := by
  rw [List.findSome?_eq_none_iff] at clean
  refine List.flatMap_eq_nil_iff.mpr fun batch member => ?_
  rw [clean batch member]
  rfl

section Settled

variable (debug : Option String → String) (client : SpotifyClient)

def settledFailures (settled : List SettledBatch) : List MutationFailure :=
  settled.flatMap fun batch =>
    match batch.2 with
    | none => []
    | some error => batchFailures debug batch.1 error

def settledInsertions (playlistUri : ResourceUri)
    (expectedVersion : Option String)
    (groups : List (Option Nat × List PlaylistInsertion)) :
    List SettledBatch :=
  groups.map fun group =>
    (group.2.map PlaylistInsertion.uri,
      match client.addPlaylistItems playlistUri.id
          (group.2.map fun item => item.uri.asUri) group.1 with
      | .ok _ => none
      | .error error =>
        some (playlistMutationError error "playlist_add" expectedVersion))

def settledKinds (add : Bool) (operation : String)
    (groups : List (MediaKind × List ResourceUri)) : List SettledBatch :=
  groups.map fun group =>
    (group.2,
      match callLibrary client add (group.2.map ResourceUri.asUri) with
      | .ok () => none
      | .error error => some (providerError error operation))

/-- The batches of a mutation. -/
def settledBatches : Mutation → List SettledBatch
  | .playlistAdd playlistUri items expectedVersion =>
    settledInsertions client playlistUri expectedVersion
      (insertionGroups items)
  | .librarySave uris =>
    settledKinds client true "library_mutation"
      (groupsOf ResourceUri.kind uris)
  | .libraryUnsave uris =>
    settledKinds client false "library_mutation"
      (groupsOf ResourceUri.kind uris)
  | .follow uris =>
    settledKinds client true "follow_mutation"
      (groupsOf ResourceUri.kind uris)
  | .unfollow uris =>
    settledKinds client false "follow_mutation"
      (groupsOf ResourceUri.kind uris)
  | _ => []

/-- Every error has a text that is not blank. -/
theorem message_speaks (error : ProviderError) :
    Speaks (error.message debug) := by
  have opens {text : String} (head : text.toList.head? = some 'p') :
      Speaks text :=
    ⟨'p', List.mem_of_mem_head? (Option.mem_def.mpr head), rfl⟩
  cases error with
  | unsupported => exact ((opens rfl).append _).append _
  | rateLimited =>
    exact @opens "provider rate limited the request" rfl
  | authRequired =>
    exact @opens "provider authentication is required" rfl
  | authExpired =>
    exact @opens "provider authentication has expired" rfl
  | authRevoked =>
    exact @opens "provider authentication was revoked" rfl
  | forbidden => exact ((opens rfl).append _).append _
  | noActiveDevice =>
    exact @opens "provider has no active playback device" rfl
  | invalidInput =>
    have opensInvalid : Speaks "invalid provider input `" :=
      ⟨'i', by decide, rfl⟩
    exact ((opensInvalid.append _).append _).append _
  | network => exact (opens rfl).append _
  | transient => exact (((opens rfl).append _).append _).append _
  | upstream => exact (((opens rfl).append _).append _).append _
  | decode => exact (opens rfl).append _
  | notFound => exact (opens rfl).append _
  | syncTokenExpired => exact (opens rfl).append _
  | versionConflict =>
    exact ((((opens rfl).append _).append _).append _).append _
  | provider => exact (opens rfl).append _

theorem batchFailures_names (uris : List ResourceUri) (error : ProviderError) :
    List.Forall₂ MutationFailure.Names (batchFailures debug uris error) uris := by
  induction uris with
  | nil => exact .nil
  | cons uri rest inductionHypothesis =>
    exact .cons ⟨rfl, message_speaks debug error⟩ inductionHypothesis

/-- The failures name the items of the failed batches, in order. -/
theorem settledFailures_names (settled : List SettledBatch) :
    List.Forall₂ MutationFailure.Names (settledFailures debug settled)
      (failedItems settled) := by
  induction settled with
  | nil => exact .nil
  | cons batch rest inductionHypothesis =>
    obtain ⟨uris, error⟩ := batch
    simp only [settledFailures, failedItems, List.flatMap_cons] at *
    cases error with
    | none => exact inductionHypothesis
    | some error =>
      exact List.rel_append (batchFailures_names debug uris error)
        inductionHypothesis

theorem addGroup_run (playlistUri : ResourceUri)
    (expectedVersion : Option String)
    (groups : List (Option Nat × List PlaylistInsertion))
    (progress : PlaylistAddProgress) :
    let settled :=
      settledInsertions client playlistUri expectedVersion groups
    let last := groups.foldl
      (addGroup debug client playlistUri expectedVersion) progress
    last.failures = progress.failures ++ settledFailures debug settled ∧
      last.firstError =
        progress.firstError.or (settled.findSome? Prod.snd) ∧
      last.applied = progress.applied + (doneItems settled).length := by
  induction groups generalizing progress with
  | nil => simp [settledInsertions, settledFailures, doneItems]
  | cons group rest inductionHypothesis =>
    obtain ⟨failures, firstError, applied⟩ := inductionHypothesis
      (addGroup debug client playlistUri expectedVersion progress group)
    dsimp only [List.foldl_cons]
    rw [failures, firstError, applied]
    cases answered : client.addPlaylistItems playlistUri.id
        (group.2.map fun item => item.uri.asUri) group.1 with
    | ok snapshot =>
      simp [addGroup, answered, settledInsertions, settledFailures, doneItems,
        Nat.add_assoc]
    | error error =>
      simp [addGroup, answered, settledInsertions, settledFailures, doneItems]

theorem applyGroup_run (add : Bool) (operation : String)
    (groups : List (MediaKind × List ResourceUri))
    (result : LibraryBatchResult) :
    let settled := settledKinds client add operation groups
    groups.foldl (applyGroup debug client add operation) result =
      ⟨result.successful ++ doneItems settled,
        result.failures ++ settledFailures debug settled,
        result.firstError.or (settled.findSome? Prod.snd)⟩ := by
  induction groups generalizing result with
  | nil => simp [settledKinds, settledFailures, doneItems]
  | cons group rest inductionHypothesis =>
    simp only [List.foldl_cons, inductionHypothesis, settledKinds,
      List.map_cons, settledFailures, doneItems, List.flatMap_cons,
      List.findSome?_cons, applyGroup]
    cases answered : callLibrary client add
        (group.2.map ResourceUri.asUri) with
    | ok _ => simp
    | error error => simp

theorem insertionGroups_perm (items : List PlaylistInsertion) :
    ((insertionGroups items).flatMap Prod.snd).Perm items := by
  let positioned := items.filter fun item => item.position.isSome
  let appended := items.filter fun item => item.position.isNone
  have grouped :
      (((groupsOf PlaylistInsertion.position positioned).insertionSort
        fun first second => first.1.getD 0 ≤ second.1.getD 0).flatMap
          Prod.snd).Perm positioned :=
    ((List.perm_insertionSort _ _).flatMap_right Prod.snd).trans
      (groupsOf_perm _ _)
  have split : (positioned ++ appended).Perm items := by
    have complement : appended =
        items.filter fun item => !item.position.isSome := by
      simp [appended]
    rw [complement]
    exact List.filter_append_perm _ _
  unfold insertionGroups
  by_cases none : appended.isEmpty = true
  · rw [if_pos none]
    rw [List.isEmpty_iff.mp none, List.append_nil] at split
    exact grouped.trans split
  · rw [if_neg none, List.flatMap_append, List.flatMap_singleton]
    exact (grouped.append_right appended).trans split

theorem insertionGroups_ne_nil (items : List PlaylistInsertion) :
    ∀ group ∈ insertionGroups items, group.2 ≠ [] := by
  intro group member
  unfold insertionGroups at member
  have positioned {group : Option Nat × List PlaylistInsertion}
      (member : group ∈
        (groupsOf PlaylistInsertion.position
          (items.filter fun item => item.position.isSome)).insertionSort
          fun first second => first.1.getD 0 ≤ second.1.getD 0) :
      group.2 ≠ [] :=
    groupsOf_ne_nil _ _ group ((List.mem_insertionSort _).mp member)
  by_cases none :
      (items.filter fun item => item.position.isNone).isEmpty = true
  · rw [if_pos none] at member
    exact positioned member
  · rw [if_neg none, List.mem_append, List.mem_singleton] at member
    rcases member with member | rfl
    · exact positioned member
    · exact fun empty => none (List.isEmpty_iff.mpr empty)

/-- The mutations that are applied in batches. -/
def isBatched : Mutation → Bool
  | .playlistAdd .. | .librarySave _ | .libraryUnsave _ | .follow _
  | .unfollow _ => true
  | _ => false

theorem settledBatches_perm {mutation : Mutation}
    {requested : List ResourceUri} (batched : isBatched mutation = true)
    (requests : requestedResources mutation = some requested) :
    ((settledBatches client mutation).flatMap Prod.fst).Perm requested := by
  have kinds (add : Bool) (operation : String) (uris : List ResourceUri) :
      ((settledKinds client add operation
        (groupsOf ResourceUri.kind uris)).flatMap Prod.fst).Perm uris := by
    rw [settledKinds, List.flatMap_map]
    exact groupsOf_perm ResourceUri.kind uris
  cases mutation with
  | playlistAdd playlistUri items expectedVersion =>
    cases requests
    rw [settledBatches, settledInsertions, List.flatMap_map,
      ← List.map_flatMap]
    exact (insertionGroups_perm items).map PlaylistInsertion.uri
  | librarySave | libraryUnsave | follow | unfollow =>
    cases requests
    exact kinds _ _ _
  | _ => cases batched

theorem settledBatches_ne_nil (mutation : Mutation) :
    ∀ batch ∈ settledBatches client mutation, batch.1 ≠ [] := by
  have kinds (add : Bool) (operation : String) (uris : List ResourceUri) :
      ∀ batch ∈ settledKinds client add operation
        (groupsOf ResourceUri.kind uris), batch.1 ≠ [] := by
    rw [settledKinds, List.forall_mem_map]
    exact groupsOf_ne_nil _ _
  cases mutation with
  | playlistAdd playlistUri items expectedVersion =>
    rw [settledBatches, settledInsertions, List.forall_mem_map]
    intro group member
    exact mt List.map_eq_nil_iff.mp (insertionGroups_ne_nil items group member)
  | librarySave | libraryUnsave | follow | unfollow => exact kinds _ _ _
  | _ => simp [settledBatches]

/-- However the failures are listed, the outcome reports what was done. -/
def Settles (mutation : Mutation) (done : List ResourceUri)
    (outcome : MutationOutcome) : Prop :=
  ∀ requested failed : List ResourceUri, requested.Perm (done ++ failed) →
    ∃ succeeded, Reports requested failed succeeded mutation outcome ∧
      succeeded.Perm done

theorem settles_playlistAdd (playlistUri : ResourceUri)
    (items : List PlaylistInsertion) (expectedVersion : Option String)
    (done : List ResourceUri) :
    Settles (.playlistAdd playlistUri items expectedVersion) done
      (.playlistChanged playlistUri) := by
  intro requested failed permuted
  have removed : ∀ failed : List ResourceUri,
      (failed ++ done).diff failed = done := by
    intro failed
    induction failed with
    | nil => rfl
    | cons uri rest inductionHypothesis =>
      rw [List.cons_append, List.diff_cons, List.erase_cons_head,
        inductionHypothesis]
  have remains := (permuted.trans List.perm_append_comm).diff_right failed
  rw [removed] at remains
  exact ⟨requested.diff failed, ⟨rfl, rfl⟩, remains⟩

/-- The receipt of library batches reports the batches, or nothing went
through and the first error is returned. -/
theorem libraryReceipt_eq (mutationId : Nat) (add : Bool) (operation : String)
    (uris : List ResourceUri) (outcome : List ResourceUri → MutationOutcome) :
    let settled :=
      settledKinds client add operation (groupsOf ResourceUri.kind uris)
    libraryReceipt client mutationId
        (applyLibraryBatches debug client uris add operation) outcome =
      match doneItems settled, settled.findSome? Prod.snd with
      | [], some error => .error error
      | _, _ =>
        .ok (receipt client mutationId (outcome (doneItems settled)) none
          (settledFailures debug settled)) := by
  dsimp only
  rw [libraryReceipt, applyLibraryBatches, applyGroup_run]
  rfl

theorem applyMutation_batched (mutationId : Nat) {mutation : Mutation}
    (batched : isBatched mutation = true)
    (checked : checkMutation client mutation = .ok ()) :
    ∃ outcome version,
      Settles mutation (doneItems (settledBatches client mutation)) outcome ∧
      applyMutation debug client mutationId mutation =
        match doneItems (settledBatches client mutation),
          (settledBatches client mutation).findSome? Prod.snd with
        | [], some error => .error error
        | _, _ =>
          .ok (receipt client mutationId outcome version
            (settledFailures debug (settledBatches client mutation))) := by
  cases mutation with
  | playlistAdd playlistUri items expectedVersion =>
    obtain ⟨failures, firstError, applied⟩ := addGroup_run debug client
      playlistUri expectedVersion (insertionGroups items)
      ⟨[], none, 0, expectedVersion⟩
    let last := (insertionGroups items).foldl
      (addGroup debug client playlistUri expectedVersion)
      ⟨[], none, 0, expectedVersion⟩
    refine ⟨.playlistChanged playlistUri, last.version,
      settles_playlistAdd playlistUri items expectedVersion _, ?_⟩
    rw [applyMutation, checked]
    simp only [bind, Except.bind]
    rw [failures, firstError, applied, settledBatches]
    generalize settledInsertions client playlistUri expectedVersion
      (insertionGroups items) = settled
    cases doneItems settled with
    | nil => cases settled.findSome? Prod.snd <;> rfl
    | cons uri rest =>
      rw [Nat.zero_add, List.length_cons]
      cases settled.findSome? Prod.snd <;> rfl
  | librarySave uris =>
    refine ⟨.libraryChanged (doneItems (settledBatches client (.librarySave uris))) true,
      none, fun _ _ _ => ⟨_, ⟨rfl, rfl⟩, .refl _⟩, ?_⟩
    rw [applyMutation, checked]
    exact libraryReceipt_eq debug client mutationId true "library_mutation" uris
      fun successful => .libraryChanged successful true
  | libraryUnsave uris =>
    refine ⟨.libraryChanged (doneItems (settledBatches client (.libraryUnsave uris))) false,
      none, fun _ _ _ => ⟨_, ⟨rfl, rfl⟩, .refl _⟩, ?_⟩
    rw [applyMutation, checked]
    exact libraryReceipt_eq debug client mutationId false "library_mutation" uris
      fun successful => .libraryChanged successful false
  | follow uris =>
    refine ⟨.followChanged (doneItems (settledBatches client (.follow uris))) true,
      none, fun _ _ _ => ⟨_, ⟨rfl, rfl⟩, .refl _⟩, ?_⟩
    rw [applyMutation, checked]
    exact libraryReceipt_eq debug client mutationId true "follow_mutation" uris
      fun successful => .followChanged successful true
  | unfollow uris =>
    refine ⟨.followChanged (doneItems (settledBatches client (.unfollow uris))) false,
      none, fun _ _ _ => ⟨_, ⟨rfl, rfl⟩, .refl _⟩, ?_⟩
    rw [applyMutation, checked]
    exact libraryReceipt_eq debug client mutationId false "follow_mutation" uris
      fun successful => .followChanged successful false
  | _ => cases batched

end Settled

def spotifyReadKinds : List MediaKind :=
  [.track, .episode, .album, .show, .artist]

/-- The Spotify provider as the daemon validates its receipts. -/
def spotifyReceiptProvider (client : SpotifyClient) : ReceiptProvider where
  id := client.providerId
  playlistList := true
  playlistItemRead := true
  libraryReadKinds := spotifyReadKinds

theorem kind_of_checkKinds {allowed : List MediaKind}
    {uris : List ResourceUri} (checked : checkKinds allowed uris = .ok ()) :
    ∀ uri ∈ uris, uri.kind ∈ allowed := by
  induction uris with
  | nil => simp
  | cons uri rest inductionHypothesis =>
    rw [checkKinds, ensureKind, ensureSpotifyUri] at checked
    by_cases foreign : uri.scheme.label ≠ "spotify"
    · rw [if_pos foreign] at checked
      cases checked
    · by_cases known : uri.kind ∈ allowed
      · rw [if_neg foreign] at checked
        simp only [bind, Except.bind, if_pos known] at checked
        exact List.forall_mem_cons.mpr ⟨known, inductionHypothesis checked⟩
      · rw [if_neg foreign] at checked
        simp only [bind, Except.bind, if_neg known] at checked
        cases checked

/-- Spotify reads back every item of a mutation it applies in batches. -/
theorem readsBack_of_checkMutation {client : SpotifyClient}
    {mutation : Mutation} (batched : isBatched mutation = true)
    (checked : checkMutation client mutation = .ok ()) :
    ReadsBack (spotifyReceiptProvider client) mutation := by
  have kinds {allowed : List MediaKind} {uris : List ResourceUri}
      (readable : allowed ⊆ spotifyReadKinds)
      (checked : (do
        validateBatchSize uris.length libraryMutationMax "uris"
        checkKinds allowed uris) = .ok ()) :
      ∀ uri ∈ uris, uri.kind ∈ spotifyReadKinds := by
    rw [validateBatchSize] at checked
    by_cases large : uris.length > libraryMutationMax
    · rw [if_pos large] at checked
      cases checked
    · rw [if_neg large] at checked
      exact fun uri member => readable (kind_of_checkKinds checked uri member)
  cases mutation with
  | playlistAdd => exact ⟨rfl, rfl⟩
  | librarySave | libraryUnsave | follow | unfollow =>
    exact kinds (by decide) checked
  | _ => cases batched

theorem applyMutation_checked {debug : Option String → String}
    {client : SpotifyClient} {mutationId : Nat} {mutation : Mutation}
    {answer : MutationReceipt}
    (applied : applyMutation debug client mutationId mutation = .ok answer) :
    checkMutation client mutation = .ok () := by
  unfold applyMutation at applied
  cases checked : checkMutation client mutation with
  | ok _ => rfl
  | error error =>
    rw [checked] at applied
    cases applied

/-- A mutation sent as one request is never reported as partly applied. -/
theorem completion_of_whole {debug : Option String → String}
    {client : SpotifyClient} {mutationId : Nat} {mutation : Mutation}
    {answer : MutationReceipt} (whole : isBatched mutation = false)
    (applied : applyMutation debug client mutationId mutation = .ok answer) :
    answer.completion = .applied := by
  have checked := applyMutation_checked applied
  unfold applyMutation at applied
  rw [checked] at applied
  cases answered : client.applyWhole mutation with
  | error error =>
    cases mutation <;> cases whole <;>
      simp [bind, Except.bind, answered] at applied
  | ok result =>
    cases mutation <;> cases whole <;>
      simp [bind, Except.bind, pure, Except.pure, answered] at applied <;>
      subst applied <;> rfl

/-- A partial receipt of the Spotify provider divides the request into what
its batches did and what they failed on. -/
theorem validatePartialPartition_applyMutation (bounded : String → String)
    {debug : Option String → String} {client : SpotifyClient}
    {mutationId : Nat} {mutation : Mutation} {answer : MutationReceipt}
    (applied : applyMutation debug client mutationId mutation = .ok answer)
    (incomplete : answer.completion = .partiallyApplied) :
    ∃ requested partition,
      requestedResources mutation = some requested ∧
      validatePartialPartition bounded (spotifyReceiptProvider client) mutation
        answer = .ok partition ∧
      partition.succeeded.Perm (doneItems (settledBatches client mutation)) ∧
      partition.failed = failedItems (settledBatches client mutation) ∧
      requested.Perm (partition.succeeded ++ partition.failed) := by
  have checked := applyMutation_checked applied
  cases batched : isBatched mutation with
  | false =>
    rw [completion_of_whole batched applied] at incomplete
    cases incomplete
  | true =>
    obtain ⟨requested, requests⟩ : ∃ requested,
        requestedResources mutation = some requested := by
      cases mutation <;> cases batched <;> exact ⟨_, rfl⟩
    obtain ⟨outcome, version, settles, result⟩ :=
      applyMutation_batched debug client mutationId batched checked
    have divided := (settledBatches_perm client batched requests).symm.trans
      (done_append_failed_perm (settledBatches client mutation)).symm
    have names := settledFailures_names debug (settledBatches client mutation)
    generalize settledBatches client mutation = settled at *
    obtain ⟨succeeded, reports, sameDone⟩ :=
      settles requested (failedItems settled) divided
    have answers : answer =
        receipt client mutationId outcome version
          (settledFailures debug settled) ∧
        (doneItems settled = [] → settled.findSome? Prod.snd = none) := by
      rw [applied] at result
      split at result
      · cases result
      · rename_i continues
        refine ⟨Except.ok.inj result, fun nothing => ?_⟩
        cases first : settled.findSome? Prod.snd with
        | none => rfl
        | some error => exact (continues error nothing first).elim
    obtain ⟨rfl, errorless⟩ := answers
    have someFailed : failedItems settled ≠ [] := by
      intro none
      rw [none, List.forall₂_nil_right_iff] at names
      simp [receipt, completion, names] at incomplete
    have someSucceeded : succeeded ≠ [] := by
      rintro rfl
      have nothing := List.nil_perm.mp sameDone
      exact someFailed (failedItems_eq_nil (errorless nothing))
    have total := divided.trans (sameDone.symm.append_right _)
    refine ⟨requested, ⟨succeeded, failedItems settled⟩, requests, ?_,
      sameDone, rfl, total⟩
    exact (validatePartialPartition_eq_ok bounded).mpr
      ⟨requested,
        { requests
          readsBack := readsBack_of_checkMutation batched checked
          names
          reports },
        someSucceeded, someFailed, total⟩

/-- When some batch went through and another did not, there is a receipt and
it is a partial one. -/
theorem applyMutation_incomplete (debug : Option String → String)
    {client : SpotifyClient} (mutationId : Nat) {mutation : Mutation}
    (checked : checkMutation client mutation = .ok ())
    {done failed : SettledBatch}
    (isDone : done ∈ settledBatches client mutation ∧ done.2 = none)
    (isFailed : failed ∈ settledBatches client mutation ∧ failed.2 ≠ none) :
    ∃ answer, applyMutation debug client mutationId mutation = .ok answer ∧
      answer.completion = .partiallyApplied := by
  have batched : isBatched mutation = true := by
    cases mutation <;> first | rfl | exact absurd isDone.1 List.not_mem_nil
  obtain ⟨outcome, version, -, result⟩ :=
    applyMutation_batched debug client mutationId batched checked
  have someDone := doneItems_ne_nil isDone.1 isDone.2
    (settledBatches_ne_nil client mutation done isDone.1)
  have someFailed := failedItems_ne_nil isFailed.1 isFailed.2
    (settledBatches_ne_nil client mutation failed isFailed.1)
  have names := settledFailures_names debug (settledBatches client mutation)
  split at result
  · rename_i nothing _
    exact absurd nothing someDone
  · refine ⟨_, result, ?_⟩
    have failures : settledFailures debug (settledBatches client mutation) ≠
        [] := by
      intro none
      rw [none, List.forall₂_nil_left_iff] at names
      exact someFailed names
    rw [receipt, completion, if_neg (by rwa [List.isEmpty_iff])]

/-- A partial receipt is accepted exactly when it divides a mutation that the
provider can read back, names and explains every failure, and its two lists
are not empty and make up the request; the Spotify provider's partial receipts
are such, whichever batches fail. -/
theorem partialReceipts_account (bounded : String → String)
    (debug : Option String → String) :
    (∀ (provider : ReceiptProvider) (mutation : Mutation)
      (answer : MutationReceipt) (partition : PartialMutationPartition),
      validatePartialPartition bounded provider mutation answer =
          .ok partition ↔
        ∃ requested, Divides provider mutation requested answer partition ∧
          partition.succeeded ≠ [] ∧ partition.failed ≠ [] ∧
          requested.Perm (partition.succeeded ++ partition.failed)) ∧
    ∀ (client : SpotifyClient) (mutationId : Nat) (mutation : Mutation),
      (checkMutation client mutation = .ok () →
        (∃ done ∈ settledBatches client mutation, done.2 = none) →
        (∃ failed ∈ settledBatches client mutation, failed.2 ≠ none) →
        ∃ answer, applyMutation debug client mutationId mutation = .ok answer ∧
          answer.completion = .partiallyApplied) ∧
      ∀ answer : MutationReceipt,
        applyMutation debug client mutationId mutation = .ok answer →
        answer.completion = .partiallyApplied →
        ∃ requested partition,
          requestedResources mutation = some requested ∧
          validatePartialPartition bounded (spotifyReceiptProvider client)
            mutation answer = .ok partition ∧
          partition.succeeded.Perm
            (doneItems (settledBatches client mutation)) ∧
          partition.failed = failedItems (settledBatches client mutation) ∧
          requested.Perm (partition.succeeded ++ partition.failed) := by
  refine ⟨fun _ _ _ _ => validatePartialPartition_eq_ok bounded,
    fun client mutationId mutation => ⟨?_, fun answer => ?_⟩⟩
  · rintro checked ⟨done, doneMember, wentThrough⟩
      ⟨failed, failedMember, didNot⟩
    exact applyMutation_incomplete debug mutationId checked
      ⟨doneMember, wentThrough⟩ ⟨failedMember, didNot⟩
  · exact validatePartialPartition_applyMutation bounded

/-- A track of Spotify. -/
def receiptTrack : ResourceUri :=
  ⟨.spotify, .track, "saved-track", by decide⟩

def receiptAlbum : ResourceUri :=
  ⟨.spotify, .album, "failed-album", by decide⟩

/-- A client that saves tracks only. -/
def tracksOnlyClient : SpotifyClient where
  providerId := ⟨"spotify"⟩
  playlistVersion _ := .error .notFound
  addPlaylistItems _ _ _ := .error .notFound
  librarySaveByUris uris :=
    if uris = [receiptTrack.asUri, receiptTrack.asUri] then .ok ()
    else .error (.client "album endpoint refused the request")
  libraryUnsaveByUris _ := .error .notFound
  applyWhole _ := .error (.notFound "mutation")

theorem partialReceipts_account_at_two_kinds :
    ∃ answer partition,
      applyMutation (fun _ => "None") tracksOnlyClient 1
        (.librarySave [receiptTrack, receiptAlbum, receiptTrack]) =
          .ok answer ∧
      validatePartialPartition id (spotifyReceiptProvider tracksOnlyClient)
        (.librarySave [receiptTrack, receiptAlbum, receiptTrack]) answer =
          .ok partition ∧
      partition.failed = [receiptAlbum] := by
  obtain ⟨-, produced⟩ := partialReceipts_account id fun _ => "None"
  obtain ⟨incomplete, accepted⟩ := produced tracksOnlyClient 1
    (.librarySave [receiptTrack, receiptAlbum, receiptTrack])
  obtain ⟨answer, applied, completion⟩ := incomplete (by decide +kernel)
    ⟨([receiptTrack, receiptTrack], none), by decide +kernel, rfl⟩
    ⟨([receiptAlbum], some (.provider "album endpoint refused the request")),
      by decide +kernel, nofun⟩
  obtain ⟨requested, partition, -, validated, -, failed, -⟩ :=
    accepted answer applied completion
  exact ⟨answer, partition, applied, validated,
    failed.trans (by decide +kernel)⟩

/-- A failure without a text is refused, though the two lists make up the
request. -/
theorem silent_failure_refused :
    ¬ ∀ (provider : ReceiptProvider) (uris succeeded failed : List ResourceUri)
        (answer : MutationReceipt),
      answer.outcome = .libraryChanged succeeded true →
      answer.failures.map MutationFailure.uri = failed.map some →
      ((validatePartialPartition id provider (.librarySave uris) answer =
          .ok ⟨succeeded, failed⟩) ↔
        succeeded ≠ [] ∧ failed ≠ [] ∧ uris.Perm (succeeded ++ failed)) := by
  intro always
  have accepted := (always (spotifyReceiptProvider tracksOnlyClient)
    [receiptTrack, receiptAlbum] [receiptTrack] [receiptAlbum]
    ⟨1, ⟨"spotify"⟩, .partiallyApplied, .libraryChanged [receiptTrack] true,
      none, [⟨some receiptAlbum, " "⟩]⟩ rfl rfl).mpr
    ⟨nofun, nofun, .refl _⟩
  revert accepted
  decide +kernel

end Receipts

end Spotuify
