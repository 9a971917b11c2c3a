import Mathlib.Data.List.Perm.Subperm
import Mathlib.Data.List.TakeWhile
import Spotuify.ProviderMutation
import Spotuify.SeekInputs

/-!
# Partial mutation receipts

A provider that applied part of a mutation answers with a receipt that names
the items it failed on.  The daemon accepts the receipt only when the items it
reports as done and the items it reports as failed make up the request, each
item as often as it was requested; a receipt for a playlist does not list the
items that were done, so they are what remains of the request.
-/

namespace Spotuify

theorem trim_eq_nil_iff {chars : List Char} :
    trim chars = [] ↔ ∀ char ∈ chars, isWhitespace char := by
  rw [trim, List.reverse_eq_nil_iff, List.dropWhile_eq_nil_iff]
  constructor
  · intro blank
    by_contra present
    have ne : chars.dropWhile isWhitespace ≠ [] := by
      rw [ne_eq, List.dropWhile_eq_nil_iff]
      exact present
    have head := List.head_dropWhile_not isWhitespace ne
    rw [blank _ (List.mem_reverse.mpr (List.head_mem ne))] at head
    cases head
  · intro blank char member
    exact blank char
      ((List.dropWhile_sublist isWhitespace).subset
        (List.mem_reverse.mp member))

namespace Receipts

/-- The fields of a created playlist that receipts are checked by. -/
structure Playlist where
  id : String
  versionToken : Option String
  deriving DecidableEq

inductive MutationOutcome where
  | playlistCreated (playlist : Playlist)
  | playlistChanged (playlistUri : ResourceUri)
  | playlistImageSet (playlistUri : ResourceUri)
  | playlistUnfollowed (playlistUri : ResourceUri)
  | libraryChanged (uris : List ResourceUri) (saved : Bool)
  | followChanged (uris : List ResourceUri) (following : Bool)
  deriving DecidableEq

inductive MutationCompletion where
  | applied
  | partiallyApplied
  deriving DecidableEq

structure MutationFailure where
  uri : Option ResourceUri
  message : String
  deriving DecidableEq

structure MutationReceipt where
  mutationId : Nat
  provider : ProviderId
  completion : MutationCompletion
  outcome : MutationOutcome
  versionToken : Option String
  failures : List MutationFailure
  deriving DecidableEq

/-- What the validation of a receipt reads of its provider. -/
structure ReceiptProvider where
  id : ProviderId
  playlistList : Bool
  playlistItemRead : Bool
  libraryReadKinds : List MediaKind

structure PartialMutationPartition where
  succeeded : List ResourceUri
  failed : List ResourceUri
  deriving DecidableEq

structure MalformedProviderReceiptError where
  provider : ProviderId
  mutation : Mutation
  message : String
  deriving DecidableEq

def mutationKind : Mutation → String
  | .playlistCreate .. => "playlist_create"
  | .playlistAdd .. => "playlist_add"
  | .playlistRemove .. => "playlist_remove"
  | .playlistReorder .. => "playlist_reorder"
  | .playlistSetImage .. => "playlist_set_image"
  | .playlistUnfollow .. => "playlist_unfollow"
  | .librarySave .. => "library_save"
  | .libraryUnsave .. => "library_unsave"
  | .follow .. => "follow"
  | .unfollow .. => "unfollow"

def mutationOutcomeKind : MutationOutcome → String
  | .playlistCreated .. => "playlist_created"
  | .playlistChanged .. => "playlist_changed"
  | .playlistImageSet .. => "playlist_image_set"
  | .playlistUnfollowed .. => "playlist_unfollowed"
  | .libraryChanged .. => "library_changed"
  | .followChanged .. => "follow_changed"

/-- Drop from a list the first occurrences of the URIs still counted. -/
def subtractCounted (remaining : ResourceUri → Nat) :
    List ResourceUri → List ResourceUri
  | [] => []
  | uri :: rest =>
    if remaining uri > 0 then
      subtractCounted
        (fun other => if other = uri then remaining uri - 1 else remaining other)
        rest
    else
      uri :: subtractCounted remaining rest

def subtractResources (requested removed : List ResourceUri) :
    List ResourceUri :=
  subtractCounted (fun uri => removed.count uri) requested

def sameResources (expected actual : List ResourceUri) : Bool :=
  expected.length == actual.length &&
    expected.all fun uri => expected.count uri == actual.count uri

/-- Counting down is erasing one occurrence after another. -/
theorem subtractResources_eq_diff (requested removed : List ResourceUri) :
    subtractResources requested removed = requested.diff removed := by
  unfold subtractResources
  induction requested generalizing removed with
  | nil => rw [subtractCounted, List.nil_diff]
  | cons uri rest inductionHypothesis =>
    rw [subtractCounted]
    by_cases counted : removed.count uri > 0
    · have erased :
          (fun other =>
            if other = uri then removed.count uri - 1 else removed.count other) =
            fun other => (removed.erase uri).count other := by
        funext other
        by_cases same : other = uri
        · rw [if_pos same, same, List.count_erase_self]
        · rw [if_neg same, List.count_erase_of_ne same]
      rw [if_pos counted, erased, inductionHypothesis,
        List.cons_diff_of_mem (List.count_pos_iff.mp counted)]
    · rw [if_neg counted, inductionHypothesis,
        List.cons_diff_of_not_mem (fun member =>
          counted (List.count_pos_iff.mpr member))]

/-- Equal lengths and equal counts of what is expected leave no room for
anything else. -/
theorem sameResources_iff {expected actual : List ResourceUri} :
    sameResources expected actual = true ↔ expected.Perm actual := by
  rw [sameResources, Bool.and_eq_true, beq_iff_eq, List.all_eq_true]
  constructor
  · rintro ⟨sameLength, sameCounts⟩
    have contained : expected.Subperm actual :=
      List.subperm_ext_iff.mpr fun uri member =>
        (beq_iff_eq.mp (sameCounts uri member)).le
    exact contained.perm_of_length_le sameLength.ge
  · intro permuted
    exact ⟨permuted.length_eq, fun uri _ =>
      beq_iff_eq.mpr (permuted.count_eq uri)⟩

section Validation

/- `bounded` is `bounded_redacted_text(_, 512)`. -/
variable (bounded : String → String) (provider : ReceiptProvider)
  (mutation : Mutation)

def malformedReceipt (message : String) : MalformedProviderReceiptError where
  provider := provider.id
  mutation := mutation
  message := bounded message

/-- The items a mutation may apply in part. -/
def requestedResources : Mutation → Option (List ResourceUri)
  | .playlistAdd _ items _ => some (items.map PlaylistInsertion.uri)
  | .playlistRemove _ items _ => some (items.map PlaylistItemRef.uri)
  | .librarySave uris | .libraryUnsave uris | .follow uris | .unfollow uris =>
    some uris
  | .playlistCreate .. | .playlistReorder .. | .playlistSetImage ..
  | .playlistUnfollow .. => none

/-- Whether the provider can read back what a mutation left half done; the
message says what it lacks. -/
def readBackGap (requested : List ResourceUri) : Option String :=
  match mutation with
  | .playlistAdd .. | .playlistRemove .. =>
    if !provider.playlistList || !provider.playlistItemRead then
      some ("provider " ++ provider.id.value ++ " returned partial " ++
        mutationKind mutation ++
        " without list and item-read capabilities required for reconciliation")
    else none
  | .librarySave _ | .libraryUnsave _ | .follow _ | .unfollow _ =>
    if requested.any fun uri => !provider.libraryReadKinds.contains uri.kind then
      some ("provider " ++ provider.id.value ++ " returned partial " ++
        mutationKind mutation ++ " for a kind it cannot read back")
    else none
  | _ => none

/-- The URIs of the reported failures. -/
def failedResources : List MutationFailure → Except String (List ResourceUri)
  | [] => .ok []
  | failure :: rest =>
    match failure.uri with
    | none =>
      .error ("provider " ++ provider.id.value ++ " reported a partial " ++
        mutationKind mutation ++ " failure without a URI")
    | some uri =>
      if (trim failure.message.toList).isEmpty then
        .error ("provider " ++ provider.id.value ++ " reported a partial " ++
          mutationKind mutation ++ " failure without a message")
      else do
        let failed ← failedResources rest
        return uri :: failed

/-- The items an outcome reports as done. -/
def reportedResources (requested failed : List ResourceUri) :
    Mutation → MutationOutcome → Option (List ResourceUri)
  | .librarySave _, .libraryChanged uris true
  | .libraryUnsave _, .libraryChanged uris false
  | .follow _, .followChanged uris true
  | .unfollow _, .followChanged uris false => some uris
  | .playlistAdd playlistUri .., .playlistChanged outcomeUri
  | .playlistRemove playlistUri .., .playlistChanged outcomeUri =>
    if playlistUri = outcomeUri then some (subtractResources requested failed)
    else none
  | _, _ => none

def validatePartialPartition (receipt : MutationReceipt) :
    Except MalformedProviderReceiptError PartialMutationPartition :=
  let malformed (message : String) :
      Except MalformedProviderReceiptError PartialMutationPartition :=
    .error (malformedReceipt bounded provider mutation message)
  match requestedResources mutation with
  | none =>
    malformed ("provider " ++ provider.id.value ++
      " returned partial completion for atomic " ++ mutationKind mutation)
  | some requested =>
    match readBackGap provider mutation requested with
    | some message => malformed message
    | none =>
      if receipt.failures.isEmpty then
        malformed ("provider " ++ provider.id.value ++
          " reported partially-applied " ++ mutationKind mutation ++
          " without failures")
      else
        match failedResources provider mutation receipt.failures with
        | .error message => malformed message
        | .ok failed =>
          match reportedResources requested failed mutation receipt.outcome with
          | none =>
            malformed ("provider " ++ provider.id.value ++ " returned " ++
              mutationOutcomeKind receipt.outcome ++ " for partial " ++
              mutationKind mutation)
          | some succeeded =>
            if succeeded.isEmpty || failed.isEmpty then
              malformed ("provider " ++ provider.id.value ++ " partial " ++
                mutationKind mutation ++
                " must contain nonempty successes and failures")
            else if !sameResources requested (succeeded ++ failed) then
              malformed ("provider " ++ provider.id.value ++ " partial " ++
                mutationKind mutation ++
                " does not exactly partition the requested items")
            else
              .ok ⟨succeeded, failed⟩

/-- A mutation whose items the provider can read back. -/
def ReadsBack : Mutation → Prop
  | .playlistAdd .. | .playlistRemove .. =>
    provider.playlistList = true ∧ provider.playlistItemRead = true
  | .librarySave uris | .libraryUnsave uris | .follow uris | .unfollow uris =>
    ∀ uri ∈ uris, uri.kind ∈ provider.libraryReadKinds
  | _ => False

/-- A text that is not blank. -/
def Speaks (text : String) : Prop :=
  ∃ char ∈ text.toList, isWhitespace char = false

theorem Speaks.append {text : String} (speaks : Speaks text) (rest : String) :
    Speaks (text ++ rest) := by
  obtain ⟨char, member, visible⟩ := speaks
  refine ⟨char, ?_, visible⟩
  rw [String.toList_append]
  exact List.mem_append_left rest.toList member

/-- A failure that names an item and says something. -/
def MutationFailure.Names (failure : MutationFailure) (uri : ResourceUri) :
    Prop :=
  failure.uri = some uri ∧ Speaks failure.message

/-- The outcome belongs to the mutation and its receipt reports `succeeded`:
the listed items, or what the failures leave of a playlist's. -/
def Reports (requested failed succeeded : List ResourceUri) :
    Mutation → MutationOutcome → Prop
  | .librarySave _, .libraryChanged uris saved =>
    saved = true ∧ uris = succeeded
  | .libraryUnsave _, .libraryChanged uris saved =>
    saved = false ∧ uris = succeeded
  | .follow _, .followChanged uris following =>
    following = true ∧ uris = succeeded
  | .unfollow _, .followChanged uris following =>
    following = false ∧ uris = succeeded
  | .playlistAdd playlistUri .., .playlistChanged outcomeUri
  | .playlistRemove playlistUri .., .playlistChanged outcomeUri =>
    playlistUri = outcomeUri ∧ requested.diff failed = succeeded
  | _, _ => False

/-- A receipt that divides a mutation into the two lists of a partition. -/
structure Divides (requested : List ResourceUri) (receipt : MutationReceipt)
    (partition : PartialMutationPartition) : Prop where
  requests : requestedResources mutation = some requested
  readsBack : ReadsBack provider mutation
  names : List.Forall₂ MutationFailure.Names receipt.failures partition.failed
  reports :
    Reports requested partition.failed partition.succeeded mutation
      receipt.outcome

variable {provider mutation}

theorem readBackGap_eq_none {requested : List ResourceUri}
    (requests : requestedResources mutation = some requested) :
    readBackGap provider mutation requested = none ↔
      ReadsBack provider mutation := by
  cases mutation <;> cases requests <;>
    simp [readBackGap, ReadsBack]

theorem failedResources_eq_ok {failures : List MutationFailure}
    {failed : List ResourceUri} :
    failedResources provider mutation failures = .ok failed ↔
      List.Forall₂ MutationFailure.Names failures failed := by
  induction failures generalizing failed with
  | nil => simp [failedResources, eq_comm]
  | cons failure rest inductionHypothesis =>
    rw [failedResources, List.forall₂_cons_left_iff]
    cases named : failure.uri with
    | none => simp [MutationFailure.Names, named]
    | some uri =>
      have speaks :
          (trim failure.message.toList).isEmpty = true ↔
            ¬ Speaks failure.message := by
        rw [List.isEmpty_iff, trim_eq_nil_iff]
        simp [Speaks]
      by_cases blank : (trim failure.message.toList).isEmpty = true
      · have silent := speaks.mp blank
        simp only [if_pos blank, reduceCtorEq, MutationFailure.Names, silent,
          and_false, false_and, exists_false]
      · have spoken := not_not.mp (mt speaks.mpr blank)
        simp only [if_neg blank, MutationFailure.Names, named, spoken,
          and_true, Option.some.injEq]
        cases read : failedResources provider mutation rest with
        | error message =>
          rw [read] at inductionHypothesis
          simp only [bind, Except.bind, reduceCtorEq, false_iff, not_exists]
          rintro named rest ⟨-, named, -⟩
          exact absurd (inductionHypothesis.mpr named) nofun
        | ok others =>
          simp only [read, Except.ok.injEq] at inductionHypothesis
          simp only [bind, Except.bind, pure, Except.pure, Except.ok.injEq]
          constructor
          · rintro rfl
            exact ⟨uri, others, rfl, inductionHypothesis.mp rfl, rfl⟩
          · rintro ⟨_, rest, rfl, named, rfl⟩
            rw [inductionHypothesis.mpr named]

theorem reportedResources_eq_some {requested failed succeeded : List ResourceUri}
    {outcome : MutationOutcome} :
    reportedResources requested failed mutation outcome = some succeeded ↔
      Reports requested failed succeeded mutation outcome := by
  cases mutation <;> cases outcome <;>
    simp [reportedResources, Reports, subtractResources_eq_diff] <;>
    rename_i flag <;> cases flag <;> simp

/-- A partial receipt is accepted exactly when it divides the mutation into
two lists, neither empty, that together are the request. -/
theorem validatePartialPartition_eq_ok {receipt : MutationReceipt}
    {partition : PartialMutationPartition} :
    validatePartialPartition bounded provider mutation receipt =
        .ok partition ↔
      ∃ requested, Divides provider mutation requested receipt partition ∧
        partition.succeeded ≠ [] ∧ partition.failed ≠ [] ∧
        requested.Perm (partition.succeeded ++ partition.failed) := by
  constructor
  · intro accepted
    unfold validatePartialPartition at accepted
    split at accepted
    · cases accepted
    rename_i requested requests
    split at accepted
    · cases accepted
    rename_i gap
    split at accepted
    · cases accepted
    split at accepted
    · cases accepted
    rename_i failed named
    split at accepted
    · cases accepted
    rename_i succeeded reported
    split at accepted
    · cases accepted
    rename_i filled
    split at accepted
    · cases accepted
    rename_i same
    cases accepted
    simp only [Bool.or_eq_true, List.isEmpty_iff, not_or] at filled
    simp only [Bool.not_eq_true', Bool.not_eq_false] at same
    exact ⟨requested,
      { requests
        readsBack := (readBackGap_eq_none requests).mp gap
        names := failedResources_eq_ok.mp named
        reports := reportedResources_eq_some.mp reported },
      filled.1, filled.2, sameResources_iff.mp same⟩
  · rintro ⟨requested, divides, someSucceeded, someFailed, permuted⟩
    have failures : receipt.failures.isEmpty = false := by
      rw [List.isEmpty_eq_false_iff]
      intro none
      have names := divides.names
      rw [none, List.forall₂_nil_left_iff] at names
      exact someFailed names
    have filled :
        (partition.succeeded.isEmpty || partition.failed.isEmpty) = false := by
      rw [Bool.or_eq_false_iff, List.isEmpty_eq_false_iff,
        List.isEmpty_eq_false_iff]
      exact ⟨someSucceeded, someFailed⟩
    simp only [validatePartialPartition, divides.requests,
      (readBackGap_eq_none divides.requests).mpr divides.readsBack, failures,
      failedResources_eq_ok.mpr divides.names,
      reportedResources_eq_some.mpr divides.reports, filled,
      sameResources_iff.mpr permuted, Bool.not_true, Bool.false_eq_true,
      if_false]

end Validation

end Receipts

end Spotuify
