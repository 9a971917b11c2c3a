import Spotuify.BatchedMutations
import Spotuify.JsonText
import Spotuify.LabelledPass

/-!
# Summaries of partial receipts

A partially applied mutation fails with a summary of its receipt.  The summary
names at most 24 items, failures first, each by a redacted and bounded preview
and a digest; entries are dropped from its end until its JSON is within
16 KiB.  It always accounts for every item.  It exists unless redaction panics
on a text that it shows, or the first failure alone does not fit beside the
provider's id, the one text that is not bounded.
-/

namespace Spotuify.Receipts

open Redaction

structure PartialResourceSummary where
  preview : List Char
  sha256 : List Char
  deriving DecidableEq

structure PartialFailureSummary where
  resource : PartialResourceSummary
  message : List Char
  deriving DecidableEq

structure PartialMutationSummary where
  schema : String
  provider : ProviderId
  mutationId : Nat
  mutation : String
  outcome : String
  target : Option PartialResourceSummary
  succeeded : List PartialResourceSummary
  failures : List PartialFailureSummary
  succeededCount : Nat
  failureCount : Nat
  omittedSucceeded : Nat
  omittedFailures : Nat
  versionToken : Option (List Char)
  deriving DecidableEq

def partialSummaryMaxItems : Nat := 24
def partialSummaryUriChars : Nat := 96
def partialSummaryMessageChars : Nat := 160
def partialSummaryTokenChars : Nat := 96
def partialSummaryMaxBytes : Nat := 16 * 1024

def hex (width value : Nat) : List Char :=
  (Nat.toDigits 16 value).leftpad width '0'

/-- A UUID with its hyphens. -/
def uuidText (id : Nat) : List Char :=
  hex 8 (id / 2 ^ 96 % 2 ^ 32) ++ '-' :: (hex 4 (id / 2 ^ 80 % 2 ^ 16) ++
    '-' :: (hex 4 (id / 2 ^ 64 % 2 ^ 16) ++
      '-' :: (hex 4 (id / 2 ^ 48 % 2 ^ 16) ++ '-' :: hex 12 (id % 2 ^ 48))))

def PartialResourceSummary.toJson (summary : PartialResourceSummary) :
    List Char :=
  JsonText.object
    [("preview", JsonText.string summary.preview),
      ("sha256", JsonText.string summary.sha256)]

def PartialFailureSummary.toJson (summary : PartialFailureSummary) :
    List Char :=
  JsonText.object
    [("resource", summary.resource.toJson),
      ("message", JsonText.string summary.message)]

def PartialMutationSummary.toJson (summary : PartialMutationSummary) :
    List Char :=
  JsonText.object
    [("schema", JsonText.string summary.schema.toList),
      ("provider", JsonText.string summary.provider.value.toList),
      ("mutation_id", JsonText.string (uuidText summary.mutationId)),
      ("mutation", JsonText.string summary.mutation.toList),
      ("outcome", JsonText.string summary.outcome.toList),
      ("target", JsonText.option PartialResourceSummary.toJson summary.target),
      ("succeeded",
        JsonText.array (summary.succeeded.map PartialResourceSummary.toJson)),
      ("failures",
        JsonText.array (summary.failures.map PartialFailureSummary.toJson)),
      ("succeeded_count", JsonText.number summary.succeededCount),
      ("failure_count", JsonText.number summary.failureCount),
      ("omitted_succeeded", JsonText.number summary.omittedSucceeded),
      ("omitted_failures", JsonText.number summary.omittedFailures),
      ("version_token", JsonText.option JsonText.string summary.versionToken)]

def boundedText (value : List Char) (maxChars : Nat) : List Char :=
  let bounded := value.take maxChars
  if value.length > maxChars then bounded ++ ['…'] else bounded

def boundedRedactedText (value : String) (maxChars : Nat) :
    Except Failure (List Char) := do
  let redacted ← redactSensitiveText value.toList
  return boundedText redacted maxChars

def partialTargetUri : Mutation → Option ResourceUri
  | .playlistAdd playlistUri .. | .playlistRemove playlistUri .. =>
    some playlistUri
  | _ => none

def hexByte (byte : UInt8) : List Char :=
  [JsonText.hexDigit (byte.toNat / 16), JsonText.hexDigit (byte.toNat % 16)]

/-- The redaction panicked, or the summary is given up with a message. -/
inductive PartialSummaryFailure where
  | panicked (failure : Failure)
  | failed (message : String)
  deriving DecidableEq

namespace PartialMutationSummary

/-- One turn of the loop that shortens a summary. -/
def dropEntry (summary : PartialMutationSummary) :
    Except PartialSummaryFailure PartialMutationSummary :=
  if summary.succeeded.isEmpty = false then
    .ok
      { summary with
        succeeded := summary.succeeded.dropLast
        omittedSucceeded := summary.omittedSucceeded + 1 }
  else if summary.failures.length > 1 then
    .ok
      { summary with
        failures := summary.failures.dropLast
        omittedFailures := summary.omittedFailures + 1 }
  else .error (.failed "bounded partial mutation summary exceeded its byte limit")

def entries (summary : PartialMutationSummary) : Nat :=
  summary.succeeded.length + summary.failures.length

theorem entries_dropEntry {summary shorter : PartialMutationSummary}
    (drops : summary.dropEntry = .ok shorter) :
    shorter.entries < summary.entries := by
  unfold dropEntry at drops
  split at drops
  · rename_i filled
    cases drops
    have positive := List.length_pos_iff.mpr (List.isEmpty_eq_false_iff.mp filled)
    simp only [entries, List.length_dropLast]
    omega
  · split at drops
    · cases drops
      simp only [entries, List.length_dropLast]
      omega
    · cases drops

/-- The loop of `bounded_partial_summary`. -/
def shorten (summary : PartialMutationSummary) :
    Except PartialSummaryFailure (PartialMutationSummary × List Char) :=
  let detail := summary.toJson
  if Utf8.size detail > partialSummaryMaxBytes then
    match _drops : summary.dropEntry with
    | .ok shorter => shorten shorter
    | .error failure => .error failure
  else .ok (summary, detail)
termination_by summary.entries
decreasing_by exact entries_dropEntry _drops

end PartialMutationSummary

section Summary

/- `sha256` is the digest of some bytes. -/
variable (sha256 : List UInt8 → Vector UInt8 32) (provider : ReceiptProvider)
  (mutation : Mutation) (receipt : MutationReceipt)
  (partition : PartialMutationPartition)

def resourceDigest (uri : ResourceUri) : List Char :=
  (sha256 (Utf8.bytes uri.asUri.toList)).toList.flatMap hexByte

def resourceSummary (uri : ResourceUri) :
    Except Failure PartialResourceSummary := do
  let preview ← boundedRedactedText uri.asUri partialSummaryUriChars
  return ⟨preview, resourceDigest sha256 uri⟩

def failureSummary (failure : ResourceUri × String) :
    Except Failure PartialFailureSummary := do
  let resource ← resourceSummary sha256 failure.1
  let message ← boundedRedactedText failure.2 partialSummaryMessageChars
  return ⟨resource, message⟩

/-- The failed items, each with its message. -/
def failedEntries : List (ResourceUri × String) :=
  partition.failed.zip (receipt.failures.map MutationFailure.message)

def keptFailures : Nat := min partition.failed.length partialSummaryMaxItems

def keptSuccesses : Nat :=
  min partition.succeeded.length
    (partialSummaryMaxItems - keptFailures partition)

/-- The summary before it is shortened. -/
def partialSummary : Except Failure PartialMutationSummary := do
  let target ← (partialTargetUri mutation).mapM (resourceSummary sha256)
  let succeeded ← (partition.succeeded.take (keptSuccesses partition)).mapM
    (resourceSummary sha256)
  let failures ← ((failedEntries receipt partition).take
    (keptFailures partition)).mapM (failureSummary sha256)
  let versionToken ← receipt.versionToken.mapM
    (boundedRedactedText · partialSummaryTokenChars)
  return {
    schema := "spotuify.provider-partial.v1"
    provider := provider.id
    mutationId := receipt.mutationId
    mutation := mutationKind mutation
    outcome := mutationOutcomeKind receipt.outcome
    target := target
    succeeded := succeeded
    failures := failures
    succeededCount := partition.succeeded.length
    failureCount := partition.failed.length
    omittedSucceeded := partition.succeeded.length - keptSuccesses partition
    omittedFailures := partition.failed.length - keptFailures partition
    versionToken := versionToken }

def boundedPartialSummary :
    Except PartialSummaryFailure (PartialMutationSummary × List Char) :=
  match partialSummary sha256 provider mutation receipt partition with
  | .ok summary => summary.shorten
  | .error failure => .error (.panicked failure)

/-- A text as a summary shows it. -/
def shownText (value : String) (maxChars : Nat) : List Char :=
  boundedText
    (redactTokens looksSensitiveToken
      ((redactFrom none value.toList).getD []))
    maxChars

def shownResource (uri : ResourceUri) : PartialResourceSummary :=
  ⟨shownText uri.asUri partialSummaryUriChars, resourceDigest sha256 uri⟩

def shownFailure (failure : ResourceUri × String) : PartialFailureSummary :=
  ⟨shownResource sha256 failure.1,
    shownText failure.2 partialSummaryMessageChars⟩

/-- The summary that names the first failure only. -/
def leastSummary : PartialMutationSummary where
  schema := "spotuify.provider-partial.v1"
  provider := provider.id
  mutationId := receipt.mutationId
  mutation := mutationKind mutation
  outcome := mutationOutcomeKind receipt.outcome
  target := (partialTargetUri mutation).map (shownResource sha256)
  succeeded := []
  failures := ((failedEntries receipt partition).take 1).map (shownFailure sha256)
  succeededCount := partition.succeeded.length
  failureCount := partition.failed.length
  omittedSucceeded := partition.succeeded.length
  omittedFailures := partition.failed.length - 1
  versionToken := receipt.versionToken.map
    (shownText · partialSummaryTokenChars)

/-- The summary before it is shortened, when all its texts can be redacted. -/
def shownSummary : PartialMutationSummary :=
  { leastSummary sha256 provider mutation receipt partition with
    succeeded := (partition.succeeded.take (keptSuccesses partition)).map
      (shownResource sha256)
    failures := ((failedEntries receipt partition).take
      (keptFailures partition)).map (shownFailure sha256)
    omittedSucceeded := partition.succeeded.length - keptSuccesses partition
    omittedFailures := partition.failed.length - keptFailures partition }

variable {sha256 provider mutation receipt partition}

theorem not_shows_of_error {Value : Type} {result : Except Failure Value}
    {Shows : Prop} {shown : Value} {failure : Failure}
    (each : ∀ value, result = .ok value ↔ Shows ∧ shown = value)
    (fails : result = .error failure) : ¬ Shows := by
  intro shows
  rw [(each shown).mpr ⟨shows, rfl⟩] at fails
  cases fails

theorem boundedRedactedText_eq_ok {value : String} {maxChars : Nat}
    {text : List Char} :
    boundedRedactedText value maxChars = .ok text ↔
      Redactable none value.toList ∧ shownText value maxChars = text := by
  unfold boundedRedactedText shownText
  cases redacts : redactSensitiveText value.toList with
  | error failure =>
    have panics := not_shows_of_error (fun _ => redactSensitiveText_eq_ok)
      redacts
    simp [panics, bind, Except.bind]
  | ok redacted =>
    obtain ⟨redactable, shown⟩ := redactSensitiveText_eq_ok.mp redacts
    simp [redactable, shown, bind, Except.bind, pure, Except.pure]

theorem redactable_asUri (uri : ResourceUri) :
    Redactable none uri.asUri.toList := by
  apply redactable_of_unquoted rfl
  intro char member
  cases quote : isQuote char with
  | false => rfl
  | true =>
    rcases of_decide_eq_true quote with rfl | rfl
    · exact absurd member (uri.not_mem_asUri (by decide) (by decide) (by decide))
    · exact absurd member (uri.not_mem_asUri (by decide) (by decide) (by decide))

theorem resourceSummary_eq (uri : ResourceUri) :
    resourceSummary sha256 uri = .ok (shownResource sha256 uri) := by
  rw [resourceSummary, boundedRedactedText_eq_ok.mpr
    ⟨redactable_asUri uri, rfl⟩]
  rfl

theorem failureSummary_eq_ok {failure : ResourceUri × String}
    {summary : PartialFailureSummary} :
    failureSummary sha256 failure = .ok summary ↔
      Redactable none failure.2.toList ∧
        shownFailure sha256 failure = summary := by
  rw [failureSummary, resourceSummary_eq]
  cases shows : boundedRedactedText failure.2 partialSummaryMessageChars with
  | error panic =>
    have panics := not_shows_of_error (fun _ => boundedRedactedText_eq_ok) shows
    simp [panics, bind, Except.bind]
  | ok message =>
    obtain ⟨redactable, rfl⟩ := boundedRedactedText_eq_ok.mp shows
    simp [redactable, shownFailure, bind, Except.bind, pure, Except.pure]

/-- Items that are shown one by one. -/
theorem mapM_eq_ok_iff {Item Value : Type} {items : List Item}
    {values : List Value} {step : Item → Except Failure Value}
    {Shows : Item → Prop} {shown : Item → Value}
    (each : ∀ item value,
      step item = .ok value ↔ Shows item ∧ shown item = value) :
    items.mapM step = .ok values ↔
      (∀ item ∈ items, Shows item) ∧ items.map shown = values := by
  induction items generalizing values with
  | nil => simp [pure, Except.pure]
  | cons item items inductionHypothesis =>
    rw [List.mapM_cons, List.forall_mem_cons, List.map_cons]
    cases first : step item with
    | error failure =>
      have hidden := not_shows_of_error (each item) first
      simp [hidden, bind, Except.bind]
    | ok value =>
      obtain ⟨shows, rfl⟩ := (each item value).mp first
      cases rest : items.mapM step with
      | error failure =>
        have hidden := not_shows_of_error (fun _ => inductionHypothesis) rest
        simp [hidden, bind, Except.bind]
      | ok others =>
        obtain ⟨showsRest, rfl⟩ := inductionHypothesis.mp rest
        simpa [shows, bind, Except.bind, pure, Except.pure] using
          fun _ => showsRest

theorem mapM_resourceSummary (uris : List ResourceUri) :
    uris.mapM (resourceSummary sha256) =
      .ok (uris.map (shownResource sha256)) := by
  have each : ∀ uri summary, resourceSummary sha256 uri = .ok summary ↔
      True ∧ shownResource sha256 uri = summary := by
    intro uri summary
    rw [resourceSummary_eq, Except.ok.injEq, true_and]
  exact (mapM_eq_ok_iff each).mpr ⟨fun _ _ => trivial, rfl⟩

theorem target_resourceSummary :
    (partialTargetUri mutation).mapM (resourceSummary sha256) =
      .ok ((partialTargetUri mutation).map (shownResource sha256)) := by
  cases partialTargetUri mutation with
  | none => rfl
  | some uri =>
    rw [Option.mapM_some, resourceSummary_eq]
    rfl

theorem token_boundedRedactedText {token : Option (List Char)} :
    receipt.versionToken.mapM
        (boundedRedactedText · partialSummaryTokenChars) = .ok token ↔
      (∀ text ∈ receipt.versionToken, Redactable none text.toList) ∧
        receipt.versionToken.map (shownText · partialSummaryTokenChars) =
          token := by
  cases receipt.versionToken with
  | none => simp [pure, Except.pure]
  | some text =>
    rw [Option.mapM_some]
    cases shows : boundedRedactedText text partialSummaryTokenChars with
    | error panic =>
      have panics := not_shows_of_error (fun _ => boundedRedactedText_eq_ok)
        shows
      simp [panics, Functor.map, Except.map]
    | ok shown =>
      obtain ⟨redactable, rfl⟩ := boundedRedactedText_eq_ok.mp shows
      simp [redactable, Functor.map, Except.map]

theorem partialSummary_eq_ok {summary : PartialMutationSummary} :
    partialSummary sha256 provider mutation receipt partition = .ok summary ↔
      (∀ failure ∈ (failedEntries receipt partition).take
          (keptFailures partition), Redactable none failure.2.toList) ∧
        (∀ text ∈ receipt.versionToken, Redactable none text.toList) ∧
          shownSummary sha256 provider mutation receipt partition =
            summary := by
  unfold partialSummary
  rw [target_resourceSummary, mapM_resourceSummary]
  simp only [bind, Except.bind]
  cases failing : ((failedEntries receipt partition).take
      (keptFailures partition)).mapM (failureSummary sha256) with
  | error panic =>
    have panics := not_shows_of_error (fun _ =>
      mapM_eq_ok_iff fun _ _ => failureSummary_eq_ok) failing
    simp only [panics, false_and, reduceCtorEq]
  | ok failures =>
    obtain ⟨redactable, rfl⟩ :=
      (mapM_eq_ok_iff fun _ _ => failureSummary_eq_ok).mp failing
    cases showing : receipt.versionToken.mapM
        (boundedRedactedText · partialSummaryTokenChars) with
    | error panic =>
      have panics := not_shows_of_error (fun _ => token_boundedRedactedText)
        showing
      simp only [panics, false_and, and_false, reduceCtorEq]
    | ok token =>
      obtain ⟨redactableToken, rfl⟩ := token_boundedRedactedText.mp showing
      rw [and_iff_right redactable, and_iff_right redactableToken]
      simp only [pure, Except.pure, Except.ok.injEq]
      rfl

end Summary

namespace PartialMutationSummary

variable {summary shorter longer : PartialMutationSummary}

/-- A summary with entries dropped from its ends, and accounted for. -/
structure Shortens (summary shorter : PartialMutationSummary) : Prop where
  succeeded : shorter.succeeded <+: summary.succeeded
  failures : shorter.failures <+: summary.failures
  succeededCount : shorter.succeededCount = summary.succeededCount
  failureCount : shorter.failureCount = summary.failureCount
  omittedSucceeded : shorter.succeeded.length + shorter.omittedSucceeded =
    summary.succeeded.length + summary.omittedSucceeded
  omittedFailures : shorter.failures.length + shorter.omittedFailures =
    summary.failures.length + summary.omittedFailures

/-- The summary that nothing more is dropped from. -/
def shortest (summary : PartialMutationSummary) : PartialMutationSummary :=
  { summary with
    succeeded := []
    failures := summary.failures.take 1
    omittedSucceeded := summary.succeeded.length + summary.omittedSucceeded
    omittedFailures := summary.failures.length - 1 + summary.omittedFailures }

theorem dropEntry_cases (drops : summary.dropEntry = .ok shorter) :
    (∃ kept last, summary.succeeded = kept ++ [last] ∧
      shorter = { summary with
        succeeded := kept
        omittedSucceeded := summary.omittedSucceeded + 1 }) ∨
    (∃ kept last, kept ≠ [] ∧ summary.succeeded = [] ∧
      summary.failures = kept ++ [last] ∧
      shorter = { summary with
        failures := kept
        omittedFailures := summary.omittedFailures + 1 }) := by
  unfold dropEntry at drops
  cases succeeded : summary.succeeded using List.reverseRecOn with
  | append_singleton kept last =>
    rw [if_pos (by simp [succeeded])] at drops
    cases drops
    exact Or.inl ⟨kept, last, rfl, by rw [succeeded, List.dropLast_concat]⟩
  | nil =>
    rw [if_neg (by simp [succeeded])] at drops
    cases failures : summary.failures using List.reverseRecOn with
    | nil =>
      rw [if_neg (by simp [failures])] at drops
      cases drops
    | append_singleton kept last =>
      by_cases several : kept = []
      · rw [if_neg (by simp [failures, several])] at drops
        cases drops
      · have many := List.length_pos_iff.mpr several
        rw [if_pos (by simpa [failures] using many)] at drops
        cases drops
        exact Or.inr ⟨kept, last, several, rfl, rfl, by
          rw [failures, succeeded, List.dropLast_concat]⟩

theorem dropEntry_shortens (drops : summary.dropEntry = .ok shorter) :
    summary.Shortens shorter := by
  rcases dropEntry_cases drops with ⟨kept, last, succeeded, rfl⟩ |
    ⟨kept, last, -, none, failures, rfl⟩
  · exact
      { succeeded := succeeded ▸ List.prefix_append kept [last]
        failures := List.prefix_rfl
        succeededCount := rfl
        failureCount := rfl
        omittedSucceeded := by
          simp only [succeeded, List.length_append, List.length_singleton]
          omega
        omittedFailures := rfl }
  · exact
      { succeeded := List.prefix_rfl
        failures := failures ▸ List.prefix_append kept [last]
        succeededCount := rfl
        failureCount := rfl
        omittedSucceeded := rfl
        omittedFailures := by
          simp only [failures, List.length_append, List.length_singleton]
          omega }

theorem Shortens.refl : summary.Shortens summary where
  succeeded := List.prefix_rfl
  failures := List.prefix_rfl
  succeededCount := rfl
  failureCount := rfl
  omittedSucceeded := rfl
  omittedFailures := rfl

theorem Shortens.trans (first : longer.Shortens summary)
    (second : summary.Shortens shorter) : longer.Shortens shorter where
  succeeded := second.succeeded.trans first.succeeded
  failures := second.failures.trans first.failures
  succeededCount := second.succeededCount.trans first.succeededCount
  failureCount := second.failureCount.trans first.failureCount
  omittedSucceeded := second.omittedSucceeded.trans first.omittedSucceeded
  omittedFailures := second.omittedFailures.trans first.omittedFailures

theorem shortest_dropEntry (drops : summary.dropEntry = .ok shorter) :
    shorter.shortest = summary.shortest := by
  rcases dropEntry_cases drops with ⟨kept, last, succeeded, rfl⟩ |
    ⟨kept, last, several, none, failures, rfl⟩
  · simp only [shortest, succeeded, List.length_append, List.length_singleton]
    congr 1
    omega
  · have positive := List.length_pos_iff.mpr several
    have first : (kept ++ [last]).take 1 = kept.take 1 :=
      List.take_append_of_le_length positive
    simp only [shortest, failures, first, List.length_append,
      List.length_singleton]
    congr 1
    omega

theorem shortest_of_dropEntry_error {failure : PartialSummaryFailure}
    (ends : summary.dropEntry = .error failure) : summary.shortest = summary := by
  unfold dropEntry at ends
  split at ends
  · cases ends
  · rename_i noSuccess
    split at ends
    · cases ends
    · rename_i few
      have succeeded : summary.succeeded = [] := by simpa using noSuccess
      have one : summary.failures.take 1 = summary.failures :=
        List.take_of_length_le (by omega)
      have omitted : summary.failures.length - 1 = 0 := by omega
      simp only [shortest, one, succeeded, omitted, List.length_nil,
        Nat.zero_add]
      rw [← succeeded]

theorem size_dropEntry_le (drops : summary.dropEntry = .ok shorter) :
    Utf8.size shorter.toJson ≤ Utf8.size summary.toJson := by
  rcases dropEntry_cases drops with ⟨kept, last, succeeded, rfl⟩ |
    ⟨kept, last, -, none, failures, rfl⟩
  · have fewer := @JsonText.size_array_concat last.toJson
      (kept.map PartialResourceSummary.toJson)
    have counted := JsonText.size_number_succ_le summary.omittedSucceeded
    have written : 0 < Utf8.size last.toJson :=
      Utf8.size_pos (List.cons_ne_nil _ _)
    simp only [toJson, JsonText.size_object, List.map_cons, List.map_nil,
      List.sum_cons, List.sum_nil, List.length_cons, List.length_nil,
      succeeded, List.map_append]
    omega
  · have fewer := @JsonText.size_array_concat last.toJson
      (kept.map PartialFailureSummary.toJson)
    have counted := JsonText.size_number_succ_le summary.omittedFailures
    have written : 0 < Utf8.size last.toJson :=
      Utf8.size_pos (List.cons_ne_nil _ _)
    simp only [toJson, JsonText.size_object, List.map_cons, List.map_nil,
      List.sum_cons, List.sum_nil, List.length_cons, List.length_nil,
      failures, List.map_append]
    omega

/-- Dropping entries never lengthens a summary. -/
theorem size_shortest_le (summary : PartialMutationSummary) :
    Utf8.size summary.shortest.toJson ≤ Utf8.size summary.toJson := by
  induction entries : summary.entries using Nat.strong_induction_on
    generalizing summary with
  | _ entries inductionHypothesis =>
    cases drops : summary.dropEntry with
    | error failure => rw [shortest_of_dropEntry_error drops]
    | ok shorter =>
      rw [← shortest_dropEntry drops]
      exact (inductionHypothesis shorter.entries
        (entries ▸ entries_dropEntry drops) shorter rfl).trans
          (size_dropEntry_le drops)

/-- The loop ends with a summary exactly when the shortest one fits. -/
theorem shorten_isOk_iff (summary : PartialMutationSummary) :
    (∃ result, summary.shorten = .ok result) ↔
      Utf8.size summary.shortest.toJson ≤ partialSummaryMaxBytes := by
  fun_induction shorten summary with
  | case1 summary detail large shorter drops inductionHypothesis =>
    rw [inductionHypothesis, shortest_dropEntry drops]
  | case2 summary detail large failure drops =>
    rw [shortest_of_dropEntry_error drops]
    exact iff_of_false (by rintro ⟨result, ends⟩; cases ends)
      (Nat.not_le_of_lt large)
  | case3 summary detail fits =>
    exact iff_of_true ⟨_, rfl⟩
      ((size_shortest_le summary).trans (Nat.le_of_not_lt fits))

/-- What the loop ends with fits, and is a shortened summary. -/
theorem shorten_sound {detail : List Char}
    (ends : summary.shorten = .ok (shorter, detail)) :
    summary.Shortens shorter ∧ detail = shorter.toJson ∧
      Utf8.size detail ≤ partialSummaryMaxBytes := by
  fun_induction shorten summary with
  | case1 summary _ large next drops inductionHypothesis =>
    obtain ⟨shortens, written, fits⟩ := inductionHypothesis ends
    exact ⟨(dropEntry_shortens drops).trans shortens, written, fits⟩
  | case2 summary _ large failure drops => cases ends
  | case3 summary _ fits =>
    obtain ⟨rfl, written⟩ := Prod.mk.inj (Except.ok.inj ends)
    exact ⟨Shortens.refl, written.symm, written ▸ Nat.le_of_not_lt fits⟩

end PartialMutationSummary

section Summarized

variable (sha256 : List UInt8 → Vector UInt8 32) (provider : ReceiptProvider)
  (mutation : Mutation) (receipt : MutationReceipt)
  (partition : PartialMutationPartition)

/-- A summary within the limit that names the first items of both lists and
counts all of them. -/
structure Accounts (summary : PartialMutationSummary) (detail : List Char) :
    Prop where
  encodes : detail = summary.toJson
  fits : Utf8.size detail ≤ partialSummaryMaxBytes
  namesSucceeded : ∃ kept, kept <+: partition.succeeded ∧
    kept.mapM (resourceSummary sha256) = .ok summary.succeeded
  namesFailed : ∃ kept, kept <+: failedEntries receipt partition ∧
    kept.mapM (failureSummary sha256) = .ok summary.failures
  countsSucceeded : summary.succeededCount = partition.succeeded.length
  countsFailed : summary.failureCount = partition.failed.length
  succeeded : summary.succeeded.length + summary.omittedSucceeded =
    partition.succeeded.length
  failed : summary.failures.length + summary.omittedFailures =
    partition.failed.length

def Summarized : Prop :=
  ∃ summary detail,
    boundedPartialSummary sha256 provider mutation receipt partition =
        .ok (summary, detail) ∧
      Accounts sha256 receipt partition summary detail

/-- The texts that are shown can be redacted, and the first failure fits beside
the provider's id. -/
structure Summarizable : Prop where
  messages : ∀ failure ∈ receipt.failures.take partialSummaryMaxItems,
    Redactable none failure.message.toList
  versionToken : ∀ token ∈ receipt.versionToken, Redactable none token.toList
  room : Utf8.size
    (leastSummary sha256 provider mutation receipt partition).toJson ≤
      partialSummaryMaxBytes

variable {sha256 provider mutation receipt partition}

/-- A partition lists the failed items of its receipt. -/
theorem failed_of_accepted {bounded : String → String}
    (accepted : validatePartialPartition bounded provider mutation receipt =
      .ok partition) :
    partition.failed ≠ [] ∧
      receipt.failures.length = partition.failed.length := by
  obtain ⟨requested, divides, -, failed, -⟩ :=
    (validatePartialPartition_eq_ok bounded).mp accepted
  exact ⟨failed, divides.names.length_eq⟩

theorem length_failedEntries
    (listed : receipt.failures.length = partition.failed.length) :
    (failedEntries receipt partition).length = partition.failed.length := by
  rw [failedEntries, List.length_zip, List.length_map, listed, Nat.min_self]

theorem shortest_shownSummary (failed : partition.failed ≠ [])
    (listed : receipt.failures.length = partition.failed.length) :
    (shownSummary sha256 provider mutation receipt partition).shortest =
      leastSummary sha256 provider mutation receipt partition := by
  have items := length_failedEntries listed
  have positive := List.length_pos_iff.mpr failed
  have atLeastOne : 1 ≤ keptFailures partition := by
    unfold keptFailures partialSummaryMaxItems
    omega
  have within : keptFailures partition ≤ partition.failed.length :=
    Nat.min_le_left _ _
  have withinSucceeded : keptSuccesses partition ≤ partition.succeeded.length :=
    Nat.min_le_left _ _
  simp only [PartialMutationSummary.shortest, shownSummary, leastSummary,
    List.length_map, List.length_take, items, ← List.map_take,
    List.take_take, Nat.min_eq_left atLeastOne, Nat.min_eq_left within,
    Nat.min_eq_left withinSucceeded]
  congr 1 <;> omega

theorem redactable_messages_iff
    (listed : receipt.failures.length = partition.failed.length) :
    (∀ failure ∈ (failedEntries receipt partition).take (keptFailures partition),
        Redactable none failure.2.toList) ↔
      ∀ failure ∈ receipt.failures.take partialSummaryMaxItems,
        Redactable none failure.message.toList := by
  have messages : ((failedEntries receipt partition).take
      (keptFailures partition)).map Prod.snd =
        (receipt.failures.take partialSummaryMaxItems).map
          MutationFailure.message := by
    rw [List.map_take, failedEntries, List.map_snd_zip (by simp [listed]),
      ← List.map_take, keptFailures, ← listed, Nat.min_comm,
      ← List.take_eq_take_min]
  have second := List.forall_mem_map (f := Prod.snd)
    (l := (failedEntries receipt partition).take (keptFailures partition))
    (P := fun message => Redactable none message.toList)
  rw [← second, messages, List.forall_mem_map]

theorem shownSummary_accounts
    {summary : PartialMutationSummary} {detail : List Char}
    (listed : receipt.failures.length = partition.failed.length)
    (redactable : ∀ failure ∈ (failedEntries receipt partition).take
      (keptFailures partition), Redactable none failure.2.toList)
    (ends : (shownSummary sha256 provider mutation receipt partition).shorten =
      .ok (summary, detail)) :
    Accounts sha256 receipt partition summary detail := by
  obtain ⟨shortens, encodes, fits⟩ := PartialMutationSummary.shorten_sound ends
  have items := length_failedEntries listed
  have within : keptFailures partition ≤ partition.failed.length :=
    Nat.min_le_left _ _
  have withinSucceeded : keptSuccesses partition ≤ partition.succeeded.length :=
    Nat.min_le_left _ _
  obtain ⟨succeeded, named, shownSucceeded⟩ :=
    List.prefix_map_iff.mp shortens.succeeded
  obtain ⟨failures, namedFailures, shownFailures⟩ :=
    List.prefix_map_iff.mp shortens.failures
  have countedSucceeded := shortens.omittedSucceeded
  have countedFailures := shortens.omittedFailures
  simp only [shownSummary, List.length_map, List.length_take, items]
    at countedSucceeded countedFailures
  exact
    { encodes
      fits
      namesSucceeded := ⟨succeeded, named.trans (List.take_prefix _ _), by
        rw [mapM_resourceSummary, shownSucceeded]⟩
      namesFailed := ⟨failures, namedFailures.trans (List.take_prefix _ _),
        (mapM_eq_ok_iff fun _ _ => failureSummary_eq_ok).mpr
          ⟨fun failure member =>
            redactable failure (namedFailures.subset member),
            shownFailures.symm⟩⟩
      countsSucceeded := shortens.succeededCount
      countsFailed := shortens.failureCount
      succeeded := by omega
      failed := by omega }

/-- A partial receipt is summarized, within the limit and with every item
accounted for, exactly when it can be. -/
theorem boundedPartialSummary_summarized_iff (bounded : String → String)
    (accepted : validatePartialPartition bounded provider mutation receipt =
      .ok partition) :
    Summarized sha256 provider mutation receipt partition ↔
      Summarizable sha256 provider mutation receipt partition := by
  obtain ⟨failed, listed⟩ := failed_of_accepted accepted
  constructor
  · rintro ⟨summary, detail, ends, -⟩
    unfold boundedPartialSummary at ends
    cases shows : partialSummary sha256 provider mutation receipt partition with
    | error panic =>
      rw [shows] at ends
      cases ends
    | ok shown =>
      obtain ⟨messages, token, rfl⟩ := partialSummary_eq_ok.mp shows
      rw [shows] at ends
      have room := (PartialMutationSummary.shorten_isOk_iff _).mp ⟨_, ends⟩
      rw [shortest_shownSummary failed listed] at room
      exact ⟨(redactable_messages_iff listed).mp messages, token, room⟩
  · intro summarizable
    have messages := (redactable_messages_iff listed).mpr summarizable.messages
    have shows := (@partialSummary_eq_ok sha256 provider mutation receipt
      partition _).mpr ⟨messages, summarizable.versionToken, rfl⟩
    have room := summarizable.room
    rw [← shortest_shownSummary failed listed,
      ← PartialMutationSummary.shorten_isOk_iff] at room
    obtain ⟨⟨summary, detail⟩, ends⟩ := room
    refine ⟨summary, detail, ?_, shownSummary_accounts listed messages ends⟩
    rw [boundedPartialSummary, shows]
    exact ends

/-- Every text but the provider's id is bounded. -/
theorem length_boundedText_le (value : List Char) (maxChars : Nat) :
    (boundedText value maxChars).length ≤ maxChars + 1 := by
  unfold boundedText
  split
  · rw [List.length_append, List.length_singleton, List.length_take]
    omega
  · rw [List.length_take]
    omega

theorem size_shownText_le (value : String) (maxChars : Nat) :
    Utf8.size (JsonText.string (shownText value maxChars)) ≤
      6 * maxChars + 8 := by
  have short := length_boundedText_le
    (redactTokens looksSensitiveToken ((redactFrom none value.toList).getD []))
    maxChars
  have written := @JsonText.size_string_le (shownText value maxChars)
  unfold shownText at written ⊢
  omega

theorem length_resourceDigest (uri : ResourceUri) :
    (resourceDigest sha256 uri).length = 64 := by
  rw [resourceDigest, List.length_flatMap]
  simp [hexByte]

theorem length_hex {width value : Nat} (positive : 0 < width)
    (fits : value < 16 ^ width) : (hex width value).length = width := by
  rw [hex, List.length_leftpad]
  exact Nat.max_eq_left
    ((Nat.length_toDigits_le_iff (by decide) positive).mpr fits)

theorem length_uuidText (id : Nat) : (uuidText id).length = 36 := by
  have fits : ∀ value, value % 2 ^ 16 < 16 ^ 4 := fun value => by omega
  simp only [uuidText, List.length_append, List.length_cons]
  rw [@length_hex 8 _ (by decide) (by omega),
    @length_hex 4 _ (by decide) (fits _), @length_hex 4 _ (by decide) (fits _),
    @length_hex 4 _ (by decide) (fits _), @length_hex 12 _ (by decide) (by omega)]

theorem keys_sized :
    [("preview", 9), ("sha256", 8), ("resource", 10), ("message", 9),
      ("schema", 8), ("provider", 10), ("mutation_id", 13), ("mutation", 10),
      ("outcome", 9), ("target", 8), ("succeeded", 11), ("failures", 10),
      ("succeeded_count", 17), ("failure_count", 15),
      ("omitted_succeeded", 19), ("omitted_failures", 18),
      ("version_token", 15), ("spotuify.provider-partial.v1", 30),
      ("playlist_create", 17), ("playlist_add", 14), ("playlist_remove", 17),
      ("playlist_reorder", 18), ("playlist_set_image", 20),
      ("playlist_unfollow", 19), ("library_save", 14), ("library_unsave", 16),
      ("follow", 8), ("unfollow", 10), ("playlist_created", 18),
      ("playlist_changed", 18), ("playlist_image_set", 20),
      ("playlist_unfollowed", 21), ("library_changed", 17),
      ("follow_changed", 16)].all (fun key =>
        Utf8.size (JsonText.string key.1.toList) = key.2) = true := by
  decide +kernel

theorem size_shownResource_le (uri : ResourceUri) :
    Utf8.size (shownResource sha256 uri).toJson ≤ 1000 := by
  have keys := keys_sized
  have preview := size_shownText_le uri.asUri partialSummaryUriChars
  have digest := @JsonText.size_string_le (resourceDigest sha256 uri)
  rw [length_resourceDigest] at digest
  simp only [List.all_cons, Bool.and_eq_true, decide_eq_true_eq] at keys
  simp only [PartialResourceSummary.toJson, shownResource, JsonText.size_object,
    List.map_cons, List.map_nil, List.sum_cons, List.sum_nil, List.length_cons,
    List.length_nil, keys]
  unfold partialSummaryUriChars at preview ⊢
  omega

theorem size_shownFailure_le (failure : ResourceUri × String) :
    Utf8.size (shownFailure sha256 failure).toJson ≤ 2000 := by
  have keys := keys_sized
  have resource := @size_shownResource_le sha256 failure.1
  have message := size_shownText_le failure.2 partialSummaryMessageChars
  simp only [List.all_cons, Bool.and_eq_true, decide_eq_true_eq] at keys
  simp only [PartialFailureSummary.toJson, shownFailure, JsonText.size_object,
    List.map_cons, List.map_nil, List.sum_cons, List.sum_nil, List.length_cons,
    List.length_nil, keys]
  unfold partialSummaryMessageChars at message ⊢
  omega

theorem size_option_le {Item Value : Type} {write : Value → List Char}
    {shown : Item → Value} {limit : Nat} (room : 4 ≤ limit)
    (bounded : ∀ item, Utf8.size (write (shown item)) ≤ limit)
    (item : Option Item) :
    Utf8.size (JsonText.option write (item.map shown)) ≤ limit := by
  cases item with
  | none => exact room
  | some item => exact bounded item

theorem size_mutationKind_le (mutation : Mutation) :
    Utf8.size (JsonText.string (mutationKind mutation).toList) ≤ 20 := by
  have keys := keys_sized
  simp only [List.all_cons, Bool.and_eq_true, decide_eq_true_eq] at keys
  cases mutation <;> simp only [mutationKind, keys, Nat.reduceLeDiff]

theorem size_mutationOutcomeKind_le (outcome : MutationOutcome) :
    Utf8.size (JsonText.string (mutationOutcomeKind outcome).toList) ≤ 21 := by
  have keys := keys_sized
  simp only [List.all_cons, Bool.and_eq_true, decide_eq_true_eq] at keys
  cases outcome <;> simp only [mutationOutcomeKind, keys, Nat.reduceLeDiff]

/-- A list holds fewer than 2^64 items, so its length has at most 20 digits. -/
theorem size_length_le {count : Nat} (counted : count < 2 ^ 64) :
    Utf8.size (JsonText.number count) ≤ 20 := by
  rw [JsonText.size_number, JsonText.length_number_le (by decide)]
  exact counted.trans (by decide)

/-- The first failure fits beside every provider id of at most 2000
characters. -/
theorem leastSummary_fits (named : provider.id.value.length ≤ 2000)
    (succeeded : partition.succeeded.length < 2 ^ 64)
    (failed : partition.failed.length < 2 ^ 64) :
    Utf8.size (leastSummary sha256 provider mutation receipt partition).toJson ≤
      partialSummaryMaxBytes := by
  have keys := keys_sized
  have providerId := @JsonText.size_string_le provider.id.value.toList
  have mutationId := @JsonText.size_string_le (uuidText receipt.mutationId)
  rw [length_uuidText] at mutationId
  have kind := size_mutationKind_le mutation
  have outcome := size_mutationOutcomeKind_le receipt.outcome
  have target := size_option_le (by decide) (@size_shownResource_le sha256)
    (partialTargetUri mutation)
  have token := size_option_le (by decide)
    (fun token => size_shownText_le token partialSummaryTokenChars)
    receipt.versionToken
  have first : Utf8.size (JsonText.array
      ((((failedEntries receipt partition).take 1).map
        (shownFailure sha256)).map PartialFailureSummary.toJson)) ≤ 2002 := by
    rw [JsonText.size_array]
    cases failedEntries receipt partition with
    | nil => simp
    | cons failure rest =>
      have shown := @size_shownFailure_le sha256 failure
      simp only [List.take_succ_cons, List.take_zero, List.map_cons,
        List.map_nil, List.sum_cons, List.sum_nil, List.length_cons,
        List.length_nil]
      omega
  have countSucceeded := size_length_le succeeded
  have countFailed := size_length_le failed
  have countOmitted : Utf8.size (JsonText.number
      (partition.failed.length - 1)) ≤ 20 := size_length_le (by omega)
  simp only [List.all_cons, Bool.and_eq_true, decide_eq_true_eq] at keys
  simp only [PartialMutationSummary.toJson, leastSummary, JsonText.size_object,
    List.map_cons, List.map_nil, List.sum_cons, List.sum_nil, List.length_cons,
    List.length_nil, keys]
  have empty : Utf8.size (JsonText.array []) = 2 := rfl
  rw [String.length_toList] at providerId
  unfold partialSummaryTokenChars at token
  unfold partialSummaryMaxBytes partialSummaryTokenChars
  omega

end Summarized

/-- The digests of two items. -/
def receiptDigest (bytes : List UInt8) : Vector UInt8 32 :=
  if bytes = Utf8.bytes receiptTrack.asUri.toList then
      #v[227, 148, 58, 31, 128, 206, 183, 199, 40, 76, 116, 28, 189, 211, 181,
        122, 191, 220, 28, 213, 46, 55, 120, 17, 148, 4, 76, 65, 28, 213, 63,
        96]
  else
      #v[36, 172, 85, 89, 89, 34, 219, 52, 4, 174, 113, 0, 24, 117, 72, 190,
        3, 58, 86, 45, 207, 250, 162, 9, 123, 86, 123, 159, 253, 58, 68, 227]

/-- One of two items failed, with a text. -/
def failedAlbum (message : String) : MutationReceipt where
  mutationId := 1
  provider := ⟨"spotify"⟩
  completion := .partiallyApplied
  outcome := .libraryChanged [receiptTrack] true
  versionToken := none
  failures := [⟨some receiptAlbum, message⟩]

theorem boundedPartialSummary_summarized_failedAlbum :
    Summarized receiptDigest (spotifyReceiptProvider tracksOnlyClient)
      (.librarySave [receiptTrack, receiptAlbum])
      (failedAlbum "album endpoint refused token=abc")
      ⟨[receiptTrack], [receiptAlbum]⟩ := by
  have unquoted : ("album endpoint refused token=abc".toList.all fun char =>
      !isQuote char) = true := by decide +kernel
  apply (boundedPartialSummary_summarized_iff id (by decide +kernel)).mpr
  refine ⟨fun failure member => ?_, nofun, leastSummary_fits ?_ ?_ ?_⟩
  · obtain rfl := List.mem_singleton.mp (List.mem_of_mem_take member)
    exact redactable_of_unquoted rfl fun char member => by
      simpa using List.all_eq_true.mp unquoted char member
  · decide +kernel
  · decide
  · decide

/-- The second label is quoted by the quote that closed the first secret. -/
theorem overlappingSecrets_not_summarized :
    validatePartialPartition id (spotifyReceiptProvider tracksOnlyClient)
        (.librarySave [receiptTrack, receiptAlbum])
        (failedAlbum "password=\"a\"token\":b") =
          .ok ⟨[receiptTrack], [receiptAlbum]⟩ ∧
      ¬ Summarized receiptDigest (spotifyReceiptProvider tracksOnlyClient)
        (.librarySave [receiptTrack, receiptAlbum])
        (failedAlbum "password=\"a\"token\":b")
        ⟨[receiptTrack], [receiptAlbum]⟩ := by
  constructor
  · decide +kernel
  · rintro ⟨summary, detail, ends, -⟩
    have panics : partialSummary receiptDigest
        (spotifyReceiptProvider tracksOnlyClient)
        (.librarySave [receiptTrack, receiptAlbum])
        (failedAlbum "password=\"a\"token\":b")
        ⟨[receiptTrack], [receiptAlbum]⟩ = .error .slicePanic := by
      decide +kernel
    rw [boundedPartialSummary, panics] at ends
    cases ends

end Spotuify.Receipts
