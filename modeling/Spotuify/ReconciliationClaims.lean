import Spotuify.StoreTables
import Spotuify.PlaybackClock

/-!
# Claiming and finishing one reconciliation

A reconciliation row is claimed by a worker's token, and the claim ends with a
recorded pass or with a failure.  A write may commit although its caller sees
an error, so every method reads the row again after an error and classifies
what it finds.  Each method is one step on the row and its stability row.
-/

namespace Spotuify

/-- A reconciliation row with its stability row. -/
structure ReconciliationRecord where
  row : ReconciliationRow
  stability : Option StabilityRow
  deriving DecidableEq

/-- What becomes of a write: its caller hears of the commit, the write is lost
with an error, or it commits and its caller sees an error. -/
inductive WriteFate where
  | acknowledged
  | lost
  | unacknowledged
  deriving DecidableEq, Repr

/-- The fate of one call: of its write, and of the reads before and after
it. -/
structure CallFate where
  write : WriteFate
  firstReadFails : Bool
  lastReadFails : Bool
  deriving DecidableEq, Repr

/-- A method answers or reports an error. -/
abbrev Answer (Value : Type) := Except Unit Value

inductive ReconciliationCompletion where
  | completed
  | needsAnotherPass
  | stale
  deriving DecidableEq, Repr

inductive GuardedWriteAfterError where
  | applied
  | stale
  | retry
  deriving DecidableEq, Repr

/-- `u32::saturating_add(1)`. -/
def nextAttempt (attempts : Nat) : Nat := min (2 ^ 32 - 1) (attempts + 1)

/-- The read after a write that did not answer. -/
def CallFate.readBack {Reply : Type} (fate : CallFate)
    (answer : Answer Reply) : Answer Reply :=
  if fate.lastReadFails then .error () else answer

namespace ReconciliationRecord

variable (record : ReconciliationRecord)

/-- `row_to_reconciliation` of the running row: an attempt count beyond 32
bits does not decode. -/
def readRunning : Answer (Option ReconciliationRow) :=
  if record.row.status ≠ .running then
    .ok none
  else if record.row.attempts < 2 ^ 32 then
    .ok (some record.row)
  else
    .error ()

/-- The running row when this claim owns it. -/
def readOwned (expectedAttempts : Nat) (claimToken : ClaimToken) :
    Answer (Option ReconciliationRow) := do
  match ← record.readRunning with
  | none => return none
  | some row =>
    return if row.attempts = nextAttempt expectedAttempts ∧
        row.claimToken = some claimToken then some row else none

/-- The guard of the claiming `UPDATE`. -/
def claimable (expectedAttempts : Nat) (nowMs : Int) : Bool :=
  record.row.status == .pending &&
    record.row.attempts == expectedAttempts &&
    !(record.stability.any fun stability =>
      stability.nextPassAfterMs.any fun notBefore => decide (notBefore > nowMs))

/-- The row a claiming `UPDATE` leaves. -/
def claimedBy (claimToken : ClaimToken) : ReconciliationRecord :=
  { record with
    row := { record.row with
      status := .running,
      attempts := record.row.attempts + 1,
      claimToken := some claimToken,
      lastClaimToken := none } }

/-- The read after an error accepts only this claim's own row. -/
def ownedAnswer (expectedAttempts : Nat) (claimToken : ClaimToken) :
    Answer (Option ReconciliationRow) :=
  match record.readOwned expectedAttempts claimToken with
  | .ok (some row) => .ok (some row)
  | _ => .error ()

/-- `claim_provider_reconciliation_inner`. -/
def claimInner (expectedAttempts : Nat) (claimToken : ClaimToken)
    (nowMs : Int) (fate : CallFate) :
    ReconciliationRecord × Answer (Option ReconciliationRow) :=
  let claimed :=
    if record.claimable expectedAttempts nowMs then record.claimedBy claimToken
    else record
  match fate.write with
  | .acknowledged =>
    if record.claimable expectedAttempts nowMs then
      match claimed.readRunning with
      | .ok result => (claimed, .ok result)
      | .error () =>
        (claimed, fate.readBack
          (claimed.ownedAnswer expectedAttempts claimToken))
    else
      (record, .ok none)
  | .lost =>
    (record, fate.readBack (record.ownedAnswer expectedAttempts claimToken))
  | .unacknowledged =>
    (claimed, fate.readBack
      (claimed.ownedAnswer expectedAttempts claimToken))

/-- `claim_provider_reconciliation_if_attempts`. -/
def claimIfAttempts (expectedAttempts : Nat) (claimToken : ClaimToken)
    (nowMs : Int) (fate : CallFate) :
    ReconciliationRecord × Answer (Option ReconciliationRow) :=
  record.claimInner expectedAttempts claimToken nowMs fate

/-- `recover_provider_reconciliation_claim_after_error`. -/
def recoverClaimAfterError (expectedAttempts : Nat) (claimToken : ClaimToken)
    (nowMs : Int) (fate : CallFate) :
    ReconciliationRecord × Answer (Option ReconciliationRow) :=
  if fate.firstReadFails then
    (record, .error ())
  else
    match record.readOwned expectedAttempts claimToken with
    | .error () => (record, .error ())
    | .ok (some row) => (record, .ok (some row))
    | .ok none => record.claimInner expectedAttempts claimToken nowMs fate

/-- The guard of the writes that end a claim. -/
def ownedBy (expectedAttempts : Nat) (claimToken : ClaimToken) : Bool :=
  record.row.status == .running &&
    record.row.attempts == expectedAttempts &&
    record.row.claimToken == some claimToken

/-- `COALESCE(required_passes, 1)`. -/
def requiredPasses : Nat :=
  (record.stability.map StabilityRow.requiredPasses).getD 1

/-- `COALESCE(successful_passes, 0)`. -/
def successfulPasses : Nat :=
  (record.stability.map StabilityRow.successfulPasses).getD 0

/-- The row a recorded pass leaves when more passes are required. -/
def passedOnce (claimToken : ClaimToken) (finishedAtMs : Int) :
    ReconciliationRecord where
  row := { record.row with
    status := .pending,
    lastError := none,
    claimToken := none,
    lastClaimToken := some claimToken }
  stability := record.stability.map fun stability =>
    { stability with
      successfulPasses := stability.successfulPasses + 1,
      nextPassAfterMs := some (saturatingAddSigned finishedAtMs 2000) }

/-- The row the last required pass leaves. -/
def passedLast (claimToken : ClaimToken) (finishedAtMs : Int) :
    ReconciliationRecord where
  row := { record.row with
    status := .completed,
    finishedAtMs := some finishedAtMs,
    lastError := none,
    claimToken := none,
    lastClaimToken := some claimToken }
  stability := record.stability.map fun stability =>
    { stability with
      successfulPasses := stability.successfulPasses + 1,
      nextPassAfterMs := none }

/-- The row a recorded pass leaves, and what its transaction answers. -/
def passed (claimToken : ClaimToken) (finishedAtMs : Int) :
    ReconciliationRecord × ReconciliationCompletion :=
  if record.successfulPasses + 1 < record.requiredPasses then
    (record.passedOnce claimToken finishedAtMs, .needsAnotherPass)
  else
    (record.passedLast claimToken finishedAtMs, .completed)

/-- What `record_provider_reconciliation_success` answers from the row it
reads after its transaction did not answer. -/
def classifyCompletion (expectedAttempts : Nat) (claimToken : ClaimToken) :
    Answer ReconciliationCompletion :=
  if record.row.attempts ≠ expectedAttempts then
    .ok .stale
  else
    match record.row.status with
    | .completed =>
      .ok (if record.row.lastClaimToken = some claimToken then .completed
        else .stale)
    | .pending =>
      .ok (if record.row.lastClaimToken = some claimToken then
        .needsAnotherPass else .stale)
    | .running =>
      if record.row.claimToken = some claimToken then .error ()
      else .ok .stale

/-- `record_provider_reconciliation_success`. -/
def recordSuccess (expectedAttempts : Nat) (claimToken : ClaimToken)
    (finishedAtMs : Int) (fate : CallFate) :
    ReconciliationRecord × Answer ReconciliationCompletion :=
  let updated := record.passed claimToken finishedAtMs
  if record.ownedBy expectedAttempts claimToken then
    match fate.write with
    | .acknowledged => (updated.1, .ok updated.2)
    | .lost =>
      (record, fate.readBack
        (record.classifyCompletion expectedAttempts claimToken))
    | .unacknowledged =>
      (updated.1, fate.readBack
        (updated.1.classifyCompletion expectedAttempts claimToken))
  else
    (record, fate.readBack
      (record.classifyCompletion expectedAttempts claimToken))

/-- The row a failure leaves. -/
def failedWith (claimToken : ClaimToken) (error : String) :
    ReconciliationRecord :=
  { record with
    row := { record.row with
      status := .pending,
      lastError := some error,
      claimToken := none,
      lastClaimToken := some claimToken } }

/-- `classify_guarded_write_after_error`, for `pending`. -/
def classifyGuardedWriteAfterError (expectedAttempts : Nat)
    (claimToken : ClaimToken) : GuardedWriteAfterError :=
  if record.row.attempts ≠ expectedAttempts then
    .stale
  else if record.row.status = .pending ∧
      record.row.lastClaimToken = some claimToken then
    .applied
  else if record.row.status = .running ∧
      record.row.claimToken = some claimToken then
    .retry
  else
    .stale

/-- What a failure answers from the row it reads after its write did not
answer. -/
def classifyReset (expectedAttempts : Nat) (claimToken : ClaimToken) :
    Answer Bool :=
  match record.classifyGuardedWriteAfterError expectedAttempts claimToken with
  | .applied => .ok true
  | .stale => .ok false
  | .retry => .error ()

/-- `fail_provider_reconciliation_if_attempts`; `error` is the redacted and
shortened text. -/
def failIfAttempts (expectedAttempts : Nat) (claimToken : ClaimToken)
    (error : String) (fate : CallFate) :
    ReconciliationRecord × Answer Bool :=
  let updated := record.failedWith claimToken error
  if record.ownedBy expectedAttempts claimToken then
    match fate.write with
    | .acknowledged => (updated, .ok true)
    | .lost =>
      (record, fate.readBack
        (record.classifyReset expectedAttempts claimToken))
    | .unacknowledged =>
      (updated, fate.readBack
        (updated.classifyReset expectedAttempts claimToken))
  else
    (record, fate.readBack
      (record.classifyReset expectedAttempts claimToken))

/-- A claiming call leaves the row or claims it, and answers with the row only
when it is this token's. -/
structure ClaimEffect (expectedAttempts : Nat) (claimToken : ClaimToken)
    (called : ReconciliationRecord × Answer (Option ReconciliationRow)) :
    Prop where
  moved : called.1 = record ∨
    record.row.status = .pending ∧
      record.row.attempts = expectedAttempts ∧
      called.1 = record.claimedBy claimToken
  claimed : ∀ row, called.2 = .ok (some row) →
    called.1.row = row ∧ row.status = .running ∧
      row.claimToken = some claimToken
  untouched : called.2 = .ok none → called.1 = record

/-- A call that ends a claim leaves the row, or ends the claim that owns it.
A call that does not own the row answers from what it reads. -/
inductive EndEffect {Reply : Type} (expectedAttempts : Nat)
    (claimToken : ClaimToken) (updated : ReconciliationRecord)
    (done : Reply) (unowned : Answer Reply) :
    ReconciliationRecord × Answer Reply → Prop
  | failed : EndEffect expectedAttempts claimToken updated done unowned
      (record, .error ())
  | read : record.ownedBy expectedAttempts claimToken = false →
      EndEffect expectedAttempts claimToken updated done unowned
        (record, unowned)
  | ended : record.ownedBy expectedAttempts claimToken = true →
      EndEffect expectedAttempts claimToken updated done unowned
        (updated, .ok done)
  | endedUnheard : record.ownedBy expectedAttempts claimToken = true →
      EndEffect expectedAttempts claimToken updated done unowned
        (updated, .error ())

variable {record} {expectedAttempts : Nat} {claimToken : ClaimToken}

theorem claimable_eq_true {nowMs : Int}
    (claimable : record.claimable expectedAttempts nowMs = true) :
    record.row.status = .pending ∧
      record.row.attempts = expectedAttempts := by
  simp only [ReconciliationRecord.claimable, Bool.and_eq_true,
    beq_iff_eq] at claimable
  exact claimable.1

theorem ownedBy_eq_true :
    record.ownedBy expectedAttempts claimToken = true ↔
      record.row.status = .running ∧
        record.row.attempts = expectedAttempts ∧
        record.row.claimToken = some claimToken := by
  simp [ownedBy, and_assoc]

/-- An owned row that is read back is running under the token. -/
theorem readOwned_eq_some {row : ReconciliationRow}
    (read : record.readOwned expectedAttempts claimToken = .ok (some row)) :
    record.row = row ∧ row.status = .running ∧
      row.claimToken = some claimToken := by
  unfold readOwned readRunning at read
  split at read
  · cases read
  · rename_i running
    split at read
    · simp only [bind, Except.bind] at read
      split at read
      · rename_i owned
        cases read
        exact ⟨rfl, by simpa using running, owned.2⟩
      · cases read
    · cases read

theorem readBack_eq_ok {Reply : Type} {fate : CallFate}
    {answer : Answer Reply} {reply : Reply}
    (answered : fate.readBack answer = .ok reply) : answer = .ok reply := by
  unfold CallFate.readBack at answered
  split at answered
  · cases answered
  · exact answered

/-- Reading back after a claim finds the token's own row or nothing. -/
theorem claimEffect_readBack {after : ReconciliationRecord} (fate : CallFate)
    (moved : after = record ∨
      record.row.status = .pending ∧
        record.row.attempts = expectedAttempts ∧
        after = record.claimedBy claimToken) :
    record.ClaimEffect expectedAttempts claimToken
      (after, fate.readBack
        (after.ownedAnswer expectedAttempts claimToken)) := by
  refine ⟨moved, ?_, ?_⟩
  · intro row answered
    have found := readBack_eq_ok answered
    unfold ownedAnswer at found
    split at found
    · rename_i owned
      cases found
      exact readOwned_eq_some owned
    · cases found
  · intro answered
    have found := readBack_eq_ok answered
    unfold ownedAnswer at found
    split at found <;> cases found

/-- A call that hears nothing from a row it left alone. -/
theorem claimEffect_unheard :
    record.ClaimEffect expectedAttempts claimToken (record, .error ()) := by
  refine ⟨.inl rfl, ?_, ?_⟩
  · rintro row ⟨⟩
  · rintro ⟨⟩

theorem claimInner_effect (nowMs : Int) (fate : CallFate) :
    record.ClaimEffect expectedAttempts claimToken
      (record.claimInner expectedAttempts claimToken nowMs fate) := by
  simp only [claimInner]
  by_cases claimable : record.claimable expectedAttempts nowMs = true
  · obtain ⟨pending, attempts⟩ := claimable_eq_true claimable
    have moved : record.claimedBy claimToken = record ∨
        record.row.status = .pending ∧
          record.row.attempts = expectedAttempts ∧
          record.claimedBy claimToken = record.claimedBy claimToken :=
      .inr ⟨pending, attempts, rfl⟩
    simp only [claimable, if_true]
    split
    · split
      · rename_i result running
        refine ⟨moved, ?_, ?_⟩
        · rintro row ⟨⟩
          unfold readRunning at running
          split at running
          · cases running
          · split at running
            · cases running
              exact ⟨rfl, rfl, rfl⟩
            · cases running
        · rintro ⟨⟩
          unfold readRunning at running
          split at running
          · rename_i notRunning
            exact absurd rfl notRunning
          · split at running <;> cases running
      · exact claimEffect_readBack fate moved
    · exact claimEffect_readBack fate (.inl rfl)
    · exact claimEffect_readBack fate moved
  · simp only [claimable, Bool.false_eq_true, if_false]
    split
    · refine ⟨.inl rfl, ?_, fun _ => rfl⟩
      rintro row ⟨⟩
    · exact claimEffect_readBack fate (.inl rfl)
    · exact claimEffect_readBack fate (.inl rfl)

theorem recoverClaimAfterError_effect (nowMs : Int) (fate : CallFate) :
    record.ClaimEffect expectedAttempts claimToken
      (record.recoverClaimAfterError expectedAttempts claimToken nowMs
        fate) := by
  unfold recoverClaimAfterError
  split
  · exact claimEffect_unheard
  · split
    · exact claimEffect_unheard
    · rename_i row owned
      refine ⟨.inl rfl, ?_, ?_⟩
      · rintro _ ⟨⟩
        exact readOwned_eq_some owned
      · rintro ⟨⟩
    · exact claimInner_effect nowMs fate

/-- A recorded pass reads back as itself. -/
theorem classifyCompletion_passed (finishedAtMs : Int)
    (attempts : record.row.attempts = expectedAttempts) :
    (record.passed claimToken finishedAtMs).1.classifyCompletion
        expectedAttempts claimToken =
      .ok (record.passed claimToken finishedAtMs).2 := by
  unfold passed
  split
  · simp [classifyCompletion, passedOnce, attempts]
  · simp [classifyCompletion, passedLast, attempts]

theorem classifyCompletion_owned
    (owned : record.ownedBy expectedAttempts claimToken = true) :
    record.classifyCompletion expectedAttempts claimToken = .error () := by
  obtain ⟨running, attempts, token⟩ := ownedBy_eq_true.mp owned
  simp [classifyCompletion, running, attempts, token]

/-- Reading back answers or reports an error. -/
theorem readBack_cases {Reply : Type} (fate : CallFate)
    (answer : Answer Reply) :
    fate.readBack answer = .error () ∨ fate.readBack answer = answer := by
  unfold CallFate.readBack
  split
  · exact .inl rfl
  · exact .inr rfl

/-- A call that ends a claim leaves the row or updates its own. -/
theorem EndEffect.moved {Reply : Type} {updated : ReconciliationRecord}
    {done : Reply} {unowned : Answer Reply}
    {called : ReconciliationRecord × Answer Reply}
    (effect : record.EndEffect expectedAttempts claimToken updated done
      unowned called) :
    called.1 = record ∨
      record.ownedBy expectedAttempts claimToken = true ∧
        called.1 = updated := by
  cases effect with
  | failed => exact .inl rfl
  | read => exact .inl rfl
  | ended owned => exact .inr ⟨owned, rfl⟩
  | endedUnheard owned => exact .inr ⟨owned, rfl⟩

/-- A call shaped like the two that end a claim has the effect of one. -/
theorem endEffect_of_branches {Reply : Type} {updated : ReconciliationRecord}
    {done : Reply} (classify : ReconciliationRecord → Answer Reply)
    (fate : CallFate)
    (ownedRetries : record.ownedBy expectedAttempts claimToken = true →
      classify record = .error ())
    (updatedReads : record.ownedBy expectedAttempts claimToken = true →
      classify updated = .ok done) :
    record.EndEffect expectedAttempts claimToken updated done
      (classify record)
      (if record.ownedBy expectedAttempts claimToken then
        match fate.write with
        | .acknowledged => (updated, .ok done)
        | .lost => (record, fate.readBack (classify record))
        | .unacknowledged => (updated, fate.readBack (classify updated))
      else (record, fate.readBack (classify record))) := by
  cases owned : record.ownedBy expectedAttempts claimToken with
  | false =>
    rcases readBack_cases fate (classify record) with failed | read
    · rw [failed]
      exact .failed
    · rw [read]
      exact .read owned
  | true =>
    cases fate.write with
    | acknowledged => exact .ended owned
    | lost =>
      rw [ownedRetries owned]
      rcases readBack_cases fate (.error () : Answer Reply) with read | read
      all_goals
        simp only [read]
        exact .failed
    | unacknowledged =>
      rw [updatedReads owned]
      rcases readBack_cases fate (.ok done : Answer Reply) with failed | read
      · simp only [failed]
        exact .endedUnheard owned
      · simp only [read]
        exact .ended owned

theorem recordSuccess_effect (finishedAtMs : Int) (fate : CallFate) :
    record.EndEffect expectedAttempts claimToken
      (record.passed claimToken finishedAtMs).1
      (record.passed claimToken finishedAtMs).2
      (record.classifyCompletion expectedAttempts claimToken)
      (record.recordSuccess expectedAttempts claimToken finishedAtMs
        fate) :=
  endEffect_of_branches
    (fun read => read.classifyCompletion expectedAttempts claimToken) fate
    classifyCompletion_owned fun owned =>
      classifyCompletion_passed finishedAtMs (ownedBy_eq_true.mp owned).2.1

theorem failIfAttempts_effect (error : String) (fate : CallFate) :
    record.EndEffect expectedAttempts claimToken
      (record.failedWith claimToken error) true
      (record.classifyReset expectedAttempts claimToken)
      (record.failIfAttempts expectedAttempts claimToken error fate) := by
  refine endEffect_of_branches
    (fun read => read.classifyReset expectedAttempts claimToken) fate ?_ ?_
  · intro owned
    obtain ⟨running, attempts, token⟩ := ownedBy_eq_true.mp owned
    simp [classifyReset, classifyGuardedWriteAfterError, running, attempts,
      token]
  · intro owned
    obtain ⟨_, attempts, _⟩ := ownedBy_eq_true.mp owned
    simp [classifyReset, classifyGuardedWriteAfterError, failedWith, attempts]

end ReconciliationRecord

end Spotuify
