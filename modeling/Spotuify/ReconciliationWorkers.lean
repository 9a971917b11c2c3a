import Spotuify.GuardedMachine
import Spotuify.ReconciliationClaims

/-!
# Workers on one reconciliation

Any number of workers call the claim, recovery, success and failure methods on
one row, each with its own token, and any call may meet any fate.  Beside the
row the log keeps what really happened: the claims that were granted and the
verdict each of them ended with.  What the methods answer is compared with
that.
-/

namespace Spotuify

/-- One granted claim: the attempt it started and its owner's token. -/
@[ext]
structure ReconciliationClaim where
  attempt : Nat
  token : ClaimToken
  deriving DecidableEq, Repr

/-- How a claim ends. -/
inductive ClaimVerdict where
  | passed
  | failed
  deriving DecidableEq, Repr

inductive WorkerRequest where
  | claim (expectedAttempts : Nat) (claimToken : ClaimToken) (nowMs : Int)
  | recoverClaim (expectedAttempts : Nat) (claimToken : ClaimToken)
      (nowMs : Int)
  | recordSuccess (expectedAttempts : Nat) (claimToken : ClaimToken)
      (finishedAtMs : Int)
  | fail (expectedAttempts : Nat) (claimToken : ClaimToken) (error : String)

inductive WorkerReply where
  | claimed (answer : Answer (Option ReconciliationRow))
  | completion (answer : Answer ReconciliationCompletion)
  | reset (answer : Answer Bool)

namespace WorkerRequest

/-- The claim a request names. -/
def namedClaim : WorkerRequest → ReconciliationClaim
  | claim expectedAttempts claimToken _
  | recoverClaim expectedAttempts claimToken _
  | recordSuccess expectedAttempts claimToken _
  | fail expectedAttempts claimToken _ => ⟨expectedAttempts, claimToken⟩

/-- The verdict a request reports. -/
def verdict : WorkerRequest → Option ClaimVerdict
  | claim _ _ _ | recoverClaim _ _ _ => none
  | recordSuccess _ _ _ => some .passed
  | fail _ _ _ => some .failed

/-- Call the method a request stands for. -/
def perform (record : ReconciliationRecord) (fate : CallFate) :
    WorkerRequest → ReconciliationRecord × WorkerReply
  | claim expectedAttempts claimToken nowMs =>
    let called := record.claimIfAttempts expectedAttempts claimToken nowMs fate
    (called.1, .claimed called.2)
  | recoverClaim expectedAttempts claimToken nowMs =>
    let called :=
      record.recoverClaimAfterError expectedAttempts claimToken nowMs fate
    (called.1, .claimed called.2)
  | recordSuccess expectedAttempts claimToken finishedAtMs =>
    let called :=
      record.recordSuccess expectedAttempts claimToken finishedAtMs fate
    (called.1, .completion called.2)
  | fail expectedAttempts claimToken error =>
    let called := record.failIfAttempts expectedAttempts claimToken error fate
    (called.1, .reset called.2)

end WorkerRequest

/-- The row, the claims granted on it, and the verdicts they ended with.
`priorToken` and `passesBefore` come from an earlier daemon run. -/
structure WorkerLog where
  record : ReconciliationRecord
  granted : List ReconciliationClaim
  ended : List (ReconciliationClaim × ClaimVerdict)
  priorToken : Option ClaimToken
  passesBefore : Nat

namespace WorkerLog

/-- The log after a call: a row that starts running grants a claim, a row that
stops running ends one. -/
def after (log : WorkerLog) (request : WorkerRequest) (fate : CallFate) :
    WorkerLog :=
  let record := (request.perform log.record fate).1
  { log with
    record := record,
    granted :=
      if log.record.row.status ≠ .running ∧ record.row.status = .running then
        log.granted ++ [⟨record.row.attempts, request.namedClaim.token⟩]
      else log.granted,
    ended :=
      match request.verdict with
      | some verdict =>
        if log.record.row.status = .running ∧
            record.row.status ≠ .running then
          log.ended ++ [(request.namedClaim, verdict)]
        else log.ended
      | none => log.ended }

/-- A claim that was granted and has not ended. -/
def Live (log : WorkerLog) (claim : ReconciliationClaim) : Prop :=
  claim ∈ log.granted ∧ ∀ verdict, (claim, verdict) ∉ log.ended

/-- The claims that recorded a pass. -/
def passedClaims (log : WorkerLog) : List ReconciliationClaim :=
  (log.ended.filter fun entry => entry.2 = .passed).map Prod.fst

/-- What an answer says is what happened. -/
def Truthful (log : WorkerLog) (request : WorkerRequest)
    (fate : CallFate) : Prop :=
  let next := log.after request fate
  match (request.perform log.record fate).2 with
  | .claimed (.ok (some row)) =>
    next.record.row = row ∧ next.Live ⟨row.attempts, request.namedClaim.token⟩
  | .completion (.ok .completed) =>
    next.record.row.status = .completed ∧
      (request.namedClaim, .passed) ∈ next.ended
  | .completion (.ok .needsAnotherPass) =>
    (request.namedClaim, .passed) ∈ next.ended
  | .reset (.ok true) => (request.namedClaim, .failed) ∈ next.ended
  | .claimed (.ok none) | .completion (.ok .stale) | .reset (.ok false) =>
    next.record = log.record
  | .claimed (.error ()) | .completion (.error ()) | .reset (.error ()) =>
    True

/-- A row left pending by this claim's end with some verdict. -/
def LeftPendingBy (log : WorkerLog) (claim : ReconciliationClaim)
    (verdict : ClaimVerdict) : Prop :=
  log.record.row.status = .pending ∧
    log.record.row.attempts = claim.attempt ∧ (claim, verdict) ∈ log.ended

/-- No pass is reported for the claim whose failure left the row pending, and
no failure for the one whose pass did. -/
def ReportsItsVerdict (log : WorkerLog) (request : WorkerRequest) : Prop :=
  match request.verdict with
  | none => True
  | some .passed => ¬log.LeftPendingBy request.namedClaim .failed
  | some .failed => ¬log.LeftPendingBy request.namedClaim .passed

/-- At most one claim is live, it is the one the row names, and a completed
row has the passes it requires, each by a claim of its own. -/
structure Sound (log : WorkerLog) : Prop where
  oneOwner : ∀ first second, log.Live first → log.Live second → first = second
  ownerNamed : ∀ claim, log.Live claim →
    log.record.row.status = .running ∧
      log.record.row.attempts = claim.attempt ∧
      log.record.row.claimToken = some claim.token
  passesDistinct : log.passedClaims.Nodup
  enoughPasses : log.record.row.status = .completed →
    log.record.requiredPasses ≤ log.passesBefore + log.passedClaims.length

/-- A row at the start of a daemon run: pending and unowned. -/
structure Fresh (log : WorkerLog) : Prop where
  isPending : log.record.row.status = .pending
  unowned : log.record.row.claimToken = none
  prior : log.priorToken = log.record.row.lastClaimToken
  passes : log.passesBefore = log.record.successfulPasses
  noneGranted : log.granted = []
  noneEnded : log.ended = []

end WorkerLog

/-- Workers call in any order with tokens of their own. -/
def workerMachine : GuardedMachine WorkerLog (WorkerRequest × CallFate) where
  step log call :=
    if some call.1.namedClaim.token = log.priorToken then none
    else some (log.after call.1 call.2)

namespace WorkerLog

/-- The claim the row itself names. -/
def held (log : WorkerLog) : List ReconciliationClaim :=
  log.record.row.claimToken.toList.map fun token =>
    ⟨log.record.row.attempts, token⟩

/-- The row tells the end of the log: which claim is running, or which one
ended last. -/
structure Consistent (log : WorkerLog) : Prop where
  runningOwned : log.record.row.status = .running ↔
    log.record.row.claimToken.isSome = true
  ordered : log.granted = log.ended.map Prod.fst ++ log.held
  increasing : (log.granted.map ReconciliationClaim.attempt).Pairwise (· < ·)
  bounded : ∀ claim ∈ log.granted, claim.attempt ≤ log.record.row.attempts
  noneEnded : log.record.row.status = .pending → log.ended.getLast? = none →
    log.record.row.lastClaimToken = log.priorToken
  lastEnded : log.record.row.status ≠ .running →
    ∀ claim verdict, log.ended.getLast? = some (claim, verdict) →
      claim.attempt = log.record.row.attempts ∧
        log.record.row.lastClaimToken = some claim.token
  completedPassed : log.record.row.status = .completed →
    ∃ claim, log.ended.getLast? = some (claim, .passed)
  passes : log.record.successfulPasses ≤
    log.passesBefore + log.passedClaims.length
  enough : log.record.row.status = .completed →
    log.record.requiredPasses ≤ log.passesBefore + log.passedClaims.length

/-- What a call does to the log: nothing, grant a claim on a pending row, or
end the claim that owns the row. -/
inductive Moves (log : WorkerLog) : WorkerLog → Prop
  | stays : Moves log log
  | grants (token : ClaimToken) : log.record.row.status = .pending →
      Moves log
        { log with
          record := log.record.claimedBy token,
          granted := log.granted ++ [⟨log.record.row.attempts + 1, token⟩] }
  | passes (token : ClaimToken) (finishedAtMs : Int) :
      log.record.row.status = .running →
      log.record.row.claimToken = some token →
      Moves log
        { log with
          record := (log.record.passed token finishedAtMs).1,
          ended := log.ended ++
            [(⟨log.record.row.attempts, token⟩, .passed)] }
  | fails (token : ClaimToken) (error : String) :
      log.record.row.status = .running →
      log.record.row.claimToken = some token →
      Moves log
        { log with
          record := log.record.failedWith token error,
          ended := log.ended ++
            [(⟨log.record.row.attempts, token⟩, .failed)] }

/-- A recorded pass leaves the row pending or completed, and counts. -/
theorem passed_row (record : ReconciliationRecord) (token : ClaimToken)
    (finishedAtMs : Int) :
    let updated := (record.passed token finishedAtMs).1
    updated.row.status ≠ .running ∧
      updated.row.attempts = record.row.attempts ∧
      updated.row.claimToken = none ∧
      updated.row.lastClaimToken = some token ∧
      updated.requiredPasses = record.requiredPasses ∧
      updated.successfulPasses ≤ record.successfulPasses + 1 ∧
      (updated.row.status = .completed →
        record.requiredPasses ≤ record.successfulPasses + 1) := by
  have required : ∀ stability : Option StabilityRow,
      ∀ change : StabilityRow → StabilityRow,
      (∀ row, (change row).requiredPasses = row.requiredPasses) →
      ((stability.map change).map StabilityRow.requiredPasses).getD 1 =
        (stability.map StabilityRow.requiredPasses).getD 1 := by
    intro stability change keeps
    cases stability with
    | none => rfl
    | some row => exact keeps row
  have successful : ∀ stability : Option StabilityRow,
      ∀ change : StabilityRow → StabilityRow,
      (∀ row, (change row).successfulPasses = row.successfulPasses + 1) →
      ((stability.map change).map StabilityRow.successfulPasses).getD 0 ≤
        (stability.map StabilityRow.successfulPasses).getD 0 + 1 := by
    intro stability change counts
    cases stability with
    | none => simp
    | some row => simp [counts]
  unfold ReconciliationRecord.passed
  split
  · rename_i more
    exact ⟨nofun, rfl, rfl, rfl, required _ _ fun _ => rfl,
      successful _ _ fun _ => rfl, nofun⟩
  · rename_i last
    exact ⟨nofun, rfl, rfl, rfl, required _ _ fun _ => rfl,
      successful _ _ fun _ => rfl, fun _ => by omega⟩

/-- A call that leaves the row leaves the log. -/
theorem after_of_same (log : WorkerLog) (request : WorkerRequest)
    (fate : CallFate)
    (same : (request.perform log.record fate).1 = log.record) :
    log.after request fate = log := by
  simp only [after, same]
  cases request.verdict <;> simp

/-- A call that ends the claim it names. -/
theorem after_of_ended (log : WorkerLog) (request : WorkerRequest)
    (fate : CallFate) {updated : ReconciliationRecord}
    {verdict : ClaimVerdict} (reports : request.verdict = some verdict)
    (owned : log.record.ownedBy request.namedClaim.attempt
      request.namedClaim.token = true)
    (stops : updated.row.status ≠ .running)
    (ended : (request.perform log.record fate).1 = updated) :
    log.after request fate =
      { log with
        record := updated,
        ended := log.ended ++ [(request.namedClaim, verdict)] } := by
  obtain ⟨running, _, _⟩ := ReconciliationRecord.ownedBy_eq_true.mp owned
  simp [after, ended, reports, running, stops]

/-- A call whose claim half has its effect moves the log accordingly. -/
theorem moves_of_claimEffect {log : WorkerLog} {request : WorkerRequest}
    {fate : CallFate} {answer : Answer (Option ReconciliationRow)}
    (noVerdict : request.verdict = none)
    (effect : log.record.ClaimEffect request.namedClaim.attempt
      request.namedClaim.token
      ((request.perform log.record fate).1, answer)) :
    log.Moves (log.after request fate) := by
  rcases effect.moved with same | ⟨pending, _, claimed⟩
  · rw [after_of_same log request fate same]
    exact .stays
  · have granted : log.after request fate =
        { log with
          record := log.record.claimedBy request.namedClaim.token,
          granted := log.granted ++
            [⟨log.record.row.attempts + 1, request.namedClaim.token⟩] } := by
      simp only at claimed
      simp [after, claimed, noVerdict, pending,
        ReconciliationRecord.claimedBy]
    rw [granted]
    exact .grants _ pending

/-- Every call is one of the moves. -/
theorem after_moves (log : WorkerLog) (request : WorkerRequest)
    (fate : CallFate) : log.Moves (log.after request fate) := by
  cases request with
  | claim expectedAttempts claimToken nowMs =>
    exact moves_of_claimEffect rfl
      (ReconciliationRecord.claimInner_effect nowMs fate)
  | recoverClaim expectedAttempts claimToken nowMs =>
    exact moves_of_claimEffect rfl
      (ReconciliationRecord.recoverClaimAfterError_effect nowMs fate)
  | recordSuccess expectedAttempts claimToken finishedAtMs =>
    have effect : log.record.EndEffect expectedAttempts claimToken _ _ _
        (log.record.recordSuccess expectedAttempts claimToken finishedAtMs
          fate) :=
      ReconciliationRecord.recordSuccess_effect finishedAtMs fate
    rcases effect.moved with same | ⟨owned, ended⟩
    · rw [after_of_same log
        (.recordSuccess expectedAttempts claimToken finishedAtMs) fate same]
      exact .stays
    · rw [after_of_ended log
        (.recordSuccess expectedAttempts claimToken finishedAtMs) fate rfl
        owned (passed_row log.record claimToken finishedAtMs).1 ended]
      obtain ⟨running, rfl, token⟩ :=
        ReconciliationRecord.ownedBy_eq_true.mp owned
      exact .passes claimToken finishedAtMs running token
  | fail expectedAttempts claimToken error =>
    have effect : log.record.EndEffect expectedAttempts claimToken _ _ _
        (log.record.failIfAttempts expectedAttempts claimToken error fate) :=
      ReconciliationRecord.failIfAttempts_effect error fate
    rcases effect.moved with same | ⟨owned, ended⟩
    · rw [after_of_same log (.fail expectedAttempts claimToken error) fate
        same]
      exact .stays
    · rw [after_of_ended log (.fail expectedAttempts claimToken error) fate
        rfl owned (by simp [ReconciliationRecord.failedWith]) ended]
      obtain ⟨running, rfl, token⟩ :=
        ReconciliationRecord.ownedBy_eq_true.mp owned
      exact .fails claimToken error running token

@[simp]
theorem passedClaims_ended (log : WorkerLog) (record : ReconciliationRecord)
    (claim : ReconciliationClaim) (verdict : ClaimVerdict) :
    passedClaims
        { log with
          record := record, ended := log.ended ++ [(claim, verdict)] } =
      log.passedClaims ++ if verdict = .passed then [claim] else [] := by
  by_cases isPass : verdict = .passed
  · simp [passedClaims, isPass]
  · simp [passedClaims, isPass]

/-- A call keeps the row and the log telling the same story. -/
theorem Consistent.moves {log next : WorkerLog}
    (consistent : log.Consistent) (moves : log.Moves next) :
    next.Consistent := by
  cases moves with
  | stays => exact consistent
  | grants token pending =>
    have unowned : log.record.row.claimToken = none := by
      have notRunning := consistent.runningOwned
      simpa [pending] using notRunning
    have ordered : log.granted = log.ended.map Prod.fst := by
      simpa [held, unowned] using consistent.ordered
    refine ⟨?_, ?_, ?_, ?_, ?_, ?_, ?_, ?_, ?_⟩
    · simp [ReconciliationRecord.claimedBy]
    · simp [held, ReconciliationRecord.claimedBy, ordered]
    · rw [List.map_append, List.pairwise_append]
      refine ⟨consistent.increasing, by simp, ?_⟩
      intro earlier inGranted later isNew
      obtain ⟨claim, member, rfl⟩ := List.mem_map.mp inGranted
      have before := consistent.bounded claim member
      simp only [List.map_cons, List.map_nil, List.mem_singleton] at isNew
      omega
    · intro claim member
      simp only [ReconciliationRecord.claimedBy]
      rcases List.mem_append.mp member with inGranted | isNew
      · have before := consistent.bounded claim inGranted
        omega
      · rw [List.mem_singleton.mp isNew]
    · intro isPending
      cases isPending
    · intro notRunning
      exact absurd rfl notRunning
    · intro isCompleted
      cases isCompleted
    · exact consistent.passes
    · intro isCompleted
      cases isCompleted
  | passes token finishedAtMs running owned =>
    obtain ⟨notRunning, sameAttempts, noToken, lastToken, sameRequired,
      counted, enough⟩ := passed_row log.record token finishedAtMs
    have ordered : log.granted = log.ended.map Prod.fst ++
        [⟨log.record.row.attempts, token⟩] := by
      simpa [held, owned] using consistent.ordered
    have passes := consistent.passes
    refine ⟨?_, ?_, consistent.increasing, ?_, ?_, ?_, ?_, ?_, ?_⟩
    · simp [noToken, notRunning]
    · simp [held, noToken, ordered]
    · intro claim member
      simp only [sameAttempts]
      exact consistent.bounded claim member
    · intro _ noneEnded
      simp at noneEnded
    · intro _ claim verdict last
      simp only [List.getLast?_concat, Option.some.injEq,
        Prod.mk.injEq] at last
      obtain ⟨rfl, rfl⟩ := last
      exact ⟨sameAttempts.symm, lastToken⟩
    · intro _
      exact ⟨_, List.getLast?_concat⟩
    · simp only [passedClaims_ended, if_true, List.length_append,
        List.length_singleton]
      omega
    · intro completed
      have required := enough completed
      simp only [passedClaims_ended, if_true, List.length_append,
        List.length_singleton, sameRequired]
      omega
  | fails token error running owned =>
    have ordered : log.granted = log.ended.map Prod.fst ++
        [⟨log.record.row.attempts, token⟩] := by
      simpa [held, owned] using consistent.ordered
    refine ⟨?_, ?_, consistent.increasing, consistent.bounded, ?_, ?_, ?_,
      ?_, ?_⟩
    · simp [ReconciliationRecord.failedWith]
    · simp [held, ReconciliationRecord.failedWith, ordered]
    · intro _ noneEnded
      simp at noneEnded
    · intro _ claim verdict last
      simp only [List.getLast?_concat, Option.some.injEq,
        Prod.mk.injEq] at last
      obtain ⟨rfl, rfl⟩ := last
      exact ⟨rfl, rfl⟩
    · intro isCompleted
      cases isCompleted
    · rw [passedClaims_ended, if_neg (by decide), List.append_nil]
      exact consistent.passes
    · intro isCompleted
      cases isCompleted

theorem Consistent.of_fresh {log : WorkerLog} (fresh : log.Fresh) :
    log.Consistent := by
  obtain ⟨isPending, unowned, prior, passes, noneGranted, noneEnded⟩ := fresh
  refine ⟨?_, ?_, ?_, ?_, ?_, ?_, ?_, ?_, ?_⟩
  · simp [isPending, unowned]
  · simp [noneGranted, noneEnded, held, unowned]
  · simp [noneGranted]
  · simp [noneGranted]
  · intro _ _
    exact prior.symm
  · simp [noneEnded]
  · simp [isPending]
  · simp [passes]
  · simp [isPending]

/-- One attempt is granted to one claim. -/
theorem Consistent.claim_eq {log : WorkerLog} (consistent : log.Consistent)
    {first second : ReconciliationClaim} (firstGranted : first ∈ log.granted)
    (secondGranted : second ∈ log.granted)
    (sameAttempt : first.attempt = second.attempt) : first = second := by
  have attemptsNodup : (log.granted.map ReconciliationClaim.attempt).Nodup :=
    consistent.increasing.imp fun ordered => Nat.ne_of_lt ordered
  exact List.inj_on_of_nodup_map attemptsNodup firstGranted secondGranted
    sameAttempt

theorem Consistent.granted_nodup {log : WorkerLog}
    (consistent : log.Consistent) : log.granted.Nodup := by
  apply List.Nodup.of_map ReconciliationClaim.attempt
  exact consistent.increasing.imp fun ordered => Nat.ne_of_lt ordered

/-- A live claim is the one the row holds. -/
theorem Consistent.live_iff {log : WorkerLog} (consistent : log.Consistent)
    {claim : ReconciliationClaim} : log.Live claim ↔ claim ∈ log.held := by
  have ordered := consistent.ordered
  constructor
  · rintro ⟨granted, notEnded⟩
    rw [ordered] at granted
    rcases List.mem_append.mp granted with inEnded | isHeld
    · obtain ⟨⟨_, verdict⟩, member, rfl⟩ := List.mem_map.mp inEnded
      exact absurd member (notEnded verdict)
    · exact isHeld
  · intro isHeld
    have nodup := consistent.granted_nodup
    rw [ordered] at nodup
    have apart := (List.nodup_append.mp nodup).2.2
    refine ⟨by rw [ordered]; exact List.mem_append_right _ isHeld, ?_⟩
    intro verdict inEnded
    exact apart claim (List.mem_map_of_mem (f := Prod.fst) inEnded) claim
      isHeld rfl

/-- A claim ends with one verdict. -/
theorem Consistent.verdict_eq {log : WorkerLog} (consistent : log.Consistent)
    {claim : ReconciliationClaim} {first second : ClaimVerdict}
    (firstEnded : (claim, first) ∈ log.ended)
    (secondEnded : (claim, second) ∈ log.ended) : first = second := by
  have nodup := consistent.granted_nodup
  rw [consistent.ordered] at nodup
  have endedNodup := (List.nodup_append.mp nodup).1
  have same := List.inj_on_of_nodup_map endedNodup firstEnded secondEnded rfl
  exact congrArg Prod.snd same

/-- The claim of the row's current attempt, once ended, ended last. -/
theorem Consistent.last_of_attempt {log : WorkerLog}
    (consistent : log.Consistent)
    (notRunning : log.record.row.status ≠ .running)
    {claim : ReconciliationClaim} {verdict : ClaimVerdict}
    (ended : (claim, verdict) ∈ log.ended)
    (current : claim.attempt = log.record.row.attempts) :
    log.record.row.lastClaimToken = some claim.token := by
  cases last : log.ended.getLast? with
  | none => simp [List.getLast?_eq_none_iff.mp last] at ended
  | some entry =>
    obtain ⟨lastClaim, lastVerdict⟩ := entry
    obtain ⟨lastAttempt, lastToken⟩ :=
      consistent.lastEnded notRunning lastClaim lastVerdict last
    have granted : ∀ entry ∈ log.ended, entry.1 ∈ log.granted := by
      intro entry member
      rw [consistent.ordered]
      exact List.mem_append_left _ (List.mem_map_of_mem member)
    have same := consistent.claim_eq (granted _ ended)
      (granted _ (List.mem_of_getLast? last)) (current.trans lastAttempt.symm)
    simp only at same
    rw [same]
    exact lastToken

theorem Consistent.sound {log : WorkerLog} (consistent : log.Consistent) :
    log.Sound := by
  refine ⟨?_, ?_, ?_, consistent.enough⟩
  · intro first second firstLive secondLive
    have firstHeld := consistent.live_iff.mp firstLive
    have secondHeld := consistent.live_iff.mp secondLive
    simp only [held, List.mem_map, Option.mem_toList] at firstHeld secondHeld
    obtain ⟨token, named, rfl⟩ := firstHeld
    obtain ⟨other, named', rfl⟩ := secondHeld
    rw [named] at named'
    cases named'
    rfl
  · intro claim live
    have isHeld := consistent.live_iff.mp live
    simp only [held, List.mem_map, Option.mem_toList] at isHeld
    obtain ⟨token, named, rfl⟩ := isHeld
    exact ⟨consistent.runningOwned.mpr (by rw [named]; rfl), rfl, named⟩
  · have nodup := consistent.granted_nodup
    rw [consistent.ordered] at nodup
    have endedNodup := (List.nodup_append.mp nodup).1
    exact endedNodup.sublist (List.filter_sublist.map Prod.fst)

/-- A claiming call tells the truth. -/
theorem Consistent.truthful_of_claimEffect {log : WorkerLog}
    (consistent : log.Consistent) {request : WorkerRequest} {fate : CallFate}
    {updated : ReconciliationRecord}
    {answer : Answer (Option ReconciliationRow)}
    (replied : request.perform log.record fate = (updated, .claimed answer))
    (effect : log.record.ClaimEffect request.namedClaim.attempt
      request.namedClaim.token (updated, answer)) :
    log.Truthful request fate := by
  have record : (log.after request fate).record = updated := by
    simp [after, replied]
  have next := consistent.moves (log.after_moves request fate)
  simp only [Truthful, replied]
  match answer with
  | .error () => trivial
  | .ok none => exact record.trans (effect.untouched rfl)
  | .ok (some row) =>
    obtain ⟨sameRow, running, token⟩ := effect.claimed row rfl
    refine ⟨by rw [record]; exact sameRow, next.live_iff.mpr ?_⟩
    simp only at sameRow
    simp [held, record, sameRow, token]

/-- A stopped row that names a claim's attempt and token was left by it. -/
theorem Consistent.ended_of_last {log : WorkerLog}
    (consistent : log.Consistent)
    (notRunning : log.record.row.status ≠ .running)
    {claim lastClaim : ReconciliationClaim} {verdict : ClaimVerdict}
    (attempts : log.record.row.attempts = claim.attempt)
    (lastToken : log.record.row.lastClaimToken = some claim.token)
    (last : log.ended.getLast? = some (lastClaim, verdict)) :
    (claim, verdict) ∈ log.ended := by
  obtain ⟨lastAttempt, token⟩ :=
    consistent.lastEnded notRunning lastClaim verdict last
  have same : lastClaim = claim := by
    rw [lastToken] at token
    exact ReconciliationClaim.ext (lastAttempt.trans attempts)
      (Option.some.inj token).symm
  exact same ▸ List.mem_of_getLast? last

/-- What a completion says of a claim's pass. -/
def ToldOfPass (log : WorkerLog) (claim : ReconciliationClaim) :
    ReconciliationCompletion → Prop
  | .completed => log.record.row.status = .completed ∧
    (claim, .passed) ∈ log.ended
  | .needsAnotherPass => (claim, .passed) ∈ log.ended
  | .stale => True

/-- The pass a success call reports was recorded, unless its own failure left
the row pending. -/
theorem Consistent.classifyCompletion_truthful {log : WorkerLog}
    (consistent : log.Consistent) {claim : ReconciliationClaim}
    (own : some claim.token ≠ log.priorToken)
    (oneVerdict : ¬log.LeftPendingBy claim .failed)
    {completion : ReconciliationCompletion}
    (answered : log.record.classifyCompletion claim.attempt claim.token =
      .ok completion) :
    log.ToldOfPass claim completion := by
  unfold ReconciliationRecord.classifyCompletion at answered
  split at answered
  · cases answered
    trivial
  · rename_i sameAttempts
    have attempts : log.record.row.attempts = claim.attempt := by
      simpa using sameAttempts
    split at answered
    · rename_i completed
      split at answered
      · rename_i lastToken
        cases answered
        obtain ⟨lastClaim, last⟩ := consistent.completedPassed completed
        exact ⟨completed, consistent.ended_of_last
          (by rw [completed]; nofun) attempts lastToken last⟩
      · cases answered
        trivial
    · rename_i pending
      split at answered
      · rename_i lastToken
        cases answered
        cases last : log.ended.getLast? with
        | none =>
          have prior := consistent.noneEnded pending last
          exact absurd (lastToken.symm.trans prior) own
        | some entry =>
          obtain ⟨lastClaim, verdict⟩ := entry
          have ended := consistent.ended_of_last (by rw [pending]; nofun)
            attempts lastToken last
          cases verdict with
          | passed => exact ended
          | failed => exact absurd ⟨pending, attempts, ended⟩ oneVerdict
      · cases answered
        trivial
    · split at answered <;> cases answered
      trivial

/-- The failure a failure call reports was recorded, unless its own pass left
the row pending. -/
theorem Consistent.classifyReset_truthful {log : WorkerLog}
    (consistent : log.Consistent) {claim : ReconciliationClaim}
    (own : some claim.token ≠ log.priorToken)
    (oneVerdict : ¬log.LeftPendingBy claim .passed)
    (answered : log.record.classifyReset claim.attempt claim.token =
      .ok true) :
    (claim, .failed) ∈ log.ended := by
  unfold ReconciliationRecord.classifyReset
    ReconciliationRecord.classifyGuardedWriteAfterError at answered
  by_cases attempts : log.record.row.attempts = claim.attempt
  · by_cases applied : log.record.row.status = .pending ∧
        log.record.row.lastClaimToken = some claim.token
    · obtain ⟨pending, lastToken⟩ := applied
      cases last : log.ended.getLast? with
      | none =>
        have prior := consistent.noneEnded pending last
        exact absurd (lastToken.symm.trans prior) own
      | some entry =>
        obtain ⟨lastClaim, verdict⟩ := entry
        have ended := consistent.ended_of_last (by rw [pending]; nofun)
          attempts lastToken last
        cases verdict with
        | failed => exact ended
        | passed => exact absurd ⟨pending, attempts, ended⟩ oneVerdict
    · by_cases retries : log.record.row.status = .running ∧
          log.record.row.claimToken = some claim.token
      · simp [attempts, retries] at answered
      · simp [attempts, applied, retries] at answered
  · simp [attempts] at answered

/-- Every call that reports its own claim's verdict tells the truth. -/
theorem Consistent.truthful {log : WorkerLog} (consistent : log.Consistent)
    (request : WorkerRequest) (fate : CallFate)
    (own : some request.namedClaim.token ≠ log.priorToken)
    (oneVerdict : log.ReportsItsVerdict request) :
    log.Truthful request fate := by
  cases request with
  | claim expectedAttempts claimToken nowMs =>
    exact consistent.truthful_of_claimEffect rfl
      (ReconciliationRecord.claimInner_effect nowMs fate)
  | recoverClaim expectedAttempts claimToken nowMs =>
    exact consistent.truthful_of_claimEffect rfl
      (ReconciliationRecord.recoverClaimAfterError_effect nowMs fate)
  | recordSuccess expectedAttempts claimToken finishedAtMs =>
    have effect : log.record.EndEffect expectedAttempts claimToken _ _ _
        (log.record.recordSuccess expectedAttempts claimToken finishedAtMs
          fate) :=
      ReconciliationRecord.recordSuccess_effect finishedAtMs fate
    generalize calledEq : log.record.recordSuccess expectedAttempts
      claimToken finishedAtMs fate = called at effect
    simp only [Truthful, WorkerRequest.perform, calledEq]
    cases effect with
    | failed => trivial
    | endedUnheard => trivial
    | read unowned =>
      rw [after_of_same log
        (.recordSuccess expectedAttempts claimToken finishedAtMs) fate
        (by simp [WorkerRequest.perform, calledEq])]
      generalize answer : log.record.classifyCompletion expectedAttempts
        claimToken = classified
      cases classified with
      | error _ => trivial
      | ok completion =>
        have told :
            log.ToldOfPass ⟨expectedAttempts, claimToken⟩ completion :=
          consistent.classifyCompletion_truthful own oneVerdict answer
        cases completion with
        | completed => exact told
        | needsAnotherPass => exact told
        | stale => rfl
    | ended owned =>
      rw [after_of_ended log
        (.recordSuccess expectedAttempts claimToken finishedAtMs) fate rfl
        owned (passed_row log.record claimToken finishedAtMs).1
        (by simp [WorkerRequest.perform, calledEq])]
      by_cases more :
          log.record.successfulPasses + 1 < log.record.requiredPasses
      · have pass : log.record.passed claimToken finishedAtMs =
            (log.record.passedOnce claimToken finishedAtMs,
              .needsAnotherPass) := if_pos more
        simp [pass, WorkerRequest.namedClaim]
      · have pass : log.record.passed claimToken finishedAtMs =
            (log.record.passedLast claimToken finishedAtMs, .completed) :=
          if_neg more
        simp [pass, WorkerRequest.namedClaim,
          ReconciliationRecord.passedLast]
  | fail expectedAttempts claimToken error =>
    have effect : log.record.EndEffect expectedAttempts claimToken _ _ _
        (log.record.failIfAttempts expectedAttempts claimToken error fate) :=
      ReconciliationRecord.failIfAttempts_effect error fate
    generalize calledEq : log.record.failIfAttempts expectedAttempts
      claimToken error fate = called at effect
    simp only [Truthful, WorkerRequest.perform, calledEq]
    cases effect with
    | failed => trivial
    | endedUnheard => trivial
    | read unowned =>
      rw [after_of_same log (.fail expectedAttempts claimToken error) fate
        (by simp [WorkerRequest.perform, calledEq])]
      generalize answer : log.record.classifyReset expectedAttempts
        claimToken = classified
      cases classified with
      | error _ => trivial
      | ok reset =>
        cases reset with
        | false => rfl
        | true =>
          have told : (⟨expectedAttempts, claimToken⟩, .failed) ∈ log.ended :=
            consistent.classifyReset_truthful own oneVerdict answer
          exact told
    | ended owned =>
      have stops :
          (log.record.failedWith claimToken error).row.status ≠ .running := by
        simp [ReconciliationRecord.failedWith]
      rw [after_of_ended log (.fail expectedAttempts claimToken error) fate
        rfl owned stops (congrArg Prod.fst calledEq)]
      simp [WorkerRequest.namedClaim]

/-- A claim that left the row pending with the other verdict is told that its
report took effect. -/
theorem Consistent.reportsItsVerdict {log : WorkerLog}
    (consistent : log.Consistent) (request : WorkerRequest)
    (truthful : ∀ fate, log.Truthful request fate) :
    log.ReportsItsVerdict request := by
  have told := truthful ⟨.acknowledged, false, false⟩
  cases request with
  | claim => trivial
  | recoverClaim => trivial
  | recordSuccess expectedAttempts claimToken finishedAtMs =>
    rintro ⟨pending, attempts, failed⟩
    simp only [WorkerRequest.namedClaim] at attempts failed
    have lastToken := consistent.last_of_attempt
      (by rw [pending]; nofun) failed attempts.symm
    have called : (WorkerRequest.recordSuccess expectedAttempts claimToken
        finishedAtMs).perform log.record ⟨.acknowledged, false, false⟩ =
          (log.record, .completion (.ok .needsAnotherPass)) := by
      simp [WorkerRequest.perform, ReconciliationRecord.recordSuccess,
        ReconciliationRecord.ownedBy, ReconciliationRecord.classifyCompletion,
        CallFate.readBack, pending, attempts, lastToken]
    simp only [Truthful, called] at told
    rw [after_of_same log _ _ (congrArg Prod.fst called)] at told
    cases consistent.verdict_eq told failed
  | fail expectedAttempts claimToken error =>
    rintro ⟨pending, attempts, passed⟩
    simp only [WorkerRequest.namedClaim] at attempts passed
    have lastToken := consistent.last_of_attempt
      (by rw [pending]; nofun) passed attempts.symm
    have called : (WorkerRequest.fail expectedAttempts claimToken
        error).perform log.record ⟨.acknowledged, false, false⟩ =
          (log.record, .reset (.ok true)) := by
      simp [WorkerRequest.perform, ReconciliationRecord.failIfAttempts,
        ReconciliationRecord.ownedBy, ReconciliationRecord.classifyReset,
        ReconciliationRecord.classifyGuardedWriteAfterError,
        CallFate.readBack, pending, attempts, lastToken]
    simp only [Truthful, called] at told
    rw [after_of_same log _ _ (congrArg Prod.fst called)] at told
    cases consistent.verdict_eq told passed

/-- No call takes an attempt back. -/
theorem Moves.attempts_le {log next : WorkerLog} (moves : log.Moves next) :
    log.record.row.attempts ≤ next.record.row.attempts := by
  cases moves with
  | stays => exact le_rfl
  | grants token pending => exact Nat.le_succ _
  | passes token finishedAtMs running owned =>
    exact le_of_eq (passed_row log.record token finishedAtMs).2.1.symm
  | fails => exact le_rfl

end WorkerLog

/-- In every log that workers can reach from a fresh row: claims are
exclusive, a completed row has its passes, attempts never decrease, and a call
tells the truth whatever its fate exactly when it does not report a verdict
over its own other one. -/
theorem reconciliation_claims_sound_and_truthful (start : WorkerLog)
    (fresh : start.Fresh) (calls : List (WorkerRequest × CallFate))
    (log : WorkerLog) (runs : workerMachine.run start calls = some log) :
    log.Sound ∧
      ∀ request : WorkerRequest,
        some request.namedClaim.token ≠ log.priorToken →
        (∀ fate, log.record.row.attempts ≤
          (log.after request fate).record.row.attempts) ∧
        ((∀ fate, log.Truthful request fate) ↔
          log.ReportsItsVerdict request) := by
  have consistent : log.Consistent := by
    refine workerMachine.run_preserves ?_ (.of_fresh fresh) runs
    intro before call next holds steps
    simp only [workerMachine] at steps
    split at steps
    · cases steps
    · cases steps
      exact holds.moves (before.after_moves call.1 call.2)
  refine ⟨consistent.sound, ?_⟩
  intro request own
  refine ⟨fun fate => (log.after_moves request fate).attempts_le, ?_, ?_⟩
  · exact consistent.reportsItsVerdict request
  · intro oneVerdict fate
    exact consistent.truthful request fate own oneVerdict

/-- A fresh row that has to show two passes. -/
def twoPassLog : WorkerLog where
  record :=
    { row :=
        { reconciliationId := ⟨1⟩, receiptId := ⟨1⟩, operationId := ⟨1⟩,
          provider := ⟨"spotify"⟩, target := .library, scope := .fullDomain,
          resourceUris := [], status := .pending, attempts := 0,
          claimToken := none, lastClaimToken := none, lastError := none,
          createdAtMs := 0, finishedAtMs := none },
      stability := some ⟨⟨1⟩, 2, 0, none⟩ }
  granted := []
  ended := []
  priorToken := none
  passesBefore := 0

def heard : CallFate := ⟨.acknowledged, false, false⟩

def unheard : CallFate := ⟨.unacknowledged, false, true⟩

/-- One worker claims the row, another one is refused. -/
theorem reconciliation_claims_sound_once :
    ∃ log, workerMachine.run twoPassLog
        [(.claim 0 ⟨7⟩ 0, heard), (.claim 0 ⟨8⟩ 0, heard)] = some log ∧
      log.Sound ∧ ∀ fate, log.Truthful (.recordSuccess 1 ⟨7⟩ 10) fate := by
  refine ⟨_, rfl, ?_⟩
  have holds := reconciliation_claims_sound_and_truthful twoPassLog
    ⟨rfl, rfl, rfl, rfl, rfl, rfl⟩
    [(.claim 0 ⟨7⟩ 0, heard), (.claim 0 ⟨8⟩ 0, heard)] _ rfl
  refine ⟨holds.1, (holds.2 (.recordSuccess 1 ⟨7⟩ 10) nofun).2.mpr ?_⟩
  rintro ⟨pending, _⟩
  cases pending

/-- A pass commits unheard; the worker then reports a failure, which changes
nothing and is answered with `true`.  The other way round, a pass reported
after a failure is answered as recorded. -/
theorem reconciliation_reports_untruthful :
    (∃ log, workerMachine.run twoPassLog
        [(.claim 0 ⟨7⟩ 0, heard), (.recordSuccess 1 ⟨7⟩ 10, unheard)] =
          some log ∧
      (log.after (.fail 1 ⟨7⟩ "store") heard).record = log.record ∧
      ¬log.Truthful (.fail 1 ⟨7⟩ "store") heard) ∧
    ∃ log, workerMachine.run twoPassLog
        [(.claim 0 ⟨7⟩ 0, heard), (.fail 1 ⟨7⟩ "store", heard)] = some log ∧
      (log.after (.recordSuccess 1 ⟨7⟩ 10) heard).record = log.record ∧
      ¬log.Truthful (.recordSuccess 1 ⟨7⟩ 10) heard := by
  refine ⟨⟨_, rfl, rfl, ?_⟩, _, rfl, rfl, ?_⟩
  · intro truthful
    have failed : ((⟨1, ⟨7⟩⟩, .failed) :
        ReconciliationClaim × ClaimVerdict) ∈ [(⟨1, ⟨7⟩⟩, .passed)] :=
      truthful
    exact absurd failed (by decide)
  · intro truthful
    have passed : ((⟨1, ⟨7⟩⟩, .passed) :
        ReconciliationClaim × ClaimVerdict) ∈ [(⟨1, ⟨7⟩⟩, .failed)] :=
      truthful
    exact absurd passed (by decide)

end Spotuify
