import Spotuify.RateLimits

/-!
# The send loop of the web client

One call of the client sends a request until its loop returns.  A turn of the
loop meets whatever the rest of the client and the server make of it: the
shared backoff state and the time it is checked at, the reply, and the state
and the time the reply is handled at.  The loop has a counter for transport
errors and server errors and one for rate limits; it never looks at the method
of the request it builds.
-/

namespace Spotuify

/-- The methods the client builds requests with. -/
inductive HttpMethod where
  | get
  | post
  | put
  | patch
  | delete
  deriving DecidableEq

def HttpMethod.isIdempotent : HttpMethod → Bool
  | .get | .put | .delete => true
  | .post | .patch => false

namespace ProviderReply

def isRateLimit : ProviderReply → Bool
  | .networkError _ => false
  | .response status _ _ => status = 429

/-- The replies the transient budget pays for. -/
def isTransient : ProviderReply → Bool
  | .networkError _ => true
  | .response status _ _ => 500 ≤ status && status < 600

/-- The server may have carried the request out: it said so, it failed along
the way, or its reply was lost. -/
def mayHaveApplied : ProviderReply → Bool
  | .networkError _ => true
  | .response status _ _ =>
    isSuccessStatus status || (500 ≤ status && status < 600)

end ProviderReply

/-- What one turn of the loop meets. -/
structure LoopTurn where
  checkedBackoff : BackoffState
  checkedAt : Nat
  reply : ProviderReply
  handledBackoff : BackoffState
  handledAt : Nat
  jitter : Nat → Nat

/-- A request that was sent, with the eligibility sleep before it. -/
structure SendAttempt where
  method : HttpMethod
  waitedMs : Nat
  reply : ProviderReply

inductive TurnOutcome where
  | returned (last : Option SendAttempt) (result : Except SpotifyError Unit)
  | slept (attempt : SendAttempt) (sleptMs : Nat) (next : RateLimitedRequest)

/-- The body of the loop in `send_with_retry_in_bucket`. -/
def RateLimitedRequest.turn (request : RateLimitedRequest)
    (secondsUntil : Nat → List Char → Option Int) (method : HttpMethod)
    (turn : LoopTurn) : TurnOutcome :=
  let checked :=
    request.sleepUntilEligible turn.checkedBackoff turn.checkedAt 0
  match checked.phase with
  | .returned result => .returned none result
  | _ =>
    let attempt : SendAttempt :=
      { method := method,
        waitedMs := request.eligibilityWait turn.checkedBackoff turn.checkedAt,
        reply := turn.reply }
    let handled := (request.handleReply secondsUntil turn.handledBackoff
      turn.handledAt turn.jitter turn.reply).1
    match handled.phase with
    | .returned result => .returned (some attempt) result
    | .sleeping wakesAt =>
      .slept attempt (wakesAt - turn.handledAt)
        { handled with phase := .checking }
    | _ => .slept attempt 0 { handled with phase := .checking } -- unreachable

/-- The sends of one call: those it slept after, with the sleeps, and the one
whose reply it returned on, unless the eligibility check ended it. -/
structure SendTrace where
  retried : List (SendAttempt × Nat)
  last : Option SendAttempt
  result : Except SpotifyError Unit

namespace SendTrace

variable (trace : SendTrace)

def sends : List SendAttempt :=
  trace.retried.map Prod.fst ++ trace.last.toList

/-- The sends that another one followed. -/
def resent : List SendAttempt := trace.sends.dropLast

def afterRetry (attempt : SendAttempt) (sleptMs : Nat) : SendTrace :=
  { trace with retried := (attempt, sleptMs) :: trace.retried }

/-- Only an idempotent request is sent again after a reply that leaves open
whether the server has carried it out. -/
def ResendsOnlyIdempotent : Prop :=
  ∀ attempt ∈ trace.resent, attempt.reply.mayHaveApplied = true →
    attempt.method.isIdempotent = true

/-- The sends fit the two budgets, a rate limit is slept on for no longer than
the inline cap, and a request is sent again, with the method it had, only after
a rate limit, a transport error or a server error. -/
structure WithinBudgets (method : HttpMethod) : Prop where
  sends_le : trace.sends.length ≤ 1 + maxTransientRetries + maxRateLimitRetries
  waited_le : ∀ attempt ∈ trace.sends,
    attempt.waitedMs ≤ maxInRequestRateLimitSleepMs
  slept_le : ∀ retry ∈ trace.retried, retry.1.reply.isRateLimit = true →
    retry.2 ≤ maxInRequestRateLimitSleepMs
  sameMethod : ∀ attempt ∈ trace.sends, attempt.method = method
  retryable : ∀ attempt ∈ trace.resent,
    attempt.reply.isRateLimit = true ∨ attempt.reply.isTransient = true
  transients_lt : trace.resent.countP (·.reply.isTransient) <
    maxTransientRetries
  rateLimits_lt : trace.resent.countP (·.reply.isRateLimit) <
    maxRateLimitRetries

end SendTrace

/-- The counters at the top of `send_with_retry_in_bucket`. -/
def RateLimitedRequest.started (cooldownScope endpointScope : String) :
    RateLimitedRequest where
  cooldownScope := cooldownScope
  endpointScope := endpointScope
  attempt := 0
  rateLimitAttempt := 0
  phase := .checking

section
variable (secondsUntil : Nat → List Char → Option Int) (method : HttpMethod)

/-- The loop, cut off after a number of turns. -/
def sendLoop : Nat → (Nat → LoopTurn) → RateLimitedRequest → Option SendTrace
  | 0, _, _ => none
  | fuel + 1, turns, request =>
    match request.turn secondsUntil method (turns 0) with
    | .returned last result =>
      some { retried := [], last := last, result := result }
    | .slept attempt sleptMs next =>
      (sendLoop fuel (fun index => turns (index + 1)) next).map
        fun trace => trace.afterRetry attempt sleptMs

def sendWithRetryInBucket (cooldownScope endpointScope : String) (fuel : Nat)
    (turns : Nat → LoopTurn) : Option SendTrace :=
  sendLoop secondsUntil method fuel turns
    (.started cooldownScope endpointScope)

end

/-- `decide_retry` retries a rate limit, and a server error within the
transient budget. -/
theorem retryable_of_decideRetry
    {secondsUntil : Nat → List Char → Option Int} {attempt status : Nat}
    {retryAfter : Option String} {endpoint body : String} {nowMs : Nat}
    {jitter : Nat → Nat} {delay : Nat}
    (decided : decideRetry secondsUntil attempt status retryAfter endpoint body
      nowMs jitter = .retry delay) :
    status = 429 ∨
      (500 ≤ status ∧ status < 600) ∧ attempt + 1 < maxTransientRetries := by
  unfold decideRetry at decided
  split at decided
  · cases decided
  split at decided
  · exact Or.inl ‹_›
  split at decided
  · cases decided
  split at decided
  · rename_i serverError
    split at decided
    · cases decided
    · exact Or.inr ⟨serverError, by omega⟩
  · cases decided

theorem isSuccessStatus_of_decideRetry
    {secondsUntil : Nat → List Char → Option Int} {attempt status : Nat}
    {retryAfter : Option String} {endpoint body : String} {nowMs : Nat}
    {jitter : Nat → Nat}
    (decided : decideRetry secondsUntil attempt status retryAfter endpoint body
      nowMs jitter = .success) :
    isSuccessStatus status = true := by
  unfold decideRetry at decided
  split at decided
  · assumption
  · split_ifs at decided

namespace RateLimitedRequest

variable (request : RateLimitedRequest)
  (secondsUntil : Nat → List Char → Option Int)

/-- The retries a request may still make. -/
def retriesLeft : Nat :=
  (maxTransientRetries - 1 - request.attempt) +
    (maxRateLimitRetries - 1 - request.rateLimitAttempt)

/-- Both counters are below the limits they are compared with. -/
def HasBudget : Prop :=
  request.attempt < maxTransientRetries ∧
    request.rateLimitAttempt < maxRateLimitRetries

/-- The request is charged once for a reply it sleeps on, and the charge is
within the budgets. -/
structure Charged (reply : ProviderReply) (sleptMs : Nat)
    (next : RateLimitedRequest) : Prop where
  attempt : next.attempt =
    request.attempt + if reply.isTransient then 1 else 0
  rateLimitAttempt : next.rateLimitAttempt =
    request.rateLimitAttempt + if reply.isRateLimit then 1 else 0
  budget : next.HasBudget
  retryable : reply.isRateLimit = true ∨ reply.isTransient = true
  slept_le : reply.isRateLimit = true → sleptMs ≤ maxInRequestRateLimitSleepMs

/-- A handled reply returns, or sleeps on a charge to one of the budgets. -/
theorem handleReply_returns_or_sleeps (backoff : BackoffState) (nowMs : Nat)
    (jitter : Nat → Nat) (reply : ProviderReply) (budget : request.HasBudget) :
    let next := (request.handleReply secondsUntil backoff nowMs jitter reply).1
    (∃ result, next.phase = .returned result) ∨
      ∃ delay, next.phase = .sleeping (nowMs + delay) ∧
        request.Charged reply delay next := by
  intro next
  obtain ⟨attempts, rateLimits⟩ := budget
  cases reply with
  | networkError message =>
    by_cases again : request.attempt + 1 < maxTransientRetries
    · refine Or.inr ⟨jitteredBackoff request.attempt jitter, ?_, ?_⟩
      · simp [next, handleReply, again]
      · constructor <;>
          simp [next, handleReply, again, rateLimits, HasBudget,
            ProviderReply.isTransient, ProviderReply.isRateLimit]
    · exact Or.inl
        ⟨.error (.network request.endpointScope message),
          by simp [next, handleReply, again]⟩
  | response status retryAfter body =>
    by_cases success : isSuccessStatus status = true
    · exact Or.inl ⟨.ok (), by simp [next, handleReply, success]⟩
    cases decided : decideRetry secondsUntil request.attempt status retryAfter
      request.endpointScope body nowMs jitter with
    | success => exact absurd (isSuccessStatus_of_decideRetry decided) success
    | giveUp error =>
      exact Or.inl ⟨.error error, by simp [next, handleReply, success, decided]⟩
    | retry delay =>
      rcases retryable_of_decideRetry decided with rfl | ⟨transient, again⟩
      · by_cases last : maxRateLimitRetries ≤ request.rateLimitAttempt + 1 ∨
          maxInRequestRateLimitSleepMs < delay
        · refine Or.inl
            ⟨.error (classifyResponse secondsUntil 429 retryAfter
              request.endpointScope body nowMs), ?_⟩
          simp [next, handleReply, success, decided, last]
        · refine Or.inr ⟨delay, ?_, ?_⟩
          · simp [next, handleReply, success, decided, last]
          · have spared : request.rateLimitAttempt + 1 < maxRateLimitRetries ∧
                delay ≤ maxInRequestRateLimitSleepMs := by omega
            constructor <;>
              simp [next, handleReply, success, decided, last, attempts, spared,
                HasBudget, ProviderReply.isTransient,
                ProviderReply.isRateLimit]
      · have unlimited : status ≠ 429 := by omega
        refine Or.inr ⟨delay, ?_, ?_⟩
        · simp [next, handleReply, success, decided, unlimited]
        · constructor <;>
            simp [next, handleReply, success, decided, unlimited, transient,
              again, rateLimits, HasBudget, ProviderReply.isTransient,
              ProviderReply.isRateLimit]

/-- The eligibility check gives up, or lets the request through after a sleep
that the inline cap bounds. -/
theorem eligibilityWait_le_of_not_returned {backoff : BackoffState}
    {nowMs checkedAfter : Nat}
    (passed : ∀ result,
      (request.sleepUntilEligible backoff nowMs checkedAfter).phase ≠
        .returned result) :
    request.eligibilityWait backoff nowMs ≤ maxInRequestRateLimitSleepMs := by
  by_contra long
  apply passed (.error (.rateLimited (request.eligibilityWait backoff nowMs)
    request.endpointScope))
  unfold sleepUntilEligible
  dsimp only
  rw [if_pos (Nat.lt_of_not_le long)]

/-- A turn sends at most once, after a sleep that the inline cap bounds; it
ends the call or sleeps on a charge to one of the budgets. -/
theorem turn_cases (method : HttpMethod) (turn : LoopTurn)
    (budget : request.HasBudget) :
    (∃ result, request.turn secondsUntil method turn = .returned none result) ∨
      ∃ attempt : SendAttempt, attempt.method = method ∧
        attempt.waitedMs ≤ maxInRequestRateLimitSleepMs ∧
        ((∃ result, request.turn secondsUntil method turn =
            .returned (some attempt) result) ∨
          ∃ sleptMs next,
            request.turn secondsUntil method turn =
              .slept attempt sleptMs next ∧
            request.Charged attempt.reply sleptMs next) := by
  by_cases gaveUp : ∃ result, (request.sleepUntilEligible turn.checkedBackoff
      turn.checkedAt 0).phase = .returned result
  · obtain ⟨result, returned⟩ := gaveUp
    refine Or.inl ⟨result, ?_⟩
    simp only [RateLimitedRequest.turn, returned]
  · have passed := not_exists.mp gaveUp
    refine Or.inr ⟨⟨method, request.eligibilityWait turn.checkedBackoff
      turn.checkedAt, turn.reply⟩, rfl,
      request.eligibilityWait_le_of_not_returned passed, ?_⟩
    rcases request.handleReply_returns_or_sleeps secondsUntil
      turn.handledBackoff turn.handledAt turn.jitter turn.reply budget with
      ⟨result, returned⟩ | ⟨delay, sleeping, charged⟩
    · refine Or.inl ⟨result, ?_⟩
      simp only [RateLimitedRequest.turn, returned]
    · refine Or.inr ⟨delay, { (request.handleReply secondsUntil
        turn.handledBackoff turn.handledAt turn.jitter turn.reply).1 with
          phase := .checking }, ?_, ?_⟩
      · simp only [RateLimitedRequest.turn, sleeping]
        rw [Nat.add_sub_cancel_left]
      · exact ⟨charged.attempt, charged.rateLimitAttempt, charged.budget,
          charged.retryable, charged.slept_le⟩

end RateLimitedRequest

namespace SendTrace

variable {trace : SendTrace} {method : HttpMethod}

theorem sends_afterRetry (attempt : SendAttempt) (sleptMs : Nat) :
    (trace.afterRetry attempt sleptMs).sends = attempt :: trace.sends := by
  simp [sends, afterRetry]

theorem mem_resent_afterRetry {attempt : SendAttempt} {sleptMs : Nat}
    {other : SendAttempt}
    (member : other ∈ (trace.afterRetry attempt sleptMs).resent) :
    other = attempt ∨ other ∈ trace.resent := by
  unfold resent at member
  rw [sends_afterRetry] at member
  cases sends : trace.sends with
  | nil => simp [sends] at member
  | cons first rest =>
    rw [sends, List.dropLast_cons_cons] at member
    simpa [resent, sends] using member

theorem countP_resent_afterRetry (counted : SendAttempt → Bool)
    (attempt : SendAttempt) (sleptMs : Nat) :
    (trace.afterRetry attempt sleptMs).resent.countP counted ≤
      trace.resent.countP counted + if counted attempt then 1 else 0 := by
  unfold resent
  rw [sends_afterRetry]
  cases sends : trace.sends with
  | nil => simp
  | cons first rest => rw [List.dropLast_cons_cons, List.countP_cons]

/-- What is left of the budgets of a request bounds a trace of its loop. -/
structure Affords (request : RateLimitedRequest) (method : HttpMethod)
    (trace : SendTrace) : Prop where
  sends_le : trace.sends.length ≤ request.retriesLeft + 1
  waited_le : ∀ attempt ∈ trace.sends,
    attempt.waitedMs ≤ maxInRequestRateLimitSleepMs
  slept_le : ∀ retry ∈ trace.retried, retry.1.reply.isRateLimit = true →
    retry.2 ≤ maxInRequestRateLimitSleepMs
  sameMethod : ∀ attempt ∈ trace.sends, attempt.method = method
  retryable : ∀ attempt ∈ trace.resent,
    attempt.reply.isRateLimit = true ∨ attempt.reply.isTransient = true
  transients_lt : request.attempt +
    trace.resent.countP (·.reply.isTransient) < maxTransientRetries
  rateLimits_lt : request.rateLimitAttempt +
    trace.resent.countP (·.reply.isRateLimit) < maxRateLimitRetries

/-- A trace whose call returned in its first turn. -/
theorem affords_of_returned {request : RateLimitedRequest}
    (attempts : request.attempt < maxTransientRetries)
    (rateLimits : request.rateLimitAttempt < maxRateLimitRetries)
    {last : Option SendAttempt} (result : Except SpotifyError Unit)
    (sent : ∀ attempt ∈ last, attempt.method = method ∧
      attempt.waitedMs ≤ maxInRequestRateLimitSleepMs) :
    SendTrace.Affords request method
      { retried := [], last := last, result := result } := by
  have unsent : SendTrace.resent
      { retried := [], last := last, result := result } = [] := by
    cases last <;> rfl
  constructor
  · cases last <;> simp [sends]
  · intro attempt member
    exact (sent attempt (by simpa [sends] using member)).2
  · intro retry member
    cases member
  · intro attempt member
    exact (sent attempt (by simpa [sends] using member)).1
  · rw [unsent]
    intro attempt member
    cases member
  · simpa [unsent] using attempts
  · simpa [unsent] using rateLimits

end SendTrace

/-- No reply is charged to both budgets. -/
theorem ProviderReply.isTransient_of_isRateLimit {reply : ProviderReply}
    (limited : reply.isRateLimit = true) : reply.isTransient = false := by
  cases reply with
  | networkError message => cases limited
  | response status retryAfter body =>
    obtain rfl : status = 429 := by simpa [isRateLimit] using limited
    rfl

theorem RateLimitedRequest.Charged.retriesLeft
    {request next : RateLimitedRequest} {reply : ProviderReply} {sleptMs : Nat}
    (charged : request.Charged reply sleptMs next) :
    next.retriesLeft + 1 = request.retriesLeft := by
  obtain ⟨attempt, rateLimitAttempt, ⟨attempts, rateLimits⟩, retryable, _⟩ :=
    charged
  unfold RateLimitedRequest.retriesLeft
  cases limited : reply.isRateLimit with
  | true =>
    have lasting := ProviderReply.isTransient_of_isRateLimit limited
    simp only [limited, lasting, if_true] at attempt rateLimitAttempt
    simp only [Bool.false_eq_true, if_false] at attempt
    omega
  | false =>
    have transient : reply.isTransient = true := by simpa [limited] using retryable
    simp only [limited, transient, if_true] at attempt rateLimitAttempt
    simp only [Bool.false_eq_true, if_false] at rateLimitAttempt
    omega

/-- A turn that sleeps adds its send, within what its charge leaves. -/
theorem SendTrace.Affords.afterRetry {trace : SendTrace} {method : HttpMethod}
    {request next : RateLimitedRequest} {attempt : SendAttempt} {sleptMs : Nat}
    (affords : trace.Affords next method)
    (sameMethod : attempt.method = method)
    (waited : attempt.waitedMs ≤ maxInRequestRateLimitSleepMs)
    (charged : request.Charged attempt.reply sleptMs next) :
    (trace.afterRetry attempt sleptMs).Affords request method := by
  constructor
  · rw [sends_afterRetry, List.length_cons, ← charged.retriesLeft]
    exact Nat.succ_le_succ affords.sends_le
  · rw [sends_afterRetry]
    exact List.forall_mem_cons.mpr ⟨waited, affords.waited_le⟩
  · exact List.forall_mem_cons.mpr ⟨charged.slept_le, affords.slept_le⟩
  · rw [sends_afterRetry]
    exact List.forall_mem_cons.mpr ⟨sameMethod, affords.sameMethod⟩
  · intro other member
    rcases mem_resent_afterRetry member with rfl | old
    · exact charged.retryable
    · exact affords.retryable other old
  · have counted := @countP_resent_afterRetry trace (·.reply.isTransient)
      attempt sleptMs
    have below := affords.transients_lt
    rw [charged.attempt] at below
    omega
  · have counted := @countP_resent_afterRetry trace (·.reply.isRateLimit)
      attempt sleptMs
    have below := affords.rateLimits_lt
    rw [charged.rateLimitAttempt] at below
    omega

/-- The loop returns within the retries a request has left, whatever its turns
meet, and one more turn does not change what it returns. -/
theorem sendLoop_affords (secondsUntil : Nat → List Char → Option Int)
    (method : HttpMethod) (turns : Nat → LoopTurn)
    (request : RateLimitedRequest) (budget : request.HasBudget) :
    ∃ trace : SendTrace, trace.Affords request method ∧
      ∀ fuel, request.retriesLeft < fuel →
        sendLoop secondsUntil method fuel turns request = some trace := by
  induction left : request.retriesLeft using Nat.strongRecOn
    generalizing turns request with
  | ind left inductionHypothesis =>
    subst left
    rcases request.turn_cases secondsUntil method (turns 0) budget with
      ⟨result, returned⟩ |
        ⟨attempt, sameMethod, waited,
          ⟨result, returned⟩ | ⟨sleptMs, next, slept, charged⟩⟩
    · refine ⟨{ retried := [], last := none, result := result }, ?_, ?_⟩
      · exact SendTrace.affords_of_returned budget.1 budget.2 result (by simp)
      · intro fuel enough
        cases fuel with
        | zero => cases enough
        | succ fuel => simp only [sendLoop, returned]
    · refine ⟨{ retried := [], last := some attempt, result := result },
        ?_, ?_⟩
      · exact SendTrace.affords_of_returned budget.1 budget.2 result
          (by simpa using ⟨sameMethod, waited⟩)
      · intro fuel enough
        cases fuel with
        | zero => cases enough
        | succ fuel => simp only [sendLoop, returned]
    · have fewer := charged.retriesLeft
      obtain ⟨trace, affords, returns⟩ := inductionHypothesis
        next.retriesLeft (by omega) (fun index => turns (index + 1)) next
        charged.budget rfl
      refine ⟨trace.afterRetry attempt sleptMs,
        affords.afterRetry sameMethod waited charged, ?_⟩
      intro fuel enough
      cases fuel with
      | zero => cases enough
      | succ fuel =>
        simp only [sendLoop, slept, returns fuel (by omega), Option.map_some]

/-- One call returns whatever replies, errors and cooldowns its turns meet, and
its sends fit the budgets. -/
theorem sendWithRetryInBucket_withinBudgets
    (secondsUntil : Nat → List Char → Option Int) (method : HttpMethod)
    (cooldownScope endpointScope : String) (turns : Nat → LoopTurn) :
    ∃ trace : SendTrace, trace.WithinBudgets method ∧
      ∀ fuel, maxTransientRetries + maxRateLimitRetries ≤ fuel →
        sendWithRetryInBucket secondsUntil method cooldownScope endpointScope
          fuel turns = some trace := by
  have transients : 0 < maxTransientRetries := by decide
  have rateLimits : 0 < maxRateLimitRetries := by decide
  have left : (RateLimitedRequest.started cooldownScope
      endpointScope).retriesLeft =
        (maxTransientRetries - 1) + (maxRateLimitRetries - 1) := rfl
  obtain ⟨trace, affords, returns⟩ := sendLoop_affords secondsUntil method
    turns (.started cooldownScope endpointScope) ⟨transients, rateLimits⟩
  refine ⟨trace, ?_, ?_⟩
  · have sends := affords.sends_le
    constructor
    · omega
    · exact affords.waited_le
    · exact affords.slept_le
    · exact affords.sameMethod
    · exact affords.retryable
    · exact (Nat.zero_add _).symm.trans_lt affords.transients_lt
    · exact (Nat.zero_add _).symm.trans_lt affords.rateLimits_lt
  · intro fuel enough
    exact returns fuel (by omega)

/-- The first reply is lost; the repeated request succeeds. -/
def lostReplyTurns : Nat → LoopTurn := fun index =>
  { checkedBackoff := .empty, checkedAt := 1000 * index,
    reply :=
      if index = 0 then .networkError "operation timed out"
      else .response 201 none "",
    handledBackoff := .empty, handledAt := 1000 * index, jitter := id }

/-- A `POST` whose reply was lost is sent again. -/
theorem lost_post_resent :
    ¬ ∀ method turns, ∃ trace : SendTrace,
      trace.WithinBudgets method ∧ trace.ResendsOnlyIdempotent ∧
      ∀ fuel, maxTransientRetries + maxRateLimitRetries ≤ fuel →
        sendWithRetryInBucket (fun _ _ => none) method
          "dev-app POST /playlists/p1/tracks" "POST /playlists/p1/tracks" fuel
          turns = some trace := by
  intro claimed
  obtain ⟨trace, _, idempotent, returns⟩ := claimed .post lostReplyTurns
  have traced := returns 6 (by decide)
  obtain rfl := Option.some.inj traced
  have resent := idempotent ⟨.post, 0, .networkError "operation timed out"⟩
    List.mem_cons_self rfl
  cases resent

end Spotuify
