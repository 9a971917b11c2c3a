import Spotuify.GuardedMachine
import Spotuify.Cooldowns
import Mathlib.Algebra.Ring.Nat
import Mathlib.Logic.Function.Basic

/-!
# Rate limits of the web client

Every request checks the shared backoff state, waits, sends, and then handles
the reply: a success clears the cooldown of its scope and a 429 overwrites it.
Requests of one scope run side by side, so a reply may land while a cooldown
that another reply recorded is still running.  Times are milliseconds.  The
concurrency permits only delay a send and are part of the time that passes
before it; the date parser of the `Retry-After` header and the jitter of a
retry are parameters.
-/

namespace Spotuify

def maxTransientRetries : Nat := 3

def maxRateLimitRetries : Nat := 3

def maxInRequestRateLimitSleepMs : Nat := 5000

def backoffBaseMs : Nat := 250

def backoffCeilingMs : Nat := 30000

def defaultRetryAfterSecs : Nat := 60

def maxRetryAfterSecs : Nat := 3600

/-- `response` stands for what `classify_response` makes of the statuses not
named here. -/
inductive SpotifyError where
  | rateLimited (retryAfterMs : Nat) (scope : String)
  | authExpired
  | network (endpoint message : String)
  | response (status : Nat) (endpoint body : String)
  deriving DecidableEq

inductive RetryAction where
  | retry (delayMs : Nat)
  | giveUp (error : SpotifyError)
  | success

/-- `raw.trim()`; a header value holds visible ASCII, spaces and tabs. -/
def trimHeader (raw : String) : List Char :=
  let blank (char : Char) : Bool := char = ' ' || char = '\t'
  ((raw.toList.dropWhile blank).reverse.dropWhile blank).reverse

/-- `parse::<u64>()`. -/
def parseU64 (chars : List Char) : Option Nat :=
  let digits := if chars.head? = some '+' then chars.tail else chars
  if digits.isEmpty || !digits.all Char.isDigit then none
  else
    some (digits.foldl (fun value digit => value * 10 + (digit.toNat - 48)) 0)
      |>.filter fun value => value < 2 ^ 64

/-- `parse_retry_after` in milliseconds.  `secondsUntil` gives the whole
seconds from a time to the date a header value names. -/
def parseRetryAfter (secondsUntil : Nat → List Char → Option Int)
    (header : Option String) (nowMs : Nat) : Nat :=
  let seconds :=
    match header with
    | none => defaultRetryAfterSecs
    | some raw =>
      match parseU64 (trimHeader raw) with
      | some seconds => min seconds maxRetryAfterSecs
      | none =>
        match secondsUntil nowMs (trimHeader raw) with
        | some delta => min delta.toNat maxRetryAfterSecs
        | none => defaultRetryAfterSecs
  seconds * 1000

/-- `jittered_backoff`; `jitter` scales the base at random. -/
def jitteredBackoff (attempt : Nat) (jitter : Nat → Nat) : Nat :=
  let base := min (backoffBaseMs * 2 ^ min attempt 10) backoffCeilingMs
  max 1 (min (jitter base) backoffCeilingMs)

def isSuccessStatus (status : Nat) : Bool :=
  (200 ≤ status && status < 300) || status = 304

section
variable (secondsUntil : Nat → List Char → Option Int)

def classifyResponse (status : Nat) (retryAfter : Option String)
    (endpoint body : String) (nowMs : Nat) : SpotifyError :=
  if status = 429 then
    .rateLimited (parseRetryAfter secondsUntil retryAfter nowMs) endpoint
  else if status = 401 then .authExpired
  else .response status endpoint body

def decideRetry (attempt status : Nat) (retryAfter : Option String)
    (endpoint body : String) (nowMs : Nat) (jitter : Nat → Nat) :
    RetryAction :=
  if isSuccessStatus status then .success
  else if status = 429 then
    .retry (parseRetryAfter secondsUntil retryAfter nowMs)
  else if status = 401 then .giveUp .authExpired
  else if 500 ≤ status ∧ status < 600 then
    if attempt + 1 ≥ maxTransientRetries then
      .giveUp
        (classifyResponse secondsUntil status retryAfter endpoint body nowMs)
    else .retry (jitteredBackoff attempt jitter)
  else
    .giveUp
      (classifyResponse secondsUntil status retryAfter endpoint body nowMs)

end

structure ScopeState where
  nextEligibleAtMs : Option Nat
  lastRateLimitedAtMs : Option Nat

structure BackoffState where
  scopes : String → Option ScopeState

namespace BackoffState

variable (backoff : BackoffState)

def nextEligible (scope : String) : Option Nat :=
  (backoff.scopes scope).bind ScopeState.nextEligibleAtMs

def waitMs (scope : String) (nowMs : Nat) : Nat :=
  match backoff.nextEligible scope with
  | some target => target - nowMs
  | none => 0

def recordRateLimit (scope : String) (nowMs retryAfterMs : Nat) :
    BackoffState where
  scopes := Function.update backoff.scopes scope
    (some
      { lastRateLimitedAtMs := some nowMs,
        nextEligibleAtMs := some (nowMs + retryAfterMs) })

def clear (scope : String) : BackoffState where
  scopes := Function.update backoff.scopes scope
    ((backoff.scopes scope).map fun state =>
      { state with nextEligibleAtMs := none })

theorem nextEligible_recordRateLimit (scope other : String)
    (nowMs retryAfterMs : Nat) :
    (backoff.recordRateLimit scope nowMs retryAfterMs).nextEligible other =
      if other = scope then some (nowMs + retryAfterMs)
      else backoff.nextEligible other := by
  by_cases same : other = scope
  · subst same
    simp [nextEligible, recordRateLimit]
  · simp [nextEligible, recordRateLimit, same]

theorem nextEligible_clear (scope other : String) :
    (backoff.clear scope).nextEligible other =
      if other = scope then none else backoff.nextEligible other := by
  by_cases same : other = scope
  · subst same
    cases stored : backoff.scopes other <;>
      simp [nextEligible, clear, stored]
  · simp [nextEligible, clear, same]

end BackoffState

/-- Where a request is in its loop.  `checkedAfter` counts the cooldowns that
had been recorded when it passed its eligibility check. -/
inductive RequestPhase where
  | checking
  | eligible (sendableAt checkedAfter : Nat)
  | sent
  | sleeping (wakesAt : Nat)
  | returned (result : Except SpotifyError Unit)

structure RateLimitedRequest where
  cooldownScope : String
  endpointScope : String
  attempt : Nat
  rateLimitAttempt : Nat
  phase : RequestPhase

inductive ProviderReply where
  | networkError (message : String)
  | response (status : Nat) (retryAfter : Option String) (body : String)

namespace RateLimitedRequest

variable (request : RateLimitedRequest)

def isFirstParty : Bool :=
  "first-party ".toList.isPrefixOf request.cooldownScope.toList

/-- The wait `sleep_until_eligible` computes. -/
def eligibilityWait (backoff : BackoffState) (nowMs : Nat) : Nat :=
  let waitMs := backoff.waitMs request.cooldownScope nowMs
  if request.isFirstParty then
    max waitMs (backoff.waitMs request.endpointScope nowMs)
  else waitMs

/-- `sleep_until_eligible`: wait for the cooldown, or give up on a long one. -/
def sleepUntilEligible (backoff : BackoffState) (nowMs checkedAfter : Nat) :
    RateLimitedRequest :=
  let waitMs := request.eligibilityWait backoff nowMs
  if waitMs > maxInRequestRateLimitSleepMs then
    { request with
      phase := .returned (.error (.rateLimited waitMs request.endpointScope)) }
  else { request with phase := .eligible (nowMs + waitMs) checkedAfter }

/-- The scopes a success clears. -/
def clearedScopes : List String :=
  if request.isFirstParty then
    [request.cooldownScope, request.endpointScope]
  else [request.cooldownScope]

def clearBackoff (backoff : BackoffState) : BackoffState :=
  let backoff := backoff.clear request.cooldownScope
  if request.isFirstParty then backoff.clear request.endpointScope
  else backoff

/-- What `send_with_retry_in_bucket` does with a reply: the request and the
backoff state afterwards, and the delay of the cooldown it recorded. -/
def handleReply (secondsUntil : Nat → List Char → Option Int)
    (backoff : BackoffState) (nowMs : Nat) (jitter : Nat → Nat) :
    ProviderReply → RateLimitedRequest × BackoffState × Option Nat
  | .networkError message =>
    if request.attempt + 1 < maxTransientRetries then
      ({ request with
          attempt := request.attempt + 1,
          phase := .sleeping
            (nowMs + jitteredBackoff request.attempt jitter) },
        backoff, none)
    else
      ({ request with
          phase := .returned
            (.error (.network request.endpointScope message)) },
        backoff, none)
  | .response status retryAfter body =>
    if isSuccessStatus status then
      ({ request with phase := .returned (.ok ()) },
        request.clearBackoff backoff, none)
    else
      match decideRetry secondsUntil request.attempt status retryAfter
        request.endpointScope body nowMs jitter with
      | .success => (request, backoff, none) -- handled above
      | .giveUp error =>
        ({ request with phase := .returned (.error error) }, backoff, none)
      | .retry delay =>
        if status = 429 then
          let backoff :=
            backoff.recordRateLimit request.cooldownScope nowMs delay
          let rateLimitAttempt := request.rateLimitAttempt + 1
          if rateLimitAttempt ≥ maxRateLimitRetries ∨
              delay > maxInRequestRateLimitSleepMs then
            ({ request with
                rateLimitAttempt := rateLimitAttempt,
                phase := .returned
                  (.error
                    (classifyResponse secondsUntil status retryAfter
                      request.endpointScope body nowMs)) },
              backoff, some delay)
          else
            ({ request with
                rateLimitAttempt := rateLimitAttempt,
                phase := .sleeping (nowMs + delay) },
              backoff, some delay)
        else
          ({ request with
              attempt := request.attempt + 1,
              phase := .sleeping (nowMs + delay) },
            backoff, none)

end RateLimitedRequest

/-- A 429 recorded at a time with its delay. -/
structure CooldownRecord where
  scope : String
  recordedAt : Nat
  retryAfterMs : Nat
  deriving DecidableEq

def CooldownRecord.endsAt (record : CooldownRecord) : Nat :=
  record.recordedAt + record.retryAfterMs

/-- A request that was sent, and how many cooldowns had been recorded when it
passed its eligibility check. -/
structure SendRecord where
  scope : String
  checkedAfter : Nat
  sentAt : Nat
  deriving DecidableEq

/-- The requests of one client over its shared backoff state, with the
cooldowns recorded and the requests sent so far, oldest first. -/
structure RateLimitSystem where
  clock : Nat
  backoff : BackoffState
  requests : List RateLimitedRequest
  cooldowns : List CooldownRecord
  sends : List SendRecord

inductive RateLimitAction where
  | tick (elapsed : Nat)
  | call (cooldownScope endpointScope : String)
  | check (index : Nat)
  | send (index : Nat)
  | handle (index : Nat) (reply : ProviderReply) (jitter : Nat → Nat)
  | wake (index : Nat)

namespace RateLimitSystem

/-- A client that has just loaded its backoff state. -/
def started (clock : Nat) (backoff : BackoffState) : RateLimitSystem where
  clock := clock
  backoff := backoff
  requests := []
  cooldowns := []
  sends := []

variable (secondsUntil : Nat → List Char → Option Int)

def setRequest (system : RateLimitSystem) (index : Nat)
    (request : RateLimitedRequest) : RateLimitSystem :=
  { system with requests := system.requests.set index request }

/-- The handling of a reply, with the cooldown it recorded. -/
def handled (system : RateLimitSystem) (index : Nat)
    (request : RateLimitedRequest) (reply : ProviderReply)
    (jitter : Nat → Nat) : RateLimitSystem :=
  let result := request.handleReply secondsUntil system.backoff system.clock
    jitter reply
  { system.setRequest index result.1 with
    backoff := result.2.1,
    cooldowns := system.cooldowns ++ result.2.2.toList.map fun delay =>
      { scope := request.cooldownScope, recordedAt := system.clock,
        retryAfterMs := delay } }

def step (system : RateLimitSystem) :
    RateLimitAction → Option RateLimitSystem
  | .tick elapsed => some { system with clock := system.clock + elapsed }
  | .call cooldownScope endpointScope =>
    some
      { system with
        requests := system.requests ++
          [{ cooldownScope := cooldownScope, endpointScope := endpointScope,
             attempt := 0, rateLimitAttempt := 0, phase := .checking }] }
  | .check index =>
    system.requests[index]?.bind fun request =>
      match request.phase with
      | .checking =>
        some (system.setRequest index
          (request.sleepUntilEligible system.backoff system.clock
            system.cooldowns.length))
      | _ => none
  | .send index =>
    system.requests[index]?.bind fun request =>
      match request.phase with
      | .eligible sendableAt checkedAfter =>
        if sendableAt ≤ system.clock then
          some
            { system.setRequest index { request with phase := .sent } with
              sends := system.sends ++
                [{ scope := request.cooldownScope,
                   checkedAfter := checkedAfter, sentAt := system.clock }] }
        else none
      | _ => none
  | .handle index reply jitter =>
    system.requests[index]?.bind fun request =>
      match request.phase with
      | .sent => some (system.handled secondsUntil index request reply jitter)
      | _ => none
  | .wake index =>
    system.requests[index]?.bind fun request =>
      match request.phase with
      | .sleeping wakesAt =>
        if wakesAt ≤ system.clock then
          some (system.setRequest index { request with phase := .checking })
        else none
      | _ => none

def machine : GuardedMachine RateLimitSystem RateLimitAction where
  step := step secondsUntil

/-- No request was sent while a cooldown of its scope that was recorded before
its eligibility check was running. -/
def HonoursCooldowns (system : RateLimitSystem) : Prop :=
  ∀ sent ∈ system.sends, ∀ record ∈ system.cooldowns.take sent.checkedAfter,
    record.scope = sent.scope → record.endsAt ≤ sent.sentAt

/-- The recorded cooldowns of a scope have ended by a time. -/
def EndedBy (system : RateLimitSystem) (scope : String) (time : Nat) : Prop :=
  ∀ record ∈ system.cooldowns, record.scope = scope → record.endsAt ≤ time

/-- A reply does not cut a running cooldown short: a success arrives after the
cooldowns of the scopes it clears, and a 429 asks for at least as long as the
ones of its scope. -/
def KeepsCooldowns (system : RateLimitSystem) : RateLimitAction → Prop
  | .handle index (.response status retryAfter _) _ =>
    ∀ request, system.requests[index]? = some request →
      (isSuccessStatus status = true → ∀ scope ∈ request.clearedScopes,
        system.EndedBy scope system.clock) ∧
      (status = 429 → system.EndedBy request.cooldownScope
        (system.clock + parseRetryAfter secondsUntil retryAfter system.clock))
  | _ => True

instance (system : RateLimitSystem) (scope : String) (time : Nat) :
    Decidable (system.EndedBy scope time) :=
  inferInstanceAs (Decidable (∀ record ∈ system.cooldowns, _ → _))

instance (system : RateLimitSystem) (action : RateLimitAction) :
    Decidable (system.KeepsCooldowns secondsUntil action) :=
  match action with
  | .handle index (.response _ _ _) _ =>
    match found : system.requests[index]? with
    | none =>
      isTrue (by intro request isRequest; simp [found] at isRequest)
    | some request =>
      decidable_of_iff (_ ∧ _)
        ⟨fun holds other isOther => by
            obtain rfl : request = other := by simpa [found] using isOther
            exact holds,
          fun holds => holds request found⟩
  | .handle _ (.networkError _) _ => isTrue trivial
  | .tick _ | .call _ _ | .check _ | .send _ | .wake _ => isTrue trivial

end RateLimitSystem

namespace RateLimitedRequest

variable (request : RateLimitedRequest)

/-- The request is past its eligibility check and has not sent yet. -/
def IsEligible (sendableAt checkedAfter : Nat) : Prop :=
  request.phase = .eligible sendableAt checkedAfter

/-- A handled reply leaves the request ineligible; it clears the cooldowns of a
success, records the cooldown of a 429, or leaves the backoff state alone. -/
theorem handleReply_cases (secondsUntil : Nat → List Char → Option Int)
    (backoff : BackoffState) (nowMs : Nat) (jitter : Nat → Nat)
    (reply : ProviderReply) :
    let result := request.handleReply secondsUntil backoff nowMs jitter reply
    (∀ sendableAt checkedAfter,
      request.phase = .sent →
        ¬ result.1.IsEligible sendableAt checkedAfter) ∧
    (result.2 = (backoff, none) ∨
      (∃ status retryAfter body,
        reply = .response status retryAfter body ∧
          isSuccessStatus status = true ∧
          result.2 = (request.clearBackoff backoff, none)) ∨
      ∃ retryAfter body,
        reply = .response 429 retryAfter body ∧
          result.2 =
            (backoff.recordRateLimit request.cooldownScope nowMs
                (parseRetryAfter secondsUntil retryAfter nowMs),
              some (parseRetryAfter secondsUntil retryAfter nowMs))) := by
  intro result
  cases reply with
  | networkError message =>
    by_cases again : request.attempt + 1 < maxTransientRetries
    · simp [result, handleReply, again, IsEligible]
    · simp [result, handleReply, again, IsEligible]
  | response status retryAfter body =>
    by_cases success : isSuccessStatus status = true
    · refine ⟨?_, Or.inr (Or.inl ⟨status, retryAfter, body, rfl, success, ?_⟩)⟩
      · simp [result, handleReply, success, IsEligible]
      · simp [result, handleReply, success]
    · by_cases limited : status = 429
      · subst limited
        have decided : decideRetry secondsUntil request.attempt 429 retryAfter
            request.endpointScope body nowMs jitter =
              .retry (parseRetryAfter secondsUntil retryAfter nowMs) := by
          simp [decideRetry, success]
        refine ⟨?_, Or.inr (Or.inr ⟨retryAfter, body, rfl, ?_⟩)⟩
        all_goals
          by_cases last : maxRateLimitRetries ≤ request.rateLimitAttempt + 1 ∨
            maxInRequestRateLimitSleepMs <
              parseRetryAfter secondsUntil retryAfter nowMs
          · simp [result, handleReply, success, decided, last, IsEligible]
          · simp [result, handleReply, success, decided, last, IsEligible]
      · cases decided : decideRetry secondsUntil request.attempt status
          retryAfter request.endpointScope body nowMs jitter with
        | success =>
          simp +contextual [result, handleReply, success, decided, IsEligible]
        | giveUp error =>
          simp [result, handleReply, success, decided, IsEligible]
        | retry delay =>
          simp [result, handleReply, success, decided, limited, IsEligible]

end RateLimitedRequest

namespace RateLimitSystem

variable {secondsUntil : Nat → List Char → Option Int}
  {system next : RateLimitSystem}

/-- When the recorded cooldowns of a scope end. -/
def deadlines (system : RateLimitSystem) (scope : String) : Set Nat :=
  { time | ∃ record ∈ system.cooldowns, record.scope = scope ∧
      record.endsAt = time }

/-- The cooldowns of a scope that a check saw have ended by a time. -/
def SeenEndedBy (system : RateLimitSystem) (scope : String)
    (checkedAfter time : Nat) : Prop :=
  checkedAfter ≤ system.cooldowns.length ∧
    ∀ record ∈ system.cooldowns.take checkedAfter,
      record.scope = scope → record.endsAt ≤ time

/-- The stored cooldowns cover the recorded ones, a request that passed its
check waits for every cooldown the check saw, and so did every send. -/
structure Covered (system : RateLimitSystem) : Prop where
  stored : ∀ scope, Cooldown.Covers (system.backoff.nextEligible scope)
    system.clock (system.deadlines scope)
  waiting : ∀ request ∈ system.requests, ∀ sendableAt checkedAfter,
    request.IsEligible sendableAt checkedAfter →
      system.SeenEndedBy request.cooldownScope checkedAfter sendableAt
  sent : ∀ sent ∈ system.sends,
    system.SeenEndedBy sent.scope sent.checkedAfter sent.sentAt

theorem started_covered (clock : Nat) (backoff : BackoffState) :
    (started clock backoff).Covered := by
  constructor
  · rintro scope deadline ⟨record, member, _⟩
    cases member
  · intro request member
    cases member
  · intro sent member
    cases member

theorem Covered.honours (covered : system.Covered) :
    system.HonoursCooldowns := by
  intro sent member record seen same
  exact (covered.sent sent member).2 record seen same

/-- Cooldowns recorded later do not change what a check saw. -/
theorem SeenEndedBy.append {scope : String} {checkedAfter time : Nat}
    (seen : system.SeenEndedBy scope checkedAfter time)
    {later : RateLimitSystem} {added : List CooldownRecord}
    (recorded : later.cooldowns = system.cooldowns ++ added) :
    later.SeenEndedBy scope checkedAfter time := by
  obtain ⟨inRange, ended⟩ := seen
  constructor
  · rw [recorded, List.length_append]
    omega
  · rw [recorded, List.take_append_of_le_length inRange]
    exact ended

/-- A request that changes and is not eligible afterwards owes nothing. -/
theorem waiting_set {requests : List RateLimitedRequest} {index : Nat}
    {changed : RateLimitedRequest} {owed : RateLimitedRequest → Prop}
    (others : ∀ request ∈ requests, owed request) (self : owed changed) :
    ∀ request ∈ requests.set index changed, owed request := by
  intro request member
  rcases List.mem_or_eq_of_mem_set member with old | rfl
  · exact others request old
  · exact self

/-- The eligibility check waits for every recorded cooldown of its scope. -/
theorem Covered.eligibilityWait (covered : system.Covered)
    (request : RateLimitedRequest) :
    system.EndedBy request.cooldownScope
      (system.clock +
        request.eligibilityWait system.backoff system.clock) := by
  intro record member same
  apply (covered.stored request.cooldownScope).le_of_openAt
    (Nat.le_add_right _ _)
  · intro target stored
    have waits : target - system.clock ≤
        request.eligibilityWait system.backoff system.clock := by
      unfold RateLimitedRequest.eligibilityWait BackoffState.waitMs
      rw [stored]
      dsimp only
      split <;> omega
    omega
  · exact ⟨record, member, same, rfl⟩

theorem SeenEndedBy.mono {scope : String} {checkedAfter time later : Nat}
    (seen : system.SeenEndedBy scope checkedAfter time)
    (ordered : time ≤ later) :
    system.SeenEndedBy scope checkedAfter later :=
  ⟨seen.1, fun record member same =>
    (seen.2 record member same).trans ordered⟩

/-- Changing one request keeps the rest, if it owes nothing new. -/
theorem Covered.setRequest (covered : system.Covered) {index : Nat}
    {request : RateLimitedRequest}
    (waits : ∀ sendableAt checkedAfter,
      request.IsEligible sendableAt checkedAfter →
        system.SeenEndedBy request.cooldownScope checkedAfter sendableAt) :
    (system.setRequest index request).Covered :=
  ⟨covered.stored, waiting_set covered.waiting waits, covered.sent⟩

theorem Covered.check (covered : system.Covered) (index : Nat)
    (request : RateLimitedRequest) :
    (system.setRequest index
      (request.sleepUntilEligible system.backoff system.clock
        system.cooldowns.length)).Covered := by
  apply covered.setRequest
  intro sendableAt checkedAfter eligible
  unfold RateLimitedRequest.sleepUntilEligible at eligible ⊢
  dsimp only at eligible ⊢
  by_cases long : request.eligibilityWait system.backoff system.clock >
      maxInRequestRateLimitSleepMs
  · rw [if_pos long] at eligible
    cases eligible
  · rw [if_neg long] at eligible ⊢
    cases eligible
    refine ⟨Nat.le_refl _, ?_⟩
    rw [List.take_length]
    exact covered.eligibilityWait request

/-- A cooldown recorded by a 429 that asks for long enough. -/
theorem Covered.record (covered : system.Covered) {scope : String}
    {retryAfterMs : Nat}
    (longest : system.EndedBy scope (system.clock + retryAfterMs)) :
    Covered
      { system with
        backoff := system.backoff.recordRateLimit scope system.clock
          retryAfterMs,
        cooldowns := system.cooldowns ++
          [{ scope := scope, recordedAt := system.clock,
             retryAfterMs := retryAfterMs }] } := by
  refine ⟨?_, ?_, ?_⟩
  · intro other
    dsimp only
    rw [BackoffState.nextEligible_recordRateLimit]
    by_cases same : other = scope
    · rw [if_pos same]
      rintro deadline ⟨record, member, _, rfl⟩
      refine Or.inr ⟨_, rfl, ?_⟩
      rcases List.mem_append.mp member with old | new
      · exact longest record old (by simp_all)
      · cases List.mem_singleton.mp new
        exact Nat.le_refl _
    · rw [if_neg same]
      rintro deadline ⟨record, member, recordScope, rfl⟩
      rcases List.mem_append.mp member with old | new
      · exact covered.stored other _ ⟨record, old, recordScope, rfl⟩
      · cases List.mem_singleton.mp new
        exact absurd recordScope.symm same
  · intro request member sendableAt checkedAfter eligible
    exact (covered.waiting request member sendableAt checkedAfter
      eligible).append rfl
  · intro sent member
    exact (covered.sent sent member).append rfl

/-- A success that comes after the cooldowns of a scope it clears. -/
theorem Covered.clear (covered : system.Covered) {scope : String}
    (ended : system.EndedBy scope system.clock) :
    Covered { system with backoff := system.backoff.clear scope } := by
  refine ⟨?_, covered.waiting, covered.sent⟩
  intro other
  dsimp only
  rw [BackoffState.nextEligible_clear]
  by_cases same : other = scope
  · rw [if_pos same]
    apply Cooldown.covers_clear
    rintro deadline ⟨record, member, recordScope, rfl⟩
    exact ended record member (recordScope.trans same)
  · rw [if_neg same]
    exact covered.stored other

theorem Covered.clearBackoff (covered : system.Covered)
    (request : RateLimitedRequest)
    (ended : ∀ scope ∈ request.clearedScopes,
      system.EndedBy scope system.clock) :
    Covered
      { system with backoff := request.clearBackoff system.backoff } := by
  unfold RateLimitedRequest.clearedScopes at ended
  unfold RateLimitedRequest.clearBackoff
  cases firstParty : request.isFirstParty with
  | false =>
    rw [firstParty, if_neg (by simp)] at ended
    exact covered.clear (ended _ List.mem_cons_self)
  | true =>
    rw [firstParty, if_pos rfl] at ended
    have first := covered.clear (ended _ List.mem_cons_self)
    exact first.clear
      (ended _ (List.mem_cons_of_mem _ List.mem_cons_self))

theorem Covered.handled (covered : system.Covered) {index : Nat}
    {request : RateLimitedRequest} {reply : ProviderReply}
    {jitter : Nat → Nat} (sent : request.phase = .sent)
    (found : system.requests[index]? = some request)
    (keeps : system.KeepsCooldowns secondsUntil
      (.handle index reply jitter)) :
    (system.handled secondsUntil index request reply jitter).Covered := by
  obtain ⟨ineligible, effect⟩ := request.handleReply_cases secondsUntil
    system.backoff system.clock jitter reply
  unfold RateLimitSystem.handled
  dsimp only
  have waits : ∀ sendableAt checkedAfter,
      (request.handleReply secondsUntil system.backoff system.clock jitter
        reply).1.IsEligible sendableAt checkedAfter →
      system.SeenEndedBy (request.handleReply secondsUntil system.backoff
        system.clock jitter reply).1.cooldownScope checkedAfter sendableAt :=
    fun sendableAt checkedAfter eligible =>
      absurd eligible (ineligible sendableAt checkedAfter sent)
  have changed := @Covered.setRequest system covered index _ waits
  rcases effect with same | ⟨status, retryAfter, body, rfl, success, same⟩ |
    ⟨retryAfter, body, rfl, same⟩
  · rw [same]
    dsimp only
    rw [Option.toList_none, List.map_nil, List.append_nil]
    exact changed
  · rw [same]
    dsimp only
    rw [Option.toList_none, List.map_nil, List.append_nil]
    have ended := (keeps request found).1 success
    exact changed.clearBackoff request ended
  · rw [same]
    have longest := (keeps request found).2 rfl
    exact changed.record longest

theorem Covered.step {action : RateLimitAction} (covered : system.Covered)
    (keeps : system.KeepsCooldowns secondsUntil action)
    (steps : system.step secondsUntil action = some next) :
    next.Covered := by
  cases action with
  | tick elapsed =>
    cases steps
    refine ⟨?_, covered.waiting, covered.sent⟩
    intro scope
    exact (covered.stored scope).of_le (Nat.le_add_right _ _)
  | call cooldownScope endpointScope =>
    cases steps
    refine ⟨covered.stored, ?_, covered.sent⟩
    intro request member sendableAt checkedAfter eligible
    rcases List.mem_append.mp member with old | new
    · exact covered.waiting request old sendableAt checkedAfter eligible
    · cases List.mem_singleton.mp new
      cases eligible
  | check index =>
    obtain ⟨request, found, steps⟩ := Option.bind_eq_some_iff.mp steps
    cases phase : request.phase with
    | checking =>
      rw [phase] at steps
      cases steps
      exact covered.check index request
    | _ => simp [phase] at steps
  | send index =>
    obtain ⟨request, found, steps⟩ := Option.bind_eq_some_iff.mp steps
    cases phase : request.phase with
    | eligible sendableAt checkedAfter =>
      simp only [phase] at steps
      split at steps
      · rename_i late
        cases steps
        have owed := covered.waiting request (List.mem_of_getElem? found)
          sendableAt checkedAfter phase
        have changed : (system.setRequest index
            { request with phase := .sent }).Covered :=
          covered.setRequest (by intro _ _ eligible; cases eligible)
        refine ⟨changed.stored, changed.waiting, ?_⟩
        intro sent member
        rcases List.mem_append.mp member with old | new
        · exact covered.sent sent old
        · cases List.mem_singleton.mp new
          exact owed.mono late
      · cases steps
    | _ => simp [phase] at steps
  | handle index reply jitter =>
    obtain ⟨request, found, steps⟩ := Option.bind_eq_some_iff.mp steps
    cases phase : request.phase with
    | sent =>
      rw [phase] at steps
      cases steps
      exact covered.handled phase found keeps
    | _ => simp [phase] at steps
  | wake index =>
    obtain ⟨request, found, steps⟩ := Option.bind_eq_some_iff.mp steps
    cases phase : request.phase with
    | sleeping wakesAt =>
      simp only [phase] at steps
      split at steps
      · cases steps
        exact covered.setRequest (by intro _ _ eligible; cases eligible)
      · cases steps
    | _ => simp [phase] at steps

end RateLimitSystem

/-- No reply in flight cuts a recorded cooldown short, so every request that
checks after it waits for its end. -/
theorem cooldowns_honoured (secondsUntil : Nat → List Char → Option Int)
    (clock : Nat) (backoff : BackoffState)
    {actions : List RateLimitAction} {system : RateLimitSystem}
    (keeps : (RateLimitSystem.machine secondsUntil).StepsMeet
      (RateLimitSystem.KeepsCooldowns secondsUntil)
      (.started clock backoff) actions)
    (runs : (RateLimitSystem.machine secondsUntil).run
      (.started clock backoff) actions = some system) :
    system.HonoursCooldowns := by
  have covered : system.Covered :=
    (RateLimitSystem.machine secondsUntil).run_preserves_of_stepsMeet
      (fun _ _ _ holds keeps steps => holds.step keeps steps)
      (RateLimitSystem.started_covered clock backoff) keeps runs
  exact covered.honours

/-- A client without stored cooldowns. -/
def BackoffState.empty : BackoffState where
  scopes := fun _ => none

def callSavedTracks : RateLimitAction :=
  .call "dev-app GET /me/tracks" "GET /me/tracks"

/-- A request is rate limited for a minute; one that starts a minute later is
sent and succeeds. -/
def patientRequests : List RateLimitAction :=
  [callSavedTracks, .check 0, .send 0,
    .handle 0 (.response 429 (some "60") "") id, .tick 60000,
    callSavedTracks, .check 1, .send 1, .handle 1 (.response 200 none "") id]

theorem cooldowns_honoured_patientRequests :
    ∃ system, (RateLimitSystem.machine fun _ _ => none).run
        (.started 0 .empty) patientRequests = some system ∧
      system.sends.length = 2 ∧ system.cooldowns.length = 1 ∧
      system.HonoursCooldowns := by
  refine ⟨_, rfl, rfl, rfl, ?_⟩
  exact @cooldowns_honoured (fun _ _ => none) 0 .empty patientRequests _
    (by decide +kernel) rfl

/-- Two requests are in flight; one is rate limited for a minute, the other
succeeds, and a third one checks and is sent at once. -/
def overtakenCooldown : List RateLimitAction :=
  [callSavedTracks, callSavedTracks, .check 0, .send 0, .check 1, .send 1,
    .handle 1 (.response 429 (some "60") "") id,
    .handle 0 (.response 200 none "") id,
    callSavedTracks, .check 2, .send 2]

theorem overtakenCooldown_not_honoured :
    ¬ ∀ actions system, (RateLimitSystem.machine fun _ _ => none).run
        (.started 0 .empty) actions = some system →
      system.HonoursCooldowns := by
  intro claimed
  have honours := claimed overtakenCooldown _ rfl
  have ended := honours ⟨"dev-app GET /me/tracks", 1, 0⟩ (by decide)
    ⟨"dev-app GET /me/tracks", 0, 60000⟩ (by decide) rfl
  exact absurd ended (by decide)

end Spotuify
