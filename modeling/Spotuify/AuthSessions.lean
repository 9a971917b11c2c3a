import Spotuify.GuardedMachine
import Spotuify.ProviderMutation
import Spotuify.SqlTable
import Mathlib.Algebra.Ring.Int.Defs

/-!
# Sign-in sessions

The daemon keeps one entry per interactive sign-in, and a worker carries the
sign-in out.  A sign-in's fate is decided by a compare-exchange on its
lifecycle, and its reported state is written afterwards; the two are separate
steps here, although some callers hold the lock on the entries over both.
Committing, logging out and reloading the configuration exclude each other by
a guard that each of them holds for several steps.  The cancel signal, to
which a worker may answer with a failure at any time, is left out.
-/

namespace Spotuify

structure AuthSessionId where
  value : Nat
  deriving DecidableEq, Repr

inductive AuthSessionState where
  | starting
  | awaitingUser (authorizationUrl redirectUri : String)
      (browserError : Option String)
  | waiting (authorizationUrl redirectUri : String)
      (browserError : Option String)
  | authorized
  | failed (message : String)
  | cancelled
  deriving DecidableEq, Repr

def AuthSessionState.isTerminal : AuthSessionState → Bool
  | .authorized | .failed _ | .cancelled => true
  | _ => false

structure AuthSessionData where
  sessionId : AuthSessionId
  provider : ProviderId
  method : String
  state : AuthSessionState
  createdAtMs : Int
  expiresAtMs : Int
  deriving DecidableEq

inductive AuthLifecycle where
  | active
  | committing
  | terminal
  deriving DecidableEq, Repr

inductive AuthStrategy where
  | none
  | spotifyOauth
  deriving DecidableEq, Repr

inductive AuthMethod where
  | devApp
  | firstParty
  deriving DecidableEq, Repr

def AuthMethod.label : AuthMethod → String
  | .devApp => "dev_app"
  | .firstParty => "first_party"

inductive LoginProgress where
  | openingBrowser (authUrl redirectUri : String)
  | browserLaunchFailed (authUrl redirectUri error : String)
  | waitingForCallback
  | saved

inductive AuthError where
  | provider (error : ProviderError)
  | unsupported (operation : String)
  deriving DecidableEq

namespace AuthError

def invalidInput (field message : String) : AuthError :=
  .provider (.invalidInput field message)

def sessionNotFound (sessionId : AuthSessionId) : AuthError :=
  .provider (.notFound ("auth-session:" ++ toString sessionId.value))

end AuthError

/-- `first_party_method`, of a build with or without embedded playback. -/
def firstPartyMethod (embeddedPlayback : Bool) : Except AuthError AuthMethod :=
  if embeddedPlayback then .ok .firstParty
  else .error (.unsupported
    "first_party authentication requires embedded playback")

def resolveMethod (requested : Option String) (preferred : AuthMethod)
    (embeddedPlayback : Bool) : Except AuthError AuthMethod :=
  match requested with
  | some method =>
    if method = "dev_app" ∨ method = "dev-app" then .ok .devApp
    else if method = "first_party" ∨ method = "first-party" then
      firstPartyMethod embeddedPlayback
    else
      .error (.invalidInput "method"
        ("unsupported Spotify auth method `" ++ method ++ "`"))
  | none =>
    match preferred with
    | .devApp => .ok .devApp
    | .firstParty => firstPartyMethod embeddedPlayback

def validateNoAuthMethod (provider : ProviderId) (requested : Option String) :
    Except AuthError Unit :=
  match requested with
  | none => .ok ()
  | some method =>
    if method = "none" then .ok ()
    else
      .error (.invalidInput "method"
        ("provider `" ++ provider.value ++
          "` does not use auth method `" ++ method ++ "`"))

/-- A request to start, with what the daemon reads to answer it. -/
structure AuthStart where
  provider : ProviderId
  strategy : AuthStrategy
  method : Option String
  preferred : AuthMethod
  embeddedPlayback : Bool
  config : Except AuthError Unit

/-- The method of a new session; one that needs no sign-in is authorized at
once. -/
def AuthStart.method? (request : AuthStart) :
    Except AuthError (Option AuthMethod) :=
  match request.strategy with
  | .none => do
    validateNoAuthMethod request.provider request.method
    return none
  | .spotifyOauth => do
    let method ← resolveMethod request.method request.preferred
      request.embeddedPlayback
    request.config
    return some method

/-- What the worker of a session is doing. -/
inductive AuthWorker where
  | absent
  /-- It signs in; a state it is about to publish waits for the lock on the
  session's data. -/
  | authorizing (publishing : Option AuthSessionState)
  /-- It has claimed the commit, and has saved the credentials or failed to. -/
  | committing (saved : Option Bool)
  | finishing
  | done
  deriving DecidableEq

/-- A session, with the terminal state that is decided but not written. -/
structure AuthSession where
  data : AuthSessionData
  lifecycle : AuthLifecycle
  decided : Option AuthSessionState
  worker : AuthWorker
  deriving DecidableEq

namespace AuthSession

def sessionId (session : AuthSession) : AuthSessionId := session.data.sessionId

/-- The compare-exchange of `transition_active_to_terminal`. -/
def transitionActiveToTerminal (state : AuthSessionState)
    (session : AuthSession) : AuthSession :=
  if session.lifecycle = .active then
    { session with lifecycle := .terminal, decided := some state }
  else session

/-- The compare-exchange of `finish_commit`. -/
def finishCommit (state : AuthSessionState) (session : AuthSession) :
    AuthSession :=
  if session.lifecycle = .committing then
    { session with lifecycle := .terminal, decided := some state }
  else session

/-- `write_terminal_state`, of the state that was decided. -/
def writeTerminalState (expiresAtMs : Int) (session : AuthSession) :
    AuthSession :=
  match session.decided with
  | some state =>
    { session with
      data := { session.data with expiresAtMs := expiresAtMs, state := state }
      decided := none }
  | none => session

/-- `claim_commit`; a worker that comes too late returns. -/
def claimCommit (session : AuthSession) : AuthSession :=
  if session.lifecycle = .active then
    { session with lifecycle := .committing, worker := .committing none }
  else { session with worker := .done }

/-- The state a progress event asks for. -/
def progressState (event : LoginProgress) (current : AuthSessionState) :
    Option AuthSessionState :=
  match event with
  | .openingBrowser authUrl redirectUri =>
    some (.awaitingUser authUrl redirectUri none)
  | .browserLaunchFailed authUrl redirectUri error =>
    some (.awaitingUser authUrl redirectUri (some error))
  | .waitingForCallback =>
    match current with
    | .awaitingUser authorizationUrl redirectUri browserError =>
      some (.waiting authorizationUrl redirectUri browserError)
    | _ => none
  | .saved => none

/-- `apply_progress`, up to its first look at the lifecycle. -/
def applyProgress (event : LoginProgress) (session : AuthSession) :
    AuthSession :=
  if session.lifecycle = .active then
    { session with
      worker := .authorizing (progressState event session.data.state) }
  else session

/-- The write of `set_active_state`, under the lock on the data. -/
def setActiveState (state : AuthSessionState) (session : AuthSession) :
    AuthSession :=
  if session.lifecycle = .active then
    { session with data := { session.data with state := state } }
  else session

def withWorker (worker : AuthWorker) (session : AuthSession) : AuthSession :=
  { session with worker := worker }

section
variable (session : AuthSession) (state : AuthSessionState)

@[simp]
theorem sessionId_transitionActiveToTerminal :
    (session.transitionActiveToTerminal state).sessionId =
      session.sessionId := by
  unfold transitionActiveToTerminal
  split
  · rfl
  · rfl

@[simp]
theorem sessionId_finishCommit :
    (session.finishCommit state).sessionId = session.sessionId := by
  unfold finishCommit
  split
  · rfl
  · rfl

@[simp]
theorem sessionId_writeTerminalState (expiresAtMs : Int) :
    (session.writeTerminalState expiresAtMs).sessionId =
      session.sessionId := by
  unfold writeTerminalState
  split
  · rfl
  · rfl

@[simp]
theorem sessionId_claimCommit :
    session.claimCommit.sessionId = session.sessionId := by
  unfold claimCommit
  split
  · rfl
  · rfl

@[simp]
theorem sessionId_applyProgress (event : LoginProgress) :
    (session.applyProgress event).sessionId = session.sessionId := by
  unfold applyProgress
  split
  · rfl
  · rfl

@[simp]
theorem sessionId_setActiveState :
    (session.setActiveState state).sessionId = session.sessionId := by
  unfold setActiveState
  split
  · rfl
  · rfl

@[simp]
theorem sessionId_withWorker (worker : AuthWorker) :
    (session.withWorker worker).sessionId = session.sessionId := rfl

end

end AuthSession

def authSessionTtlMs : Int := 300000

abbrev AuthSessionTable := SqlTable AuthSession.sessionId

/-- The holder of the guard on operations that mint, commit or revoke
credentials. -/
inductive AuthGuard where
  | worker (sessionId : AuthSessionId)
  | logout (provider : ProviderId)
  | configReload
  | operation
  deriving DecidableEq

/-- An attempt to save the credentials of a session. -/
structure CredentialSave where
  sessionId : AuthSessionId
  provider : ProviderId
  method : String
  deriving DecidableEq

/-- The sessions, also those that were pruned from the entries, the saves and
the snapshots that were returned. -/
structure AuthSessions where
  clock : Int
  minted : Nat
  sessions : AuthSessionTable
  entries : List AuthSessionId
  guard : Option AuthGuard
  saves : List CredentialSave
  reports : List AuthSessionData

inductive AuthAction where
  | elapse (ms : Nat)
  | start (request : AuthStart)
  | progress (id : AuthSessionId) (event : LoginProgress)
  | publish (id : AuthSessionId)
  | fail (id : AuthSessionId) (message : String)
  | claim (id : AuthSessionId)
  | save (id : AuthSessionId) (succeeds : Bool)
  | finish (id : AuthSessionId) (outcome : Except String Unit)
  | write (id : AuthSessionId)
  | release (id : AuthSessionId)
  | poll (id : AuthSessionId)
  | cancel (id : AuthSessionId)
  | report (id : AuthSessionId)
  | beginLogout (provider : ProviderId)
  | beginReload
  | beginOperation
  | endGuarded

namespace AuthSessions

def started (clock : Int) : AuthSessions where
  clock := clock
  minted := 0
  sessions := .empty
  entries := []
  guard := none
  saves := []
  reports := []

variable (system : AuthSessions)

/-- `i64::saturating_add` of the time to live. -/
def expiryMs : Int := min (2 ^ 63 - 1) (system.clock + authSessionTtlMs)

/-- Change one session. -/
def update (id : AuthSessionId) (change : AuthSession → AuthSession)
    (keepsId : ∀ session, (change session).sessionId = session.sessionId) :
    AuthSessions :=
  { system with
    sessions := system.sessions.updateKey id (fun _ => true) change keepsId }

/-- `transition_active_to_terminal` on one entry. -/
def transition (system : AuthSessions) (id : AuthSessionId)
    (state : AuthSessionState) : AuthSessions :=
  system.update id (fun session => session.transitionActiveToTerminal state)
    fun session => session.sessionId_transitionActiveToTerminal state

/-- `prune_expired_terminals`. -/
def prune : AuthSessions :=
  { system with
    entries := system.entries.filter fun id =>
      !(system.sessions.get? id).any fun session =>
        session.data.state.isTerminal &&
          decide (system.clock > session.data.expiresAtMs) }

/-- `active_session`. -/
def activeSession? (provider : ProviderId) : Option AuthSession :=
  system.entries.findSome? fun id =>
    (system.sessions.get? id).filter fun session =>
      decide (session.data.provider = provider) &&
        decide (session.lifecycle ≠ .terminal)

/-- `ensure_no_active_session`. -/
def ensureNoActiveSession (provider : ProviderId) : Except AuthError Unit :=
  match system.activeSession? provider with
  | none => .ok ()
  | some existing =>
    .error (.invalidInput "auth_session"
      ("authentication already in progress for provider `" ++
        provider.value ++ "` method `" ++ existing.data.method ++
        "` (session " ++ toString existing.data.sessionId.value ++ ")"))

/-- A new session; it has a worker unless it needs no sign-in. -/
def newSession (provider : ProviderId) (method : Option AuthMethod) :
    AuthSession where
  data :=
    { sessionId := ⟨system.minted⟩
      provider := provider
      method := (method.map AuthMethod.label).getD "none"
      state := if method.isSome then .starting else .authorized
      createdAtMs := system.clock
      expiresAtMs := system.expiryMs }
  lifecycle := if method.isSome then .active else .terminal
  decided := none
  worker := if method.isSome then .authorizing none else .absent

/-- Insert a new session among the entries. -/
def enroll (session : AuthSession) : Option AuthSessions :=
  (system.sessions.insert? session).map fun sessions =>
    { system with
      sessions := sessions
      minted := system.minted + 1
      entries := system.entries ++ [session.sessionId] }

/-- `start`, under the guard it holds throughout.  What it refuses leaves at
most pruned entries. -/
def start (request : AuthStart) : Option AuthSessions :=
  match request.method? with
  | .error _ => some system
  | .ok method =>
    let pruned := system.prune
    match method with
    | none => pruned.enroll (system.newSession request.provider none)
    | some method =>
      match pruned.ensureNoActiveSession request.provider with
      | .error _ => some pruned
      | .ok () =>
        pruned.enroll (system.newSession request.provider (some method))

/-- The entry a poll or a cancel asks for. -/
def ensureEntry (id : AuthSessionId) : Except AuthError Unit :=
  if id ∈ system.entries then .ok () else .error (.sessionNotFound id)

/-- The end of a commit, as its save and the reload after it went. -/
def commitOutcome (saved : Bool) (outcome : Except String Unit) :
    Option AuthSessionState :=
  match saved, outcome with
  | true, .ok () => some .authorized
  | _, .error message => some (.failed message)
  | false, .ok () => none

/-- Cancel the entries a condition selects, one after the other. -/
def cancelEntries (system : AuthSessions) (selects : AuthSession → Bool) :
    AuthSessions :=
  system.entries.foldl
    (fun current id =>
      if (current.sessions.get? id).any selects then
        current.transition id .cancelled
      else current)
    system

/-- `expire_if_needed`. -/
def expireIfNeeded (system : AuthSessions) (id : AuthSessionId) :
    AuthSessions :=
  if (system.sessions.get? id).any fun session =>
      decide (system.clock > session.data.expiresAtMs) &&
        !session.data.state.isTerminal then
    system.transition id (.failed "authentication session expired")
  else system

def withGuard (guard : Option AuthGuard) : AuthSessions :=
  { system with guard := guard }

def saved (session : AuthSession) : AuthSessions :=
  { system with
    saves := system.saves ++
      [{ sessionId := session.sessionId, provider := session.data.provider,
         method := session.data.method }] }

def step (system : AuthSessions) : AuthAction → Option AuthSessions
  | .elapse ms => some { system with clock := system.clock + ms }
  | .start request =>
    if system.guard = none then system.start request else none
  | .progress id event =>
    match system.sessions.get? id with
    | some { worker := .authorizing none, .. } =>
      some (system.update id (AuthSession.applyProgress event)
        fun session => session.sessionId_applyProgress event)
    | _ => none
  | .publish id =>
    match system.sessions.get? id with
    | some { worker := .authorizing (some state), .. } =>
      some (system.update id
        (fun session =>
          (session.setActiveState state).withWorker (.authorizing none))
        fun session => session.sessionId_setActiveState state)
    | _ => none
  | .fail id message =>
    match system.sessions.get? id with
    | some { worker := .authorizing none, .. } =>
      some (system.update id
        (fun session =>
          (session.transitionActiveToTerminal (.failed message)).withWorker
            .done)
        fun session => session.sessionId_transitionActiveToTerminal _)
    | _ => none
  | .claim id =>
    match system.sessions.get? id with
    | some { worker := .authorizing none, lifecycle, .. } =>
      if system.guard = none then
        some ((system.update id AuthSession.claimCommit
          AuthSession.sessionId_claimCommit).withGuard
            (if lifecycle = .active then some (.worker id) else none))
      else none
    | _ => none
  | .save id succeeds =>
    match system.sessions.get? id with
    | some session =>
      if session.worker = .committing none then
        some ((system.saved session).update id
          (AuthSession.withWorker (.committing (some succeeds)))
          fun session => session.sessionId_withWorker _)
      else none
    | none => none
  | .finish id outcome =>
    match system.sessions.get? id with
    | some { worker := .committing (some succeeded), .. } =>
      (commitOutcome succeeded outcome).map fun state =>
        system.update id
          (fun session => (session.finishCommit state).withWorker .finishing)
          fun session => session.sessionId_finishCommit state
    | _ => none
  | .write id =>
    some (system.update id (AuthSession.writeTerminalState system.expiryMs)
      fun session => session.sessionId_writeTerminalState _)
  | .release id =>
    match system.sessions.get? id with
    | some { worker := .finishing, decided := none, .. } =>
      some ((system.update id (AuthSession.withWorker .done)
        fun session => session.sessionId_withWorker _).withGuard none)
    | _ => none
  | .poll id =>
    match system.prune.ensureEntry id with
    | .error _ => some system.prune
    | .ok () => some (system.prune.expireIfNeeded id)
  | .cancel id =>
    match system.prune.ensureEntry id with
    | .error _ => some system.prune
    | .ok () => some (system.prune.transition id .cancelled)
  | .report id =>
    (system.sessions.get? id).map fun session =>
      { system with reports := system.reports ++ [session.data] }
  | .beginLogout provider =>
    if system.guard = none then
      some ((system.prune.cancelEntries fun session =>
        decide (session.data.provider = provider)).withGuard
          (some (.logout provider)))
    else none
  | .beginReload =>
    if system.guard = none then
      some ((system.prune.cancelEntries fun _ => true).withGuard
        (some .configReload))
    else none
  | .beginOperation =>
    if system.guard = none then some (system.withGuard (some .operation))
    else none
  | .endGuarded =>
    match system.guard with
    | some (.worker _) => none
    | some _ => some (system.withGuard none)
    | none => none

def machine : GuardedMachine AuthSessions AuthAction where
  step := step

end AuthSessions

end Spotuify
