import Spotuify.SeekInputs

/-!
# Changing the audio output

The chosen output is kept four times: in the config file, in the accepted copy
of it, in the player settings and in the player itself.  A change goes to the
player first and to the file next; when the file cannot be written it is rolled
back and read again, and the other three follow what it holds.
-/

namespace Spotuify

namespace AudioOutput

/-- The `player` value of a provider's table. -/
inductive PlayerEntry where
  | absent
  | table (audioOutputDevice : Option String)
  | other
  deriving DecidableEq

structure ProviderEntry where
  id : String
  player : PlayerEntry
  deriving DecidableEq

structure AppConfig where
  defaultProvider : Option String
  providers : List ProviderEntry
  deriving DecidableEq

inductive ConfigError where
  | invalidPath (path message : String)
  | invalid (message : String)
  | providerDecode (provider : String)
  deriving DecidableEq

def ConfigError.message : ConfigError → String
  | .invalidPath path message =>
    "invalid config path `" ++ path ++ "`: " ++ message
  | .invalid message => "invalid config: " ++ message
  | .providerDecode provider =>
    "provider `" ++ provider ++
      "` config is invalid; secret values were omitted from the error"

/-- The four copies of the setting. -/
structure OutputState where
  disk : Option String
  snapshot : Option AppConfig
  settings : Option String
  actor : Option String
  deriving DecidableEq

def setProviderOutput (providerId : String) (device : Option String) :
    List ProviderEntry → Except ConfigError (List ProviderEntry)
  | [] =>
    .error (.invalid
      ("default provider `" ++ providerId ++ "` is not configured"))
  | provider :: rest =>
    if provider.id = providerId then
      match provider.player with
      | .absent | .table _ =>
        .ok ({ provider with player := .table device } :: rest)
      | .other => .error (.providerDecode providerId)
    else do
      let rest ← setProviderOutput providerId device rest
      return provider :: rest

namespace AppConfig

variable (config : AppConfig)

def setDefaultPlayerAudioOutput (device : Option String) :
    Except ConfigError AppConfig :=
  match config.defaultProvider with
  | none => .error (.invalid "no default provider is configured")
  | some providerId => do
    let providers ← setProviderOutput providerId device config.providers
    return { config with providers := providers }

/-- `default_provider().player_settings().audio_output_device`. -/
def playerOutput : Option String :=
  match config.defaultProvider.bind fun providerId =>
    config.providers.find? fun provider => provider.id = providerId with
  | some ⟨_, .table device⟩ => device
  | _ => none

end AppConfig

/-- What the config document stores for a device: optional texts are trimmed,
and a blank one is removed. -/
def storedOutput : Option String → Option String
  | none => none
  | some device =>
    let trimmed := trim device.toList
    if trimmed.isEmpty then none else some (String.ofList trimmed)

/-- How the write of the config file ended.  An error tells nothing about
whether the file was replaced before. -/
inductive WriteOutcome where
  | written
  | failed (tookEffect : Bool) (error : String)
  | taskFailed (tookEffect : Bool) (error : String)

/-- How a task that rolls the file back and reads it again ended, and what the
file holds then: the rollback may not have taken effect, and others may have
written since. -/
inductive RecoveryOutcome where
  | ran (rollbackError : Option String) (disk : Option String)
      (readError : Option String)
  | taskFailed (disk : Option String) (join : String)

/-- The answers to one change.  The player's are `none` when it takes the
device. -/
structure Answers where
  parsePath : String → Option ConfigError
  actor : Option String
  persist : WriteOutcome
  recovery : RecoveryOutcome
  fallback : RecoveryOutcome
  actorAgain : Option String

/-- How a change ended; `observed` is the file's value as it was read back. -/
structure OutputChange where
  result : Except String Unit
  state : OutputState
  observed : Option (Option String)

/-- A finished recovery. -/
structure Recovery where
  rollbackError : Option String
  disk : Option String
  readError : Option String
  recoveryIssue : Option String

section Change

variable (answers : Answers) (device : Option String) (state : OutputState)

/-- Send a device to the player. -/
def applyPlayerAudioOutput (answer : Option String)
    (device : Option String) (state : OutputState) :
    Option String × OutputState :=
  match answer with
  | none => (none, { state with actor := device })
  | some error => (some ("player actor stopped: " ++ error), state)

/-- The config to accept once the change is through, and the path to store it
under, if there is a config at all. -/
def prepareConfig (snapshot : Option AppConfig) :
    Except String (Option (AppConfig × String)) :=
  match snapshot with
  | none => .ok none
  | some config =>
    match config.setDefaultPlayerAudioOutput device with
    | .error error => .error error.message
    | .ok updated =>
      match updated.defaultProvider with
      | none => .error "accepted provider config has no default provider"
      | some providerId =>
        let path := "providers." ++ providerId ++ ".player.audio_output_device"
        match answers.parsePath path with
        | some error => .error error.message
        | none => .ok (some (updated, path))

/-- Write the file; the result is the error and what the file holds. -/
def persistOutput (disk : Option String) : Option String × Option String :=
  match answers.persist with
  | .written => (none, storedOutput device)
  | .failed tookEffect error =>
    (some ("failed to persist audio output: " ++ error),
      if tookEffect then storedOutput device else disk)
  | .taskFailed tookEffect error =>
    (some ("audio output persistence task failed: " ++ error),
      if tookEffect then storedOutput device else disk)

/-- Roll back and read; a task that did not finish is tried once more.  The
error holds what the file is left with. -/
def recover : Except (Option String × String × String) Recovery :=
  match answers.recovery with
  | .ran rollbackError disk readError =>
    .ok ⟨rollbackError, disk, readError, none⟩
  | .taskFailed _ join =>
    match answers.fallback with
    | .ran rollbackError disk readError =>
      .ok
        { rollbackError := rollbackError.map fun rollback =>
            "audio output recovery task failed (" ++ join ++
              "); fallback rollback failed: " ++ rollback
          disk := disk
          readError := readError
          recoveryIssue := some
            ("initial recovery task failed (" ++ join ++
              "); fallback recovery ran") }
    | .taskFailed disk fallbackJoin => .error (disk, join, fallbackJoin)

def actorRollbackText : Option String → String
  | none => "ok"
  | some failure => failure

def rollbackNote (recovery : Recovery) (previous : Option String) : String :=
  let note :=
    match recovery.rollbackError with
    | none =>
      if recovery.disk = previous then "rollback verified"
      else
        "rollback write succeeded but disk retained another value; " ++
          "runtime reconciled to disk"
    | some failure =>
      "rollback write failed (" ++ failure ++ "); runtime reconciled to disk"
  match recovery.recoveryIssue with
  | none => note
  | some issue => note ++ "; " ++ issue

/-- Let the accepted config, the settings and the player follow the file. -/
def reconcileOutput (error : String) (recovery : Recovery) : OutputChange :=
  let observed := recovery.disk
  let read := { state with disk := observed }
  let reconciled : Except ConfigError (Option AppConfig) :=
    match state.snapshot with
    | none => .ok none
    | some config => (config.setDefaultPlayerAudioOutput observed).map some
  match reconciled with
  | .error failure => ⟨.error failure.message, read, some observed⟩
  | .ok snapshot =>
    let note := rollbackNote recovery state.settings
    let accepted := { read with snapshot := snapshot, settings := observed }
    let (refused, last) :=
      applyPlayerAudioOutput answers.actorAgain observed accepted
    match refused with
    | some actorError =>
      ⟨.error (error ++ "; disk reconciliation: " ++ note ++
        "; accepted state reconciled to disk but player reconciliation failed: "
          ++ actorError), last, some observed⟩
    | none =>
      ⟨.error (error ++ "; disk reconciliation: " ++ note), last,
        some observed⟩

/-- What follows a write that failed. -/
def recoverOutput (error : String) : OutputChange :=
  let previous := state.settings
  match recover answers with
  | .error (disk, join, fallbackJoin) =>
    let (refused, last) := applyPlayerAudioOutput answers.actorAgain previous
      { state with disk := disk }
    ⟨.error (error ++ "; audio output recovery task failed: " ++ join ++
      "; fallback recovery task failed: " ++ fallbackJoin ++
      "; actor rollback: " ++ actorRollbackText refused), last, none⟩
  | .ok recovery =>
    match recovery.readError with
    | some readError =>
      let (refused, last) := applyPlayerAudioOutput answers.actorAgain previous
        { state with disk := recovery.disk }
      ⟨.error (error ++ "; could not verify disk after rollback: " ++
        readError ++ "; actor rollback: " ++ actorRollbackText refused),
        last, none⟩
    | none => reconcileOutput answers state error recovery

def setPlayerAudioOutput : OutputChange :=
  match prepareConfig answers device state.snapshot with
  | .error error => ⟨.error error, state, none⟩
  | .ok prepared =>
    match applyPlayerAudioOutput answers.actor device state with
    | (some error, refused) => ⟨.error error, refused, none⟩
    | (none, applied) =>
      match prepared with
      | none => ⟨.ok (), { applied with settings := device }, none⟩
      | some (updated, _) =>
        match persistOutput answers device state.disk with
        | (some error, disk) =>
          recoverOutput answers { applied with disk := disk } error
        | (none, disk) =>
          ⟨.ok (),
            { applied with
              disk := disk, snapshot := some updated, settings := device },
            none⟩

end Change

theorem setProviderOutput_eq_ok {providerId : String} {device : Option String}
    {providers updated : List ProviderEntry}
    (set : setProviderOutput providerId device providers = .ok updated) :
    (updated.find? fun provider => provider.id = providerId) =
      some ⟨providerId, .table device⟩ := by
  induction providers generalizing updated with
  | nil => cases set
  | cons provider rest inductionHypothesis =>
    rw [setProviderOutput] at set
    by_cases named : provider.id = providerId
    · rw [if_pos named] at set
      cases player : provider.player with
      | other =>
        rw [player] at set
        cases set
      | _ =>
        rw [player] at set
        cases set
        simp [named]
    · rw [if_neg named] at set
      cases tail : setProviderOutput providerId device rest with
      | error error =>
        rw [tail] at set
        cases set
      | ok others =>
        rw [tail] at set
        cases set
        rw [List.find?_cons_of_neg (by simpa using named)]
        exact inductionHypothesis tail

/-- Whether the setting can be made does not depend on the device. -/
theorem setProviderOutput_any {providerId : String} {device : Option String}
    {providers updated : List ProviderEntry}
    (set : setProviderOutput providerId device providers = .ok updated)
    (other : Option String) :
    ∃ changed, setProviderOutput providerId other providers = .ok changed := by
  induction providers generalizing updated with
  | nil => cases set
  | cons provider rest inductionHypothesis =>
    rw [setProviderOutput] at set ⊢
    by_cases named : provider.id = providerId
    · rw [if_pos named] at set ⊢
      cases player : provider.player with
      | other =>
        rw [player] at set
        cases set
      | _ => exact ⟨_, rfl⟩
    · rw [if_neg named] at set ⊢
      cases tail : setProviderOutput providerId device rest with
      | error error =>
        rw [tail] at set
        cases set
      | ok others =>
        obtain ⟨changed, result⟩ := inductionHypothesis tail
        rw [result]
        exact ⟨provider :: changed, rfl⟩

namespace AppConfig

variable {config updated : AppConfig} {device : Option String}

theorem playerOutput_of_set
    (set : config.setDefaultPlayerAudioOutput device = .ok updated) :
    updated.playerOutput = device := by
  unfold setDefaultPlayerAudioOutput at set
  cases default : config.defaultProvider with
  | none =>
    rw [default] at set
    cases set
  | some providerId =>
    rw [default] at set
    cases providers :
        setProviderOutput providerId device config.providers with
    | error error =>
      simp only [providers, bind, Except.bind, reduceCtorEq] at set
    | ok providersSet =>
      simp only [providers, bind, Except.bind, pure, Except.pure,
        Except.ok.injEq] at set
      subst set
      have found := setProviderOutput_eq_ok providers
      simp only [playerOutput, Option.bind_some, found]

theorem set_any (set : config.setDefaultPlayerAudioOutput device = .ok updated)
    (other : Option String) :
    ∃ changed, config.setDefaultPlayerAudioOutput other = .ok changed := by
  unfold setDefaultPlayerAudioOutput at set ⊢
  cases default : config.defaultProvider with
  | none =>
    rw [default] at set
    cases set
  | some providerId =>
    rw [default] at set
    cases providers :
        setProviderOutput providerId device config.providers with
    | error error =>
      simp only [providers, bind, Except.bind, reduceCtorEq] at set
    | ok providersSet =>
      obtain ⟨changed, result⟩ := setProviderOutput_any providers other
      simp only [result, bind, Except.bind]
      exact ⟨_, rfl⟩

end AppConfig

/-- The copies the daemon runs on agree. -/
structure OutputState.Agrees (state : OutputState) : Prop where
  actor : state.actor = state.settings
  snapshot : ∀ config, state.snapshot = some config →
    config.playerOutput = state.settings

/-- What holds of a change that succeeded. -/
structure OutputChange.Succeeded (change : OutputChange)
    (device : Option String) : Prop where
  settings : change.state.settings = device
  actor : change.state.actor = device
  snapshot : ∀ config, change.state.snapshot = some config →
    config.playerOutput = device ∧ change.state.disk = storedOutput device

/-- What holds when the file was read back. -/
structure OutputChange.FollowsDisk (change : OutputChange)
    (observed : Option String) (actorAgain : Option String) : Prop where
  disk : change.state.disk = observed
  settings : change.state.settings = observed
  snapshot : ∃ config, change.state.snapshot = some config ∧
    config.playerOutput = observed
  actor : actorAgain = none → change.state.actor = observed

section Change

variable {answers : Answers} {device : Option String} {state : OutputState}

theorem prepareConfig_eq_ok {config : AppConfig}
    {prepared : Option (AppConfig × String)}
    (prepares : prepareConfig answers device (some config) = .ok prepared) :
    ∃ updated path, prepared = some (updated, path) ∧
      config.setDefaultPlayerAudioOutput device = .ok updated := by
  rw [prepareConfig] at prepares
  cases set : config.setDefaultPlayerAudioOutput device with
  | error error =>
    rw [set] at prepares
    cases prepares
  | ok updated =>
    rw [set] at prepares
    dsimp only at prepares
    split at prepares
    · cases prepares
    · split at prepares
      · cases prepares
      · cases prepares
        exact ⟨_, _, rfl, rfl⟩

theorem persistOutput_eq {disk stored : Option String}
    (written : persistOutput answers device disk = (none, stored)) :
    stored = storedOutput device := by
  unfold persistOutput at written
  cases outcome : answers.persist with
  | written =>
    rw [outcome] at written
    exact (congrArg Prod.snd written).symm
  | failed tookEffect error =>
    rw [outcome] at written
    exact absurd (congrArg Prod.fst written) nofun
  | taskFailed tookEffect error =>
    rw [outcome] at written
    exact absurd (congrArg Prod.fst written) nofun

/-- The accepted config can follow whatever the file holds. -/
theorem reconcileOutput_followsDisk {config updated : AppConfig}
    {error : String} {recovery : Recovery}
    (accepted : state.snapshot = some config)
    (set : config.setDefaultPlayerAudioOutput device = .ok updated) :
    let change := reconcileOutput answers state error recovery
    (∃ failure, change.result = .error failure) ∧
      change.observed = some recovery.disk ∧
      change.FollowsDisk recovery.disk answers.actorAgain := by
  obtain ⟨changed, follows⟩ := AppConfig.set_any set recovery.disk
  have output := AppConfig.playerOutput_of_set follows
  simp only [reconcileOutput, accepted, follows, Except.map]
  cases again : answers.actorAgain with
  | none =>
    exact ⟨⟨_, rfl⟩, rfl,
      { disk := rfl
        settings := rfl
        snapshot := ⟨changed, rfl, output⟩
        actor := fun _ => rfl }⟩
  | some refused =>
    exact ⟨⟨_, rfl⟩, rfl,
      { disk := rfl
        settings := rfl
        snapshot := ⟨changed, rfl, output⟩
        actor := nofun }⟩

/-- What holds when the file was not read back: only the player goes back. -/
structure OutputChange.GoesBack (change : OutputChange)
    (state : OutputState) (actorAgain : Option String) : Prop where
  settings : change.state.settings = state.settings
  snapshot : change.state.snapshot = state.snapshot
  actor : actorAgain = none → change.state.actor = state.settings

theorem OutputChange.GoesBack.agrees {change : OutputChange}
    {actorAgain : Option String} (back : change.GoesBack state actorAgain)
    (accepts : actorAgain = none) (agrees : state.Agrees) :
    change.state.Agrees := by
  refine ⟨(back.actor accepts).trans back.settings.symm, ?_⟩
  intro config present
  rw [back.snapshot] at present
  exact (agrees.snapshot config present).trans back.settings.symm

theorem applyPlayerAudioOutput_goesBack {previous : Option String}
    {disk : Option String} {result : Except String Unit}
    (same : state.settings = previous) :
    (OutputChange.mk result
      (applyPlayerAudioOutput answers.actorAgain previous
        { state with disk := disk }).2 none).GoesBack state
      answers.actorAgain := by
  unfold applyPlayerAudioOutput
  cases again : answers.actorAgain with
  | none =>
    exact
      { settings := rfl
        snapshot := rfl
        actor := fun _ => same.symm }
  | some refused =>
    exact
      { settings := rfl
        snapshot := rfl
        actor := nofun }

theorem recoverOutput_cases {config updated : AppConfig} {error : String}
    (accepted : state.snapshot = some config)
    (set : config.setDefaultPlayerAudioOutput device = .ok updated) :
    let change := recoverOutput answers state error
    (∃ failure, change.result = .error failure) ∧
      ((change.observed = none ∧ change.GoesBack state answers.actorAgain) ∨
        ∃ observed, change.observed = some observed ∧
          change.FollowsDisk observed answers.actorAgain) := by
  unfold recoverOutput
  cases recovered : recover answers with
  | error left =>
    exact ⟨⟨_, rfl⟩, .inl ⟨rfl, applyPlayerAudioOutput_goesBack rfl⟩⟩
  | ok recovery =>
    dsimp only
    cases read : recovery.readError with
    | some readError =>
      exact ⟨⟨_, rfl⟩, .inl ⟨rfl, applyPlayerAudioOutput_goesBack rfl⟩⟩
    | none =>
      obtain ⟨failed, observed, follows⟩ :=
        @reconcileOutput_followsDisk answers device state config updated error
          recovery accepted set
      exact ⟨failed, .inr ⟨recovery.disk, observed, follows⟩⟩

/-- A change succeeds, or leaves everything as it was, or sends the player
back, or has the daemon follow what the file holds. -/
theorem setPlayerAudioOutput_cases (answers : Answers)
    (device : Option String) (state : OutputState) :
    let change := setPlayerAudioOutput answers device state
    (change.result = .ok () ∧ change.Succeeded device ∧
        (state.snapshot.isSome → change.state.snapshot.isSome)) ∨
      (∃ failure, change.result = .error failure) ∧
        ((change.observed = none ∧
            (change.state = state ∨
              change.GoesBack state answers.actorAgain)) ∨
          ∃ observed, change.observed = some observed ∧
            change.FollowsDisk observed answers.actorAgain) := by
  unfold setPlayerAudioOutput
  cases prepares : prepareConfig answers device state.snapshot with
  | error error => exact .inr ⟨⟨_, rfl⟩, .inl ⟨rfl, .inl rfl⟩⟩
  | ok prepared =>
    dsimp only [applyPlayerAudioOutput]
    cases first : answers.actor with
    | some error => exact .inr ⟨⟨_, rfl⟩, .inl ⟨rfl, .inl rfl⟩⟩
    | none =>
      cases accepted : state.snapshot with
      | none =>
        rw [accepted] at prepares
        cases prepares
        refine .inl ⟨rfl, ?_, nofun⟩
        exact
          { settings := rfl
            actor := rfl
            snapshot := by simp }
      | some config =>
        rw [accepted] at prepares
        obtain ⟨updated, path, rfl, set⟩ := prepareConfig_eq_ok prepares
        dsimp only
        rcases written : persistOutput answers device state.disk with
          ⟨_ | error, disk⟩
        · refine .inl ⟨rfl, ?_, fun _ => rfl⟩
          exact
            { settings := rfl
              actor := rfl
              snapshot := by
                rintro _ ⟨⟩
                exact ⟨AppConfig.playerOutput_of_set set,
                  persistOutput_eq written⟩ }
        · refine .inr ?_
          obtain ⟨failed, back | follows⟩ :=
            @recoverOutput_cases answers device
              ⟨disk, some config, state.settings, device⟩ config updated error
              rfl set
          · refine ⟨failed, .inl ⟨back.1, .inr ?_⟩⟩
            exact
              { settings := back.2.settings
                snapshot := back.2.snapshot.trans accepted.symm
                actor := back.2.actor }
          · exact ⟨failed, .inr follows⟩

end Change

/-- Success sets every copy there is to the device, and the file to what it
stores for it.  After an error the daemon's copies are what the file was read
to hold; if it was not read, they agree as before.  Only a player that refuses
its second device is left with another. -/
theorem setPlayerAudioOutput_keepsCopies (answers : Answers)
    (device : Option String) (state : OutputState) :
    let change := setPlayerAudioOutput answers device state
    (change.result = .ok () →
      change.state.settings = device ∧ change.state.actor = device ∧
      (state.snapshot.isSome → ∃ config,
        change.state.snapshot = some config ∧ config.playerOutput = device ∧
          (storedOutput device = device → change.state.disk = device))) ∧
    (∀ error observed, change.result = .error error →
      change.observed = some observed →
      change.state.disk = observed ∧ change.state.settings = observed ∧
      (∃ config, change.state.snapshot = some config ∧
        config.playerOutput = observed) ∧
      (change.state.actor = observed ∨ answers.actorAgain ≠ none)) ∧
    ∀ error, change.result = .error error → change.observed = none →
      state.Agrees →
      change.state.Agrees ∨
        answers.actorAgain ≠ none ∧
          change.state.settings = state.settings ∧
          change.state.snapshot = state.snapshot := by
  obtain ⟨succeeded, holds, keepsConfig⟩ |
      ⟨⟨failure, failed⟩, ⟨unread, kept⟩ | ⟨value, read, follows⟩⟩ :=
    setPlayerAudioOutput_cases answers device state
  · refine ⟨fun _ => ⟨holds.settings, holds.actor, fun present => ?_⟩, ?_, ?_⟩
    · obtain ⟨config, accepted⟩ :=
        Option.isSome_iff_exists.mp (keepsConfig present)
      obtain ⟨output, stored⟩ := holds.snapshot config accepted
      exact ⟨config, accepted, output, fun asIs => stored.trans asIs⟩
    · intro error _ failed
      rw [succeeded] at failed
      cases failed
    · intro error failed
      rw [succeeded] at failed
      cases failed
  · refine ⟨?_, ?_, fun _ _ _ agrees => ?_⟩
    · intro succeeded
      rw [failed] at succeeded
      cases succeeded
    · intro _ observed _ read
      rw [unread] at read
      cases read
    · rcases kept with same | back
      · left
        rw [same]
        exact agrees
      · by_cases accepts : answers.actorAgain = none
        · exact .inl (back.agrees accepts agrees)
        · exact .inr ⟨accepts, back.settings, back.snapshot⟩
  · refine ⟨?_, ?_, ?_⟩
    · intro succeeded
      rw [failed] at succeeded
      cases succeeded
    · intro _ observed _ other
      rw [read] at other
      cases other
      refine ⟨follows.disk, follows.settings, follows.snapshot, ?_⟩
      by_cases accepts : answers.actorAgain = none
      · exact .inl (follows.actor accepts)
      · exact .inr accepts
    · intro _ _ unread
      rw [read] at unread
      cases unread

/-- A player that refuses to go back keeps the device that was not stored. -/
theorem refused_goingBack_disagrees :
    ¬ ∀ (answers : Answers) (device : Option String) (state : OutputState)
        (error : String),
      (setPlayerAudioOutput answers device state).result = .error error →
      (setPlayerAudioOutput answers device state).observed = none →
      state.Agrees →
      (setPlayerAudioOutput answers device state).state.Agrees := by
  intro always
  let config : AppConfig :=
    ⟨some "primary", [⟨"primary", .table (some "Output A")⟩]⟩
  have agrees := always
    { parsePath := fun _ => none
      actor := none
      persist := .failed true "disk full"
      recovery := .ran none (some "Output B") (some "permission denied")
      fallback := .taskFailed none "cancelled"
      actorAgain := some "channel closed" }
    (some "Output B")
    ⟨some "Output A", some config, some "Output A", some "Output A"⟩
    _ rfl rfl
    { actor := rfl
      snapshot := by
        rintro _ ⟨⟩
        decide +kernel }
  have actor := agrees.actor
  revert actor
  decide +kernel

/-- The state after a run of changes. -/
def runChanges (state : OutputState) :
    List (Answers × Option String) → OutputState
  | [] => state
  | (answers, device) :: rest =>
    runChanges (setPlayerAudioOutput answers device state).state rest

/-- While the player takes the second device of every change that failed, the
daemon's copies agree after any run of changes. -/
theorem runChanges_agrees {state : OutputState}
    {changes : List (Answers × Option String)}
    (accepts : ∀ change ∈ changes, change.1.actorAgain = none)
    (agrees : state.Agrees) : (runChanges state changes).Agrees := by
  induction changes generalizing state with
  | nil => exact agrees
  | cons change rest inductionHypothesis =>
    obtain ⟨answers, device⟩ := change
    obtain ⟨again, others⟩ := List.forall_mem_cons.mp accepts
    refine inductionHypothesis others ?_
    obtain ⟨-, holds, -⟩ |
        ⟨-, ⟨-, kept⟩ | ⟨value, -, follows⟩⟩ :=
      setPlayerAudioOutput_cases answers device state
    · exact ⟨holds.actor.trans holds.settings.symm, fun config present =>
        (holds.snapshot config present).1.trans holds.settings.symm⟩
    · rcases kept with same | back
      · rw [same]
        exact agrees
      · exact back.agrees again agrees
    · obtain ⟨config, accepted, output⟩ := follows.snapshot
      refine ⟨(follows.actor again).trans follows.settings.symm, ?_⟩
      intro other present
      rw [accepted] at present
      cases present
      exact output.trans follows.settings.symm

end AudioOutput

end Spotuify
