import Spotuify.ReconnectRuns

/-!
# What automatic reconnects may do to playback

Every guard is dated: the mutation sequence has moved at least once for each
intent counted since its capture.  A resume passes the guard, so it saw every
intent there was.  That only one reconnect is ever on its way holds as long as
no task gives up on a command the actor still holds.
-/

namespace Spotuify

/-- The sequence moved since a capture at least as often as intents came. -/
structure AutomaticReconnectGuard.Dated (guard : AutomaticReconnectGuard)
    (intent : PlaybackIntent) : Prop where
  counted : intent.intents + guard.capturedSeq ≤
    guard.intentsAtCapture + intent.mutationSeq
  intents_le : guard.intentsAtCapture ≤ intent.intents

namespace AutomaticReconnectGuard

theorem captureGuard_dated (intent : PlaybackIntent) :
    intent.captureGuard.Dated intent :=
  ⟨le_rfl, le_rfl⟩

theorem Dated.advances {guard : AutomaticReconnectGuard}
    {before after : PlaybackIntent} (dated : guard.Dated before)
    (advances : before.Advances after) : guard.Dated after := by
  obtain ⟨counted, intentsLe⟩ := dated
  obtain ⟨-, countedOn, intentsLeOn⟩ := advances
  constructor <;> omega

/-- A guard whose sequence is current saw every intent. -/
theorem Dated.saw_all {guard : AutomaticReconnectGuard}
    {intent : PlaybackIntent} (dated : guard.Dated intent)
    (current : intent.mutationSeq = guard.capturedSeq) :
    guard.intentsAtCapture = intent.intents := by
  obtain ⟨counted, intentsLe⟩ := dated
  omega

end AutomaticReconnectGuard

namespace RecoveryState

/-- Every resume had seen each hand-off and user mutation before it. -/
def ResumesHonourIntent (state : RecoveryState) : Prop :=
  ∀ resume ∈ state.resumes,
    resume.intentsAtCapture = resume.intentsAtResume

/-- No recovery tore down a session established since its own drop. -/
def TeardownsConcernOwnDrop (state : RecoveryState) : Prop :=
  ∀ teardown ∈ state.teardowns,
    teardown.sessionsAtDrop = teardown.sessionsAtShutdown

/-- What one step may do to the guards and the resumes. -/
structure Keeps (before after : RecoveryState) : Prop where
  advances : before.intent.Advances after.intent
  held : ∀ recovery ∈ after.recoveries, recovery ∈ before.recoveries ∨
    recovery.guard = after.intent.captureGuard
  resumed : after.resumes = before.resumes ∨
    ∃ recovery ∈ before.recoveries,
      before.intent.mutationSeq = recovery.guard.capturedSeq ∧
        after.resumes = before.resumes ++
          [⟨recovery.guard.intentsAtCapture, before.intent.intents⟩]

/-- A step that only hands recoveries on or drops them. -/
theorem Keeps.of_recoveries {before after : RecoveryState}
    (sameIntent : after.intent = before.intent)
    (sameResumes : after.resumes = before.resumes)
    (held : after.recoveries ⊆ before.recoveries) : before.Keeps after where
  advances := .of_same (by rw [sameIntent]) (by rw [sameIntent])
  held := fun _ member => .inl (held member)
  resumed := .inl sameResumes

theorem setPhase_recoveries (state : RecoveryState) (id : Nat)
    (phase : TaskPhase) :
    (state.setPhase id phase).recoveries = state.recoveries := by
  have same : (fun task : ReconnectTask => (if task.recovery.id = id then
      { task with phase := phase } else task).recovery) =
      ReconnectTask.recovery := by
    funext task
    split <;> rfl
  simp [recoveries, setPhase, pending, Function.comp_def, same]

theorem endTask_recoveries_subset (state : RecoveryState) (id : Nat) :
    (state.endTask id).recoveries ⊆ state.recoveries := by
  have fewer : (state.endTask id).tasks ⊆ state.tasks :=
    fun _ member => List.mem_of_mem_filter member
  exact List.append_subset.mpr
    ⟨List.subset_append_of_subset_left _ (List.map_subset _ fewer),
      List.subset_append_right _ _⟩

theorem answer_recoveries_subset (state : RecoveryState)
    (recovery : Recovery) :
    (state.answer recovery).recoveries ⊆ state.recoveries := by
  have same : (fun task : ReconnectTask =>
      (if task.recovery.id = recovery.id ∧ task.phase = .waiting then
        { task with phase := .answered } else task).recovery) =
      ReconnectTask.recovery := by
    funext task
    split <;> rfl
  intro other member
  simp only [recoveries, pending, answer, ActorWork.recovery?, List.map_map,
    Function.comp_def, same, Option.toList_none, List.nil_append,
    List.mem_append] at member ⊢
  tauto

theorem schedulePlayerReconnect_keeps (state : RecoveryState)
    (request : RecoveryRequest) (sessionsAtDrop : Nat) :
    state.Keeps (state.schedulePlayerReconnect request sessionsAtDrop) := by
  unfold schedulePlayerReconnect
  split
  · exact .of_recoveries rfl rfl (List.Subset.refl _)
  · refine ⟨.refl _, ?_, .inl rfl⟩
    intro recovery member
    simp only [recoveries, pending, List.map_append, List.map_cons,
      List.map_nil, List.mem_append, List.mem_singleton] at member ⊢
    rcases member with (queued | rfl) | held
    · exact .inl (.inl queued)
    · exact .inr rfl
    · exact .inl (.inr held)

theorem report_keeps (state : RecoveryState)
    (outcome : PlaybackIntent × Option RecoveryRequest) (sessionsAtDrop : Nat)
    (advances : state.intent.Advances outcome.1) :
    state.Keeps (state.report outcome sessionsAtDrop) := by
  obtain ⟨intent, request⟩ := outcome
  cases request with
  | none => exact ⟨advances, fun _ member => .inl member, .inl rfl⟩
  | some request =>
    obtain ⟨scheduled, held, resumed⟩ := schedulePlayerReconnect_keeps
      { state with intent := intent } request sessionsAtDrop
    refine ⟨advances.trans scheduled, held, .inl ?_⟩
    simp only [report, schedulePlayerReconnect]
    split <;> rfl

section

variable (deriveDeviceIdForName : String → String)
  (stretch : PlaybackSpeed → Nat → Nat) (defaultDeviceName : String)

theorem wake_keeps {state next : RecoveryState} {id now : Nat}
    (woken : state.wake deriveDeviceIdForName stretch id now = some next) :
    state.Keeps next := by
  obtain ⟨task, -, rfl⟩ := Option.map_eq_some_iff.mp woken
  split
  · exact .of_recoveries rfl rfl
      (by simp [setPhase_recoveries])
  · exact .of_recoveries rfl rfl (state.endTask_recoveries_subset id)

theorem send_keeps {state next : RecoveryState} {id : Nat}
    (sent : state.send id = some next) : state.Keeps next := by
  obtain ⟨task, found, rest⟩ := Option.bind_eq_some_iff.mp sent
  split at rest
  · cases rest
    refine .of_recoveries rfl rfl fun recovery member => ?_
    have own : task.recovery ∈ state.recoveries :=
      List.mem_append_left _
        (List.mem_map_of_mem (List.mem_of_find?_eq_some found))
    have held : recovery ∈ (state.setPhase id .waiting).recoveries ∨
        recovery = task.recovery := by
      simp only [recoveries, pending, setPhase, List.filterMap_append,
        List.mem_append] at member ⊢
      simpa [PlayerCommand.recovery?, or_assoc] using member
    rcases held with held | rfl
    · rwa [setPhase_recoveries] at held
    · exact own
  · cases rest

theorem takeCommand_keeps {state next : RecoveryState} {installed : Bool}
    {now : Nat}
    (took : state.takeCommand deriveDeviceIdForName stretch installed now =
      some next) : state.Keeps next := by
  unfold takeCommand at took
  split at took
  · rename_i idle queued
    cases took
    refine .of_recoveries rfl rfl fun recovery member => ?_
    simpa [recoveries, pending, idle, queued, ActorWork.recovery?,
      PlayerCommand.recovery?] using member
  · rename_i recovery rest idle queued
    have shed : ({ state with queue := rest } : RecoveryState).recoveries ⊆
        state.recoveries := by
      intro other member
      simp only [recoveries, pending, queued, List.filterMap_cons,
        PlayerCommand.recovery?, List.mem_append, List.mem_cons] at member ⊢
      tauto
    split at took
    · cases took
      refine .of_recoveries rfl rfl fun other member => ?_
      simpa [recoveries, pending, idle, queued, ActorWork.recovery?,
        PlayerCommand.recovery?] using member
    · cases took
      exact .of_recoveries rfl rfl fun _ member =>
        shed (answer_recoveries_subset _ recovery member)
  · cases took

theorem resumeAfterReconnect_keeps {state : RecoveryState}
    {recovery : Recovery} (working : state.work = .registering recovery)
    (now : Nat) :
    state.Keeps (state.resumeAfterReconnect deriveDeviceIdForName stretch
      recovery now) := by
  have answered : state.Keeps
      ({ state with sessions := state.sessions + 1 }.answer recovery) :=
    .of_recoveries rfl rfl (answer_recoveries_subset
      { state with sessions := state.sessions + 1 } recovery)
  have own : recovery ∈ state.recoveries := by
    simp [recoveries, pending, working, ActorWork.recovery?]
  unfold resumeAfterReconnect
  dsimp only
  split
  · rename_i wanted
    split
    · exact answered
    · split
      · exact answered
      · refine ⟨.refl _, fun other member => .inl ?_, .inr ⟨recovery, own,
          PlaybackIntent.stillWanted_seq _ _ wanted, rfl⟩⟩
        simpa [recoveries, pending, working, ActorWork.recovery?]
          using member
  · exact answered

theorem actorStep_keeps {state next : RecoveryState} {succeeded : Bool}
    {now : Nat}
    (stepped : state.actorStep deriveDeviceIdForName stretch succeeded now =
      some next) : state.Keeps next := by
  have answered : ∀ recovery, state.Keeps (state.answer recovery) :=
    fun recovery => .of_recoveries rfl rfl
      (state.answer_recoveries_subset recovery)
  unfold actorStep at stepped
  split at stepped
  · cases stepped
  · rename_i working
    cases stepped
    refine .of_recoveries rfl rfl fun other member => ?_
    simpa [recoveries, pending, working, ActorWork.recovery?] using member
  · rename_i recovery working
    split at stepped
    · cases stepped
      refine .of_recoveries rfl rfl fun other member => ?_
      simpa [recoveries, pending, working, ActorWork.recovery?] using member
    · cases stepped
      exact answered recovery
  · rename_i recovery working
    split at stepped
    · cases stepped
      exact resumeAfterReconnect_keeps _ _ working now
    · cases stepped
      exact answered recovery
  · rename_i recovery working
    cases stepped
    exact answered recovery

/-- One step, whoever takes it. -/
theorem step_keeps {state next : RecoveryState} {action : RecoveryAction}
    (stepped : (recoveryMachine deriveDeviceIdForName stretch
      defaultDeviceName).step state action = some next) :
    state.Keeps next := by
  cases action with
  | playerEvent event sessionsAtDrop nowMs now =>
    cases stepped
    exact report_keeps _ _ _
      (PlaybackIntent.forwardPlayerEvent_advances _ _ _ _ event nowMs now)
  | healthProbe connected sessionsAtDrop now =>
    cases stepped
    exact report_keeps _ _ _
      (PlaybackIntent.probePlayerHealth_advances _ _ _ _ connected _ now)
  | audioStall sessionsAtDrop nowMs now =>
    cases stepped
    exact report_keeps _ _ _
      (PlaybackIntent.handleAudioStall_advances _ _ _ _ _ nowMs now)
  | userMutation =>
    cases stepped
    exact ⟨PlaybackIntent.userMutation_advances _,
      fun _ member => .inl member, .inl rfl⟩
  | surround surroundings =>
    cases stepped
    exact ⟨.of_same rfl rfl, fun _ member => .inl member, .inl rfl⟩
  | wake id now => exact wake_keeps _ _ stepped
  | send id => exact send_keeps stepped
  | timeOut id | finish id =>
    obtain ⟨task, -, rfl⟩ := Option.map_eq_some_iff.mp stepped
    exact .of_recoveries rfl rfl (endTask_recoveries_subset _ id)
  | enqueueOther =>
    simp only [recoveryMachine, recoveryStep] at stepped
    split at stepped
    · cases stepped
      refine .of_recoveries rfl rfl fun other member => ?_
      simpa [recoveries, pending, PlayerCommand.recovery?] using member
    · cases stepped
  | serveOther =>
    simp only [recoveryMachine, recoveryStep] at stepped
    split at stepped
    · rename_i idle
      cases stepped
      refine .of_recoveries rfl rfl fun other member => ?_
      simpa [recoveries, pending, idle, ActorWork.recovery?] using member
    · cases stepped
  | takeCommand installed now => exact takeCommand_keeps _ _ stepped
  | actorStep succeeded now => exact actorStep_keeps _ _ stepped

end

/-- Guards are dated and resumes honoured the intent they could know of. -/
structure HonoursIntent (state : RecoveryState) : Prop where
  dated : ∀ recovery ∈ state.recoveries, recovery.guard.Dated state.intent
  resumes : state.ResumesHonourIntent

theorem Keeps.honours {before after : RecoveryState}
    (keeps : before.Keeps after) (honours : before.HonoursIntent) :
    after.HonoursIntent where
  dated := by
    intro recovery member
    rcases keeps.held recovery member with held | captured
    · exact (honours.dated recovery held).advances keeps.advances
    · rw [captured]
      exact AutomaticReconnectGuard.captureGuard_dated after.intent
  resumes := by
    intro resume member
    rcases keeps.resumed with same | ⟨recovery, held, current, appended⟩
    · exact honours.resumes resume (same ▸ member)
    · rw [appended] at member
      rcases List.mem_append.mp member with earlier | added
      · exact honours.resumes resume earlier
      · rw [List.mem_singleton.mp added]
        exact (honours.dated recovery held).saw_all current

/-- A report that gets a recovery scheduled is about the current session. -/
def ReportsCurrent (state : RecoveryState)
    (outcome : PlaybackIntent × Option RecoveryRequest)
    (sessionsAtDrop : Nat) : Prop :=
  outcome.2.isSome → state.reconnectInFlight = false →
    sessionsAtDrop = state.sessions

def isResuming (state : RecoveryState) : Bool :=
  match state.work with
  | .resuming _ => true
  | _ => false

/-- Where the one task stands, and what the actor holds of it. -/
def InStep (state : RecoveryState) (task : ReconnectTask) : Prop :=
  match task.phase with
  | .sleeping | .sending =>
    state.pending = [] ∧ task.recovery.sessionsAtDrop = state.sessions
  | .waiting =>
    state.pending = [task.recovery] ∧
      (state.isResuming = false →
        task.recovery.sessionsAtDrop = state.sessions)
  | .answered => state.pending = []

/-- At most one automatic reconnect is on its way. -/
structure SingleFlight (state : RecoveryState) : Prop where
  teardowns : state.TeardownsConcernOwnDrop
  flight : (state.tasks = [] ∧ state.reconnectInFlight = false ∧
      state.pending = []) ∨
    ∃ task, state.tasks = [task] ∧ state.reconnectInFlight = true ∧
      state.InStep task

theorem SingleFlight.pending_le_one {state : RecoveryState}
    (single : state.SingleFlight) : state.pending.length ≤ 1 := by
  rcases single.flight with ⟨-, -, nothing⟩ | ⟨task, -, -, inStep⟩
  · simp [nothing]
  · unfold InStep at inStep
    split at inStep
    all_goals simp [inStep]

/-- A recovery the actor holds is the one its task waits for. -/
theorem SingleFlight.of_pending {state : RecoveryState} {recovery : Recovery}
    {rest : List Recovery} (single : state.SingleFlight)
    (held : state.pending = recovery :: rest) :
    state.tasks = [⟨recovery, .waiting⟩] ∧ state.reconnectInFlight = true ∧
      rest = [] ∧ (state.isResuming = false →
        recovery.sessionsAtDrop = state.sessions) := by
  rcases single.flight with ⟨-, -, nothing⟩ | ⟨⟨own, phase⟩, tasks, flag, inStep⟩
  · simp [nothing] at held
  · cases phase with
    | sleeping | sending | answered => simp [InStep, held] at inStep
    | waiting =>
      obtain ⟨waitsFor, atDrop⟩ := inStep
      rw [held] at waitsFor
      obtain ⟨rfl, rfl⟩ := List.cons.inj waitsFor
      exact ⟨tasks, flag, rfl, atDrop⟩

/-- The task a party looked up is the one there is. -/
theorem SingleFlight.of_task {state : RecoveryState} {task : ReconnectTask}
    {id : Nat} {phase : TaskPhase} (single : state.SingleFlight)
    (found : state.task? id phase = some task) :
    state.tasks = [task] ∧ state.reconnectInFlight = true ∧
      task.recovery.id = id ∧ task.phase = phase ∧ state.InStep task := by
  have member := List.mem_of_find?_eq_some found
  have fits : task.recovery.id = id ∧ task.phase = phase := by
    simpa using List.find?_some found
  rcases single.flight with ⟨none, -, -⟩ | ⟨only, tasks, flag, inStep⟩
  · simp [none] at member
  · obtain rfl : task = only := by simpa [tasks] using member
    exact ⟨tasks, flag, fits.1, fits.2, inStep⟩

/-- The one task ends once the actor holds nothing of it. -/
theorem SingleFlight.endTask {state : RecoveryState} {task : ReconnectTask}
    (single : state.SingleFlight) (tasks : state.tasks = [task])
    (nothing : state.pending = []) :
    (state.endTask task.recovery.id).SingleFlight where
  teardowns := single.teardowns
  flight := .inl ⟨by simp [RecoveryState.endTask, tasks], rfl, nothing⟩

/-- The actor answers the one recovery it holds. -/
theorem SingleFlight.answer (state : RecoveryState) {recovery : Recovery}
    (teardowns : state.TeardownsConcernOwnDrop)
    (tasks : state.tasks = [⟨recovery, .waiting⟩])
    (flag : state.reconnectInFlight = true)
    (queued : state.queue.filterMap (·.recovery?) = []) :
    (state.answer recovery).SingleFlight where
  teardowns := teardowns
  flight := by
    refine .inr ⟨⟨recovery, .answered⟩, ?_, flag, ?_⟩
    · simp [RecoveryState.answer, tasks]
    · simp [InStep, RecoveryState.answer, pending, ActorWork.recovery?, queued]

/-- Other work comes and goes. -/
theorem SingleFlight.of_same {before after : RecoveryState}
    (single : before.SingleFlight)
    (teardowns : after.teardowns = before.teardowns)
    (tasks : after.tasks = before.tasks)
    (flag : after.reconnectInFlight = before.reconnectInFlight)
    (sessions : after.sessions = before.sessions)
    (pending : after.pending = before.pending)
    (resuming : after.isResuming = before.isResuming) :
    after.SingleFlight := by
  obtain ⟨drops, flight⟩ := single
  constructor
  · simpa only [TeardownsConcernOwnDrop, teardowns] using drops
  · simpa only [InStep, tasks, flag, sessions, pending, resuming] using flight

theorem SingleFlight.report {state : RecoveryState}
    {outcome : PlaybackIntent × Option RecoveryRequest} {sessionsAtDrop : Nat}
    (single : state.SingleFlight)
    (current : state.ReportsCurrent outcome sessionsAtDrop) :
    (state.report outcome sessionsAtDrop).SingleFlight := by
  obtain ⟨intent, request⟩ := outcome
  cases request with
  | none => exact single.of_same rfl rfl rfl rfl rfl rfl
  | some request =>
    have atDrop := current rfl
    simp only [RecoveryState.report, schedulePlayerReconnect]
    split
    · exact single.of_same rfl rfl rfl rfl rfl rfl
    · rename_i free
      rcases single.flight with ⟨tasks, flag, nothing⟩ | ⟨task, -, flag, -⟩
      · refine ⟨single.teardowns, .inr ⟨_, by rw [tasks]; rfl, rfl, ?_⟩⟩
        exact ⟨nothing, atDrop flag⟩
      · exact absurd flag free

section

variable (deriveDeviceIdForName : String → String)
  (stretch : PlaybackSpeed → Nat → Nat) (defaultDeviceName : String)

/-- No task gives up on a command the actor still holds, and no report about
an earlier session gets a recovery scheduled. -/
def StepIsTimely (state : RecoveryState) : RecoveryAction → Prop
  | .timeOut id => ∀ recovery ∈ state.pending, recovery.id ≠ id
  | .playerEvent event sessionsAtDrop nowMs now =>
    state.ReportsCurrent (state.intent.forwardPlayerEvent
      deriveDeviceIdForName stretch defaultDeviceName event nowMs now)
      sessionsAtDrop
  | .healthProbe connected sessionsAtDrop now =>
    state.ReportsCurrent (state.intent.probePlayerHealth
      deriveDeviceIdForName stretch defaultDeviceName connected
      state.reconnectInFlight now) sessionsAtDrop
  | .audioStall sessionsAtDrop nowMs now =>
    state.ReportsCurrent (state.intent.handleAudioStall
      deriveDeviceIdForName stretch defaultDeviceName state.reconnectInFlight
      nowMs now) sessionsAtDrop
  | _ => True

theorem SingleFlight.wake {state next : RecoveryState} {id now : Nat}
    (single : state.SingleFlight)
    (woken : state.wake deriveDeviceIdForName stretch id now = some next) :
    next.SingleFlight := by
  obtain ⟨⟨recovery, phase⟩, found, rfl⟩ := Option.map_eq_some_iff.mp woken
  obtain ⟨tasks, flag, rfl, rfl, nothing, atDrop⟩ := single.of_task found
  split
  · refine ⟨single.teardowns, .inr ⟨⟨recovery, .sending⟩, ?_, flag,
      nothing, atDrop⟩⟩
    simp [setPhase, tasks]
  · exact single.endTask tasks nothing

theorem SingleFlight.send {state next : RecoveryState} {id : Nat}
    (single : state.SingleFlight) (sent : state.send id = some next) :
    next.SingleFlight := by
  obtain ⟨⟨recovery, phase⟩, found, rest⟩ := Option.bind_eq_some_iff.mp sent
  obtain ⟨tasks, flag, rfl, rfl, nothing, atDrop⟩ := single.of_task found
  obtain ⟨idle, queued⟩ : state.work.recovery?.toList = [] ∧
      state.queue.filterMap (·.recovery?) = [] :=
    List.append_eq_nil_iff.mp nothing
  split at rest
  · cases rest
    refine ⟨single.teardowns, .inr ⟨⟨recovery, .waiting⟩, ?_, flag, ?_,
      fun _ => atDrop⟩⟩
    · simp [setPhase, tasks]
    · simp [pending, setPhase, idle, queued]
  · cases rest

theorem SingleFlight.takeCommand {state next : RecoveryState}
    {installed : Bool} {now : Nat} (single : state.SingleFlight)
    (took : state.takeCommand deriveDeviceIdForName stretch installed now =
      some next) : next.SingleFlight := by
  unfold RecoveryState.takeCommand at took
  split at took
  · rename_i idle queued
    cases took
    refine single.of_same rfl rfl rfl rfl ?_ ?_
    · simp [pending, idle, queued, ActorWork.recovery?,
        PlayerCommand.recovery?]
    · simp [isResuming, idle]
  · rename_i recovery rest idle queued
    have held : state.pending = recovery :: rest.filterMap (·.recovery?) := by
      simp [pending, idle, queued, ActorWork.recovery?,
        PlayerCommand.recovery?]
    obtain ⟨tasks, flag, alone, atDrop⟩ := single.of_pending held
    have current := atDrop (by simp [isResuming, idle])
    split at took
    · cases took
      refine ⟨?_, .inr ⟨_, tasks, flag, ?_, fun _ => current⟩⟩
      · intro teardown member
        rcases List.mem_append.mp member with earlier | added
        · exact single.teardowns teardown earlier
        · rw [List.mem_singleton.mp added]
          exact current
      · simp [pending, ActorWork.recovery?, alone]
    · cases took
      exact .answer { state with queue := rest } single.teardowns tasks flag
        alone
  · cases took

theorem SingleFlight.resumeAfterReconnect {state : RecoveryState}
    {recovery : Recovery} (single : state.SingleFlight)
    (tasks : state.tasks = [⟨recovery, .waiting⟩])
    (flag : state.reconnectInFlight = true)
    (queued : state.queue.filterMap (·.recovery?) = []) (now : Nat) :
    (state.resumeAfterReconnect deriveDeviceIdForName stretch recovery
      now).SingleFlight := by
  have answered :
      ({ state with sessions := state.sessions + 1 }.answer
        recovery).SingleFlight :=
    .answer { state with sessions := state.sessions + 1 } single.teardowns
      tasks flag queued
  unfold RecoveryState.resumeAfterReconnect
  dsimp only
  split
  · split
    · exact answered
    · split
      · exact answered
      · refine ⟨single.teardowns, .inr ⟨_, tasks, flag, ?_, ?_⟩⟩
        · simp [pending, ActorWork.recovery?, queued]
        · simp [isResuming]
  · exact answered

theorem SingleFlight.actorStep {state next : RecoveryState}
    {succeeded : Bool} {now : Nat} (single : state.SingleFlight)
    (stepped : state.actorStep deriveDeviceIdForName stretch succeeded now =
      some next) : next.SingleFlight := by
  -- Whatever the actor is busy with is the one recovery of the one task.
  have only : ∀ recovery, state.work.recovery? = some recovery →
      state.tasks = [⟨recovery, .waiting⟩] ∧ state.reconnectInFlight = true ∧
        state.queue.filterMap (·.recovery?) = [] ∧
        (state.isResuming = false →
          recovery.sessionsAtDrop = state.sessions) := by
    intro recovery working
    apply single.of_pending
    simp [pending, working]
  unfold RecoveryState.actorStep at stepped
  split at stepped
  · cases stepped
  · rename_i working
    cases stepped
    refine single.of_same rfl rfl rfl rfl ?_ ?_
    · simp [pending, working, ActorWork.recovery?]
    · simp [isResuming, working]
  · rename_i recovery working
    obtain ⟨tasks, flag, queued, -⟩ :=
      only recovery (by simp [working, ActorWork.recovery?])
    split at stepped
    · cases stepped
      refine single.of_same rfl rfl rfl rfl ?_ ?_
      · simp [pending, working, ActorWork.recovery?]
      · simp [isResuming, working]
    · cases stepped
      exact .answer state single.teardowns tasks flag queued
  · rename_i recovery working
    obtain ⟨tasks, flag, queued, -⟩ :=
      only recovery (by simp [working, ActorWork.recovery?])
    split at stepped
    · cases stepped
      exact single.resumeAfterReconnect _ _ tasks flag queued now
    · cases stepped
      exact .answer state single.teardowns tasks flag queued
  · rename_i recovery working
    obtain ⟨tasks, flag, queued, -⟩ :=
      only recovery (by simp [working, ActorWork.recovery?])
    cases stepped
    exact .answer state single.teardowns tasks flag queued

/-- A timely step, whoever takes it. -/
theorem SingleFlight.step {state next : RecoveryState}
    {action : RecoveryAction} (single : state.SingleFlight)
    (timely : state.StepIsTimely deriveDeviceIdForName stretch
      defaultDeviceName action)
    (stepped : (recoveryMachine deriveDeviceIdForName stretch
      defaultDeviceName).step state action = some next) :
    next.SingleFlight := by
  cases action with
  | playerEvent | healthProbe | audioStall =>
    cases stepped
    exact single.report timely
  | userMutation | surround =>
    cases stepped
    exact single.of_same rfl rfl rfl rfl rfl rfl
  | wake id now => exact single.wake _ _ stepped
  | send id => exact single.send stepped
  | timeOut id =>
    obtain ⟨⟨recovery, phase⟩, found, rfl⟩ :=
      Option.map_eq_some_iff.mp stepped
    obtain ⟨-, -, rfl, rfl, waitsFor, -⟩ := single.of_task found
    exact absurd rfl (timely recovery (by simp [waitsFor]))
  | finish id =>
    obtain ⟨⟨recovery, phase⟩, found, rfl⟩ :=
      Option.map_eq_some_iff.mp stepped
    obtain ⟨tasks, -, rfl, rfl, nothing⟩ := single.of_task found
    exact single.endTask tasks nothing
  | enqueueOther =>
    simp only [recoveryMachine, recoveryStep] at stepped
    split at stepped
    · cases stepped
      refine single.of_same rfl rfl rfl rfl ?_ ?_
      · simp [pending, PlayerCommand.recovery?]
      · rfl
    · cases stepped
  | serveOther =>
    simp only [recoveryMachine, recoveryStep] at stepped
    split at stepped
    · rename_i idle
      cases stepped
      refine single.of_same rfl rfl rfl rfl ?_ ?_
      · simp [pending, idle, ActorWork.recovery?]
      · simp [isResuming, idle]
    · cases stepped
  | takeCommand installed now => exact single.takeCommand _ _ stepped
  | actorStep succeeded now => exact single.actorStep _ _ stepped

end

/-- A daemon that has seen no drop yet. -/
def quiet (intent : PlaybackIntent) : RecoveryState where
  intent := intent
  reconnectInFlight := false
  tasks := []
  queue := []
  work := .idle
  nextId := 0
  sessions := 0
  resumes := []
  teardowns := []

theorem quiet_honours (intent : PlaybackIntent) :
    (quiet intent).HonoursIntent :=
  ⟨nofun, nofun⟩

theorem quiet_single (intent : PlaybackIntent) :
    (quiet intent).SingleFlight :=
  ⟨nofun, .inl ⟨rfl, rfl, rfl⟩⟩

end RecoveryState

section

variable (deriveDeviceIdForName : String → String)
  (stretch : PlaybackSpeed → Nat → Nat) (defaultDeviceName : String)

/-- In every run, a resume has seen every hand-off and user mutation before
it; in a run of timely steps the actor never holds two automatic reconnects,
and none tears down a session that another established after its drop. -/
theorem recoveries_honour_intent_and_are_single (intent : PlaybackIntent)
    (actions : List RecoveryAction) (final : RecoveryState)
    (ran : (recoveryMachine deriveDeviceIdForName stretch
      defaultDeviceName).run (.quiet intent) actions = some final) :
    final.ResumesHonourIntent ∧
      ((recoveryMachine deriveDeviceIdForName stretch
          defaultDeviceName).StepsMeet
        (RecoveryState.StepIsTimely deriveDeviceIdForName stretch
          defaultDeviceName) (.quiet intent) actions →
        final.pending.length ≤ 1 ∧ final.TeardownsConcernOwnDrop) := by
  constructor
  · have honours : final.HonoursIntent :=
      GuardedMachine.run_preserves _
        (fun _ _ _ honours stepped =>
          (RecoveryState.step_keeps _ _ _ stepped).honours honours)
        (RecoveryState.quiet_honours intent) ran
    exact honours.resumes
  · intro timely
    have single : final.SingleFlight :=
      GuardedMachine.run_preserves_of_stepsMeet _
        (fun _ _ _ single timely stepped =>
          single.step _ _ _ timely stepped)
        (RecoveryState.quiet_single intent) timely ran
    exact ⟨single.pending_le_one, single.teardowns⟩

end

/-- Our device is the active one and nothing was recorded about playback. -/
def listeningHere : PlaybackIntent := .ownDeviceActive ⟨"spotify"⟩ "spotuify"

/-- A track starts, a drop is seen and its reconnect carried out. -/
def recoveredDrop : List RecoveryAction :=
  [.playerEvent (.playbackStarted ⟨⟨"radio", rfl⟩, .track, "live", rfl⟩ 0) 0 0 0,
    .playerEvent (.sessionDisconnected "reset") 0 0 0, .wake 0 0, .send 0,
    .takeCommand true 0, .actorStep true 0, .actorStep true 0,
    .actorStep true 0, .finish 0]

theorem recoveredDrop_honours_and_is_single :
    ∃ final, (recoveryMachine id (fun _ ms => ms) "spotuify").run
        (.quiet listeningHere) recoveredDrop = some final ∧
      final.resumes.length = 1 ∧ final.ResumesHonourIntent ∧ final.pending.length ≤ 1 ∧
      final.TeardownsConcernOwnDrop := by
  refine ⟨_, rfl, rfl, ?_⟩
  have both := recoveries_honour_intent_and_are_single id (fun _ ms => ms)
    "spotuify" listeningHere recoveredDrop _ rfl
  refine ⟨both.1, both.2 ?_⟩
  iterate 2 apply GuardedMachine.StepsMeet.cons _ rfl (fun _ _ => rfl)
  iterate 7 apply GuardedMachine.StepsMeet.cons _ rfl trivial
  trivial

/-- The session drops while the actor is busy, and the task gives up before
the actor comes to its command. -/
def gaveUpWhileQueued : List RecoveryAction :=
  [.serveOther, .playerEvent (.sessionDisconnected "reset") 0 0 0,
    .wake 0 0, .send 0, .timeOut 0,
    .playerEvent (.failed "session died" 1) 0 0 0, .wake 1 0, .send 1]

/-- The actor carries out the first command and comes to the second. -/
def bothCarriedOut : List RecoveryAction :=
  [.actorStep true 0, .takeCommand true 0, .actorStep true 0,
    .actorStep true 0, .takeCommand true 0]

/-- Two automatic reconnects are queued for one drop, and the second tears
down the session the first established. -/
theorem automaticReconnect_doubled_after_timeout :
    ∃ queued final, (recoveryMachine id (fun _ ms => ms) "spotuify").run
        (.quiet listeningHere) gaveUpWhileQueued = some queued ∧
      queued.pending.length = 2 ∧
      (recoveryMachine id (fun _ ms => ms) "spotuify").run queued
        bothCarriedOut = some final ∧
      final.teardowns = [⟨0, 0⟩, ⟨0, 1⟩] := by
  exact ⟨_, _, rfl, rfl, rfl, rfl⟩

end Spotuify
