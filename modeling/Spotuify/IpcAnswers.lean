import Spotuify.IpcSessions

/-!
# Answers to an IPC client

A request takes the next number and waits for a response with it.  The
numbers of the requests do not repeat until they start again, so a response
that comes late has an earlier number than the request that waits.
-/

namespace Spotuify
namespace IpcSession

variable {Uuid : Type} {session : IpcSession Uuid}

/-- A request that is answered is answered with its own number. -/
structure OwnNumbers (session : IpcSession Uuid) : Prop where
  nextId : session.client.nextId = .ofNat (session.taken + 1)
  waiting : ∀ id index, session.waiting = some (.request id index) →
    id = .ofNat session.taken ∧ ∃ request,
      session.requested[index]? = some request ∧ request.id = id
  inFlight : ∀ item ∈ session.inFlight, FromDaemon session.requested item
  answered : ∀ index frame response,
    .answered index frame response ∈ session.outcomes →
      frame.message.payload = .response response ∧ ∃ request,
        session.requested[index]? = some request ∧
          request.id = frame.message.id

theorem getElem?_send {index : Nat} {request : IpcMessage Uuid}
    (isRequest : session.requested[index]? = some request)
    (sending : ClientRequest) (mutationId : Option MutationId)
    (isQueued : Bool) :
    (session.send sending mutationId isQueued).requested[index]? =
      some request := by
  obtain ⟨within, -⟩ := List.getElem?_eq_some_iff.mp isRequest
  cases isQueued with
  | true => exact (List.getElem?_append_left within).trans isRequest
  | false => exact isRequest

theorem FromDaemon.send {item : StreamItem Uuid}
    (isFromDaemon : FromDaemon session.requested item)
    (sending : ClientRequest) (mutationId : Option MutationId)
    (isQueued : Bool) :
    FromDaemon (session.send sending mutationId isQueued).requested item := by
  cases isFromDaemon with
  | response isRequest response =>
    exact .response (getElem?_send isRequest ..) response
  | event event => exact .event event
  | broken error => exact .broken error

theorem OwnNumbers.send (own : OwnNumbers session)
    (isFree : session.waiting = none) (request : ClientRequest)
    (mutationId : Option MutationId) (isQueued : Bool) :
    OwnNumbers (session.send request mutationId isQueued) where
  nextId := by
    change session.client.nextId + 1 = .ofNat (session.taken + 1 + 1)
    rw [own.nextId, UInt64.ofNat_add (session.taken + 1)]
    rfl
  waiting := fun id index isWaiting => by
    rw [IpcSession.send, isFree] at isWaiting
    cases isWaiting
  inFlight := fun item member => (own.inFlight item member).send ..
  answered := fun index frame response member => by
    obtain ⟨isResponse, request, isRequest, sameId⟩ :=
      own.answered index frame response member
    exact ⟨isResponse, request, getElem?_send isRequest .., sameId⟩

/-- A failed request is not an answered one. -/
theorem OwnNumbers.fail (own : OwnNumbers session) (failure : IpcFailure) :
    OwnNumbers (session.fail failure) where
  nextId := own.nextId
  waiting := nofun
  inFlight := own.inFlight
  answered := fun index frame response member => by
    rcases List.mem_append.mp member with earlier | isLast
    · exact own.answered index frame response earlier
    · cases List.mem_singleton.mp isLast

theorem OwnNumbers.startRequest (own : OwnNumbers session)
    (isFree : session.waiting = none) (request : ClientRequest)
    (mutationId : Option MutationId) (outcome : SendOutcome) :
    OwnNumbers (session.startRequest request mutationId outcome) := by
  have sent := own.send isFree request mutationId outcome.isQueued
  cases outcome with
  | sent =>
    refine ⟨sent.nextId, ?_, sent.inFlight, sent.answered⟩
    rintro id index ⟨⟩
    exact ⟨own.nextId, _, List.getElem?_concat_length, rfl⟩
  | failed queued failure => exact sent.fail _

theorem OwnNumbers.subscribeEvents (own : OwnNumbers session)
    (isFree : session.waiting = none) (outcome : SendOutcome) :
    OwnNumbers (session.subscribeEvents outcome).1 := by
  unfold IpcSession.subscribeEvents
  split
  · exact own
  · have sent := own.send isFree (.subscribeEvents true) none
      outcome.isQueued
    cases outcome with
    | sent =>
      exact ⟨sent.nextId, sent.waiting, sent.inFlight, sent.answered⟩
    | failed queued failure => exact sent

theorem OwnNumbers.startNextEvent (own : OwnNumbers session)
    (isFree : session.waiting = none) (outcome : SendOutcome) :
    OwnNumbers (session.startNextEvent outcome) := by
  unfold IpcSession.startNextEvent
  split
  · exact ⟨own.nextId, own.waiting, own.inFlight, own.answered⟩
  · have subscribed := own.subscribeEvents isFree outcome
    split
    case h_1 next isNext =>
      rw [isNext] at subscribed
      exact ⟨subscribed.nextId, nofun, subscribed.inFlight,
        subscribed.answered⟩
    case h_2 next isNext =>
      rw [isNext] at subscribed
      exact subscribed

theorem OwnNumbers.readFrame (own : OwnNumbers session) {call : IpcCall}
    (isWaiting : session.waiting = some call) (frame : DaemonFrame Uuid) :
    OwnNumbers (session.readFrame call frame) := by
  have released {owed : UInt64 → Nat → Prop} (id : UInt64) (index : Nat)
      (isNone : none = some (IpcCall.request id index)) : owed id index := by
    cases isNone
  cases call with
  | request id index =>
    obtain ⟨-, request, isRequest, sameId⟩ := own.waiting id index isWaiting
    cases payload : frame.message.payload with
    | response response =>
      simp only [IpcSession.readFrame, IpcClient.readRequesting, payload]
      by_cases isOwn : frame.message.id = id
      · rw [if_pos isOwn]
        refine ⟨own.nextId, released, own.inFlight, ?_⟩
        intro otherIndex otherFrame otherResponse member
        rcases List.mem_append.mp member with earlier | isLast
        · exact own.answered otherIndex otherFrame otherResponse earlier
        · cases List.mem_singleton.mp isLast
          exact ⟨payload, request, isRequest, sameId.trans isOwn.symm⟩
      · rw [if_neg isOwn]
        by_cases isEarlier : frame.message.id < id
        · rw [if_pos isEarlier]
          exact ⟨own.nextId, own.waiting, own.inFlight, own.answered⟩
        · rw [if_neg isEarlier]
          have failed := own.fail (.unexpectedResponse frame.message.id id)
          exact ⟨own.nextId, released, own.inFlight, failed.answered⟩
    | event event =>
      simp only [IpcSession.readFrame, IpcClient.readRequesting, payload]
      exact ⟨own.nextId, own.waiting, own.inFlight, own.answered⟩
    | request request =>
      simp only [IpcSession.readFrame, IpcClient.readRequesting, payload]
      have failed := own.fail (.receivedRequest id)
      exact ⟨own.nextId, released, own.inFlight, failed.answered⟩
  | nextEvent =>
    simp only [IpcSession.readFrame]
    split
    · exact ⟨own.nextId, released, own.inFlight, own.answered⟩
    · exact ⟨own.nextId, own.waiting, own.inFlight, own.answered⟩

theorem OwnNumbers.failCall (own : OwnNumbers session)
    (failure : IpcFailure) (call : IpcCall) :
    OwnNumbers (session.failCall failure call) := by
  cases call with
  | request id index => exact own.fail failure
  | nextEvent => exact ⟨own.nextId, nofun, own.inFlight, own.answered⟩

theorem OwnNumbers.stepped {next : IpcSession Uuid}
    (own : OwnNumbers session) (stepped : Stepped session next) :
    OwnNumbers next := by
  have withLater {later : List (StreamItem Uuid)}
      (remaining : later <:+ session.inFlight) :
      OwnNumbers { session with inFlight := later } :=
    ⟨own.nextId, own.waiting, fun item member =>
      own.inFlight item (remaining.subset member), own.answered⟩
  cases stepped with
  | request isFree => exact own.startRequest isFree ..
  | nextEvent isFree outcome => exact own.startNextEvent isFree outcome
  | subscribeEvents isFree outcome =>
    exact own.subscribeEvents isFree outcome
  | @reads call frame later isWaiting arrived =>
    have remaining : later <:+ session.inFlight := by
      rw [arrived]
      exact List.suffix_cons _ _
    exact (withLater remaining).readFrame isWaiting frame
  | fails _ _ remaining => exact (withLater remaining).failCall ..
  | @arrives item isFromDaemon =>
    refine ⟨own.nextId, own.waiting, ?_, own.answered⟩
    intro other member
    rcases List.mem_append.mp member with earlier | isLast
    · exact own.inFlight other earlier
    · rw [List.mem_singleton.mp isLast]
      exact isFromDaemon

/-- The numbers of the requests do not repeat, so a response is given to the
request it answers. -/
structure Correlated (session : IpcSession Uuid) : Prop where
  below : ∀ request ∈ session.requested, request.id.toNat ≤ session.taken
  distinct : (session.requested.map IpcMessage.id).Nodup
  answered : ∀ index frame response,
    .answered index frame response ∈ session.outcomes →
      frame.answers = some index
  failed : ∀ failure, .failed failure ∈ session.outcomes →
    failure.isProtocolError = false

/-- The correlation is about what was sent and what it came to. -/
theorem Correlated.transfer {other : IpcSession Uuid}
    (correlated : Correlated session)
    (requested : other.requested = session.requested)
    (taken : other.taken = session.taken)
    (outcomes : other.outcomes = session.outcomes) : Correlated other := by
  obtain ⟨below, distinct, answered, failed⟩ := correlated
  rw [← requested] at below distinct
  rw [← taken] at below
  rw [← outcomes] at answered failed
  exact ⟨below, distinct, answered, failed⟩

theorem taken_le_of_stepped {next : IpcSession Uuid}
    (stepped : Stepped session next) : session.taken ≤ next.taken := by
  have subscribed (outcome : SendOutcome) :
      session.taken ≤ (session.subscribeEvents outcome).1.taken := by
    unfold IpcSession.subscribeEvents
    split
    · exact le_refl _
    · cases outcome <;> exact Nat.le_succ _
  cases stepped with
  | request isFree request mutationId outcome =>
    cases outcome <;> exact Nat.le_succ _
  | nextEvent isFree outcome =>
    unfold IpcSession.startNextEvent
    split
    · exact le_refl _
    · have sent := subscribed outcome
      split
      case h_1 next isNext => rwa [isNext] at sent
      case h_2 next isNext => rwa [isNext] at sent
  | subscribeEvents isFree outcome => exact subscribed outcome
  | @reads call frame later isWaiting arrived =>
    cases call with
    | request id index =>
      simp only [IpcSession.readFrame]
      split <;> exact le_refl _
    | nextEvent =>
      simp only [IpcSession.readFrame]
      split <;> exact le_refl _
  | @fails call => cases call <;> exact le_refl _
  | arrives => exact le_refl _

theorem Correlated.send (own : OwnNumbers session)
    (correlated : Correlated session) (bounded : session.taken + 1 < 2 ^ 64)
    (request : ClientRequest) (mutationId : Option MutationId)
    (isQueued : Bool) :
    Correlated (session.send request mutationId isQueued) := by
  have number : session.client.nextId.toNat = session.taken + 1 := by
    rw [own.nextId]
    exact UInt64.toNat_ofNat_of_lt' bounded
  cases isQueued with
  | false =>
    refine ⟨?_, correlated.distinct, correlated.answered, correlated.failed⟩
    intro sent member
    exact (correlated.below sent member).trans (Nat.le_succ _)
  | true =>
    refine ⟨?_, ?_, correlated.answered, correlated.failed⟩
    · intro sent member
      rcases List.mem_append.mp member with earlier | isLast
      · exact (correlated.below sent earlier).trans (Nat.le_succ _)
      · rw [List.mem_singleton.mp isLast]
        exact number.le
    · change ((session.requested ++ [_]).map IpcMessage.id).Nodup
      rw [List.map_append, List.nodup_append]
      refine ⟨correlated.distinct, List.nodup_singleton _, ?_⟩
      rintro _ earlier _ isLast rfl
      obtain ⟨sent, member, sameId⟩ := List.mem_map.mp earlier
      have isNext : _ = session.client.nextId := List.mem_singleton.mp isLast
      have below := correlated.below sent member
      rw [sameId, isNext, number] at below
      omega

theorem Correlated.fail (correlated : Correlated session)
    {failure : IpcFailure} (notProtocol : failure.isProtocolError = false) :
    Correlated (session.fail failure) where
  below := correlated.below
  distinct := correlated.distinct
  answered := fun index frame response member => by
    rcases List.mem_append.mp member with earlier | isLast
    · exact correlated.answered index frame response earlier
    · cases List.mem_singleton.mp isLast
  failed := fun other member => by
    rcases List.mem_append.mp member with earlier | isLast
    · exact correlated.failed other earlier
    · cases List.mem_singleton.mp isLast
      exact notProtocol

theorem Correlated.startRequest (own : OwnNumbers session)
    (correlated : Correlated session) (bounded : session.taken + 1 < 2 ^ 64)
    (request : ClientRequest) (mutationId : Option MutationId)
    (outcome : SendOutcome) :
    Correlated (session.startRequest request mutationId outcome) := by
  have sent := correlated.send own bounded request mutationId outcome.isQueued
  cases outcome with
  | sent => exact sent.transfer rfl rfl rfl
  | failed queued failure => exact sent.fail rfl

theorem Correlated.subscribeEvents (own : OwnNumbers session)
    (correlated : Correlated session) {outcome : SendOutcome}
    (bounded : (session.subscribeEvents outcome).1.taken < 2 ^ 64) :
    Correlated (session.subscribeEvents outcome).1 := by
  unfold IpcSession.subscribeEvents at bounded ⊢
  split at bounded
  case isTrue isSubscribed =>
    rw [if_pos isSubscribed]
    exact correlated
  case isFalse notSubscribed =>
    rw [if_neg notSubscribed]
    cases outcome with
    | sent =>
      have sent := correlated.send own bounded (.subscribeEvents true) none true
      exact sent.transfer rfl rfl rfl
    | failed queued failure =>
      exact correlated.send own bounded (.subscribeEvents true) none queued

theorem Correlated.startNextEvent (own : OwnNumbers session)
    (correlated : Correlated session) {outcome : SendOutcome}
    (bounded : (session.startNextEvent outcome).taken < 2 ^ 64) :
    Correlated (session.startNextEvent outcome) := by
  unfold IpcSession.startNextEvent at bounded ⊢
  split at bounded
  · exact correlated.transfer rfl rfl rfl
  · split at bounded
    case h_1 next isNext =>
      have subscribed : Correlated (session.subscribeEvents outcome).1 := by
        apply correlated.subscribeEvents own
        rw [isNext]
        exact bounded
      rw [isNext] at subscribed
      exact subscribed.transfer rfl rfl rfl
    case h_2 next isNext =>
      have subscribed : Correlated (session.subscribeEvents outcome).1 := by
        apply correlated.subscribeEvents own
        rw [isNext]
        exact bounded
      rw [isNext] at subscribed
      exact subscribed

/-- The number of a request that waits is the last one taken, so a response
with another number answers an earlier request. -/
theorem Correlated.readFrame (own : OwnNumbers session)
    (correlated : Correlated session) (bounded : session.taken < 2 ^ 64)
    {call : IpcCall} (isWaiting : session.waiting = some call)
    {frame : DaemonFrame Uuid}
    (isFromDaemon : FromDaemon session.requested (.frame frame)) :
    Correlated (session.readFrame call frame) := by
  cases call with
  | nextEvent =>
    simp only [IpcSession.readFrame]
    split
    all_goals
      exact correlated.transfer rfl rfl rfl
  | request id index =>
    obtain ⟨isLast, request, isRequest, sameId⟩ :=
      own.waiting id index isWaiting
    have number : id.toNat = session.taken := by
      rw [isLast]
      exact UInt64.toNat_ofNat_of_lt' bounded
    cases isFromDaemon with
    | event event =>
      exact correlated.transfer rfl rfl rfl
    | @response answers other isOther response =>
      simp only [IpcSession.readFrame, IpcClient.readRequesting,
        IpcMessage.ofResponse]
      by_cases isOwn : other.id = id
      · simp only [isOwn, if_true]
        have sameIndex : answers = index := by
          obtain ⟨within, -⟩ := List.getElem?_eq_some_iff.mp isOther
          refine (List.getElem?_inj (by rwa [List.length_map])
            correlated.distinct).mp ?_
          rw [List.getElem?_map, List.getElem?_map, isOther, isRequest]
          exact congrArg some (isOwn.trans sameId.symm)
        refine ⟨correlated.below, correlated.distinct, ?_, ?_⟩
        · intro otherIndex otherFrame otherResponse member
          rcases List.mem_append.mp member with earlier | isLast
          · exact correlated.answered otherIndex otherFrame _ earlier
          · cases List.mem_singleton.mp isLast
            exact congrArg some sameIndex
        · intro failure member
          rcases List.mem_append.mp member with earlier | isLast
          · exact correlated.failed failure earlier
          · cases List.mem_singleton.mp isLast
      · have isEarlier : other.id < id := by
          have below := correlated.below other (List.mem_of_getElem? isOther)
          have different : other.id.toNat ≠ id.toNat :=
            fun same => isOwn (UInt64.toNat_inj.mp same)
          rw [UInt64.lt_iff_toNat_lt]
          omega
        simp only [isOwn, isEarlier, if_true, if_false]
        exact correlated.transfer rfl rfl rfl

theorem Correlated.stepped {next : IpcSession Uuid}
    (own : OwnNumbers session) (correlated : Correlated session)
    (stepped : Stepped session next) (bounded : next.taken < 2 ^ 64) :
    Correlated next := by
  have still := (taken_le_of_stepped stepped).trans_lt bounded
  cases stepped with
  | request isFree request mutationId outcome =>
    refine correlated.startRequest own ?_ request mutationId outcome
    cases outcome <;> exact bounded
  | nextEvent => exact correlated.startNextEvent own bounded
  | subscribeEvents => exact correlated.subscribeEvents own bounded
  | @reads call frame later isWaiting arrived =>
    have isFromDaemon : FromDaemon session.requested (.frame frame) := by
      apply own.inFlight
      rw [arrived]
      exact List.mem_cons_self
    have remaining : later ⊆ session.inFlight := by
      rw [arrived]
      exact List.subset_cons_self _ _
    have ownLater : OwnNumbers { session with inFlight := later } :=
      ⟨own.nextId, own.waiting, fun item member =>
        own.inFlight item (remaining member), own.answered⟩
    have later : Correlated { session with inFlight := later } :=
      correlated.transfer rfl rfl rfl
    exact later.readFrame ownLater still isWaiting isFromDaemon
  | @fails call failure later isWaiting notProtocol remaining =>
    have later : Correlated { session with inFlight := later } :=
      correlated.transfer rfl rfl rfl
    cases call with
    | request id index => exact later.fail notProtocol
    | nextEvent =>
      exact later.transfer rfl rfl rfl
  | arrives =>
    exact correlated.transfer rfl rfl rfl

structure Sound (session : IpcSession Uuid) : Prop where
  inOrder : EventsInOrder session
  own : OwnNumbers session
  correlated : session.taken < 2 ^ 64 → Correlated session

theorem connect_sound (source : Option OperationSource) :
    Sound (connect source : IpcSession Uuid) where
  inOrder := ⟨rfl, nofun⟩
  own := by
    refine ⟨rfl, nofun, ?_, ?_⟩
    all_goals simp [connect]
  correlated := fun _ => by
    constructor
    all_goals simp [connect]

theorem sound_of_run {source : Option OperationSource}
    {actions : List (IpcAction Uuid)}
    (runs : (ipcMachine Uuid).run (connect source) actions = some session) :
    Sound session := by
  have preserved : ∀ (state : IpcSession Uuid) (action : IpcAction Uuid)
      (next : IpcSession Uuid), Sound state →
      (ipcMachine Uuid).step state action = some next → Sound next := by
    intro state action next sound steps
    have stepped := stepped_of_step steps
    refine ⟨sound.inOrder.stepped stepped, sound.own.stepped stepped, ?_⟩
    intro bounded
    have still := (taken_le_of_stepped stepped).trans_lt bounded
    exact (sound.correlated still).stepped sound.own stepped bounded
  exact (ipcMachine Uuid).run_preserves preserved (connect_sound source) runs

/-- Events are handed out in the order in which they are received and each
request is answered with its own number.  As long as the numbers do not start
again, the answer is the one to that very request, and no frame of the daemon
makes a request fail. -/
theorem session_answersOwn {source : Option OperationSource}
    {actions : List (IpcAction Uuid)}
    (runs : (ipcMachine Uuid).run (connect source) actions = some session) :
    session.handedOut ++ session.client.pendingEvents =
        session.received.filterMap DaemonFrame.event? ∧
      (∀ index frame response,
        .answered index frame response ∈ session.outcomes →
          frame.message.payload = .response response ∧ ∃ request,
            session.requested[index]? = some request ∧
              request.id = frame.message.id) ∧
      (session.taken < 2 ^ 64 →
        (∀ index frame response,
          .answered index frame response ∈ session.outcomes →
            frame.answers = some index) ∧
        ∀ failure, .failed failure ∈ session.outcomes →
          failure.isProtocolError = false) := by
  have sound := sound_of_run runs
  refine ⟨sound.inOrder.delivered, sound.own.answered, fun bounded => ?_⟩
  have correlated := sound.correlated bounded
  exact ⟨correlated.answered, correlated.failed⟩

/-- A request times out, and its response comes while the next one waits. -/
theorem session_answersOwn_of_late :
    ∃ session : IpcSession Unit,
      (ipcMachine Unit).run (connect none)
        [.request .ping none .sent, .abandon 30000,
          .daemonResponds 0 (.ok "late"), .request .ping none .sent,
          .daemonEmits .shutdownRequested, .daemonResponds 1 (.ok "own"),
          .read, .read, .read, .nextEvent .sent] = some session ∧
      session.handedOut ++ session.client.pendingEvents =
        session.received.filterMap DaemonFrame.event? ∧
      ∀ failure, .failed failure ∈ session.outcomes →
        failure.isProtocolError = false := by
  have ends : ((ipcMachine Unit).run (connect none)
      [.request .ping none .sent, .abandon 30000,
        .daemonResponds 0 (.ok "late"), .request .ping none .sent,
        .daemonEmits .shutdownRequested, .daemonResponds 1 (.ok "own"),
        .read, .read, .read, .nextEvent .sent]).any
          (fun session => decide (session.taken < 2 ^ 64)) = true := by
    decide +kernel
  obtain ⟨session, runs, bounded⟩ := (Option.any_eq_true _ _).mp ends
  obtain ⟨inOrder, -, correlated⟩ := session_answersOwn runs
  exact ⟨session, runs, inOrder, (correlated (of_decide_eq_true bounded)).2⟩

/-- A request whose frame cannot be sent in time. -/
def unsentRequest : IpcAction Unit :=
  .request .ping none (.failed false (.timedOut 30000))

theorem run_unsentRequests (count : Nat) :
    ∃ session, (ipcMachine Unit).run (connect none)
        (List.replicate count unsentRequest) = some session ∧
      session.client = ⟨.ofNat (count + 1), none, false, []⟩ ∧
      session.waiting = none ∧ session.requested = [] ∧
      session.inFlight = [] := by
  induction count with
  | zero => exact ⟨_, rfl, rfl, rfl, rfl, rfl⟩
  | succ count ih =>
    obtain ⟨session, runs, isClient, isFree, noRequests, noFrames⟩ := ih
    rw [List.replicate_succ']
    have steps : (ipcMachine Unit).run session [unsentRequest] =
        some (session.startRequest .ping none
          (.failed false (.timedOut 30000))) := by
      have isStep : (ipcMachine Unit).step session unsentRequest =
          some (session.startRequest .ping none
            (.failed false (.timedOut 30000))) :=
        if_pos (by rw [isFree]; rfl)
      rw [GuardedMachine.run_cons _ isStep, GuardedMachine.run_nil]
    refine ⟨_, GuardedMachine.run_append _ runs steps, ?_, rfl, noRequests,
      noFrames⟩
    change { session.client with nextId := session.client.nextId + 1 } = _
    rw [isClient, UInt64.ofNat_add (count + 1)]
    rfl

/-- A response with a later number makes the request that waits fail. -/
theorem readFrame_later {id received : UInt64} (isLater : id < received)
    (index : Nat) (response : Response) (answers : Option Nat) :
    .failed (.unexpectedResponse received id) ∈
      (session.readFrame (.request id index)
        ⟨.ofResponse received response, answers⟩).outcomes := by
  have notOwn : ¬received = id := by
    rintro rfl
    exact UInt64.lt_irrefl _ isLater
  have notEarlier : ¬received < id :=
    UInt64.not_lt.mpr (UInt64.le_of_lt isLater)
  simp only [readFrame, IpcClient.readRequesting, IpcMessage.ofResponse,
    notOwn, notEarlier, if_false]
  exact List.mem_append_right _ (List.mem_singleton.mpr rfl)

/-- Once the numbers start again, the late response to a request that timed
out makes the next request fail. -/
theorem late_response_fails :
    ∃ (actions : List (IpcAction Unit)) (session : IpcSession Unit)
        (failure : IpcFailure),
      (ipcMachine Unit).run (connect none)
        (actions ++ ([.request .ping none .sent, .abandon 30000,
          .request .ping none .sent, .daemonResponds 0 (.ok "late")] ++
            [.read])) = some session ∧
      .failed failure ∈ session.outcomes ∧
      failure.isProtocolError = true := by
  obtain ⟨session, runs, isClient, isFree, noRequests, noFrames⟩ :=
    run_unsentRequests (2 ^ 64 - 2)
  obtain ⟨client, waiting, requested, inFlight, received, handedOut, outcomes,
    taken⟩ := session
  cases isClient
  cases isFree
  cases noRequests
  cases noFrames
  have isLater : UInt64.ofNat (2 ^ 64 - 2 + 1) + 1 <
      UInt64.ofNat (2 ^ 64 - 2 + 1) := by
    decide +kernel
  exact ⟨List.replicate (2 ^ 64 - 2) unsentRequest, _, _,
    GuardedMachine.run_append _ runs (GuardedMachine.run_append _ rfl rfl),
    readFrame_later isLater 1 (.ok "late") (some 0), rfl⟩

end IpcSession
end Spotuify
