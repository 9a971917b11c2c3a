import Spotuify.PlaybackClock

/-!
# Deciding on an automatic reconnect

What the daemon knows about the listener's intent (the mutation sequence, the
activity flag, the clock, the provider that owns the transport), how player
events, health probes and the stall watchdog move it, and when each of them
asks for an automatic reconnect.  `intents` counts the hand-offs and the
newer user mutations; nothing in the daemon reads it.
-/

namespace Spotuify

/-- Probes in a row after which the health loop gives up. -/
def playerReconnectGiveUpAfter : Nat := 5

section

variable (deriveDeviceIdForName : String → String)

/-- `device_matches_own`. -/
def deviceMatchesOwn (device : Device) (ownDeviceId ownDeviceName :
    Option String) : Bool :=
  match device.id, ownDeviceId with
  | some active, some own => active == own
  | _, _ => ownDeviceName.any fun own => own == device.name

/-- `resume_target_after_drop`. -/
def resumeTargetAfterDrop (playback : Playback) (ownDeviceId ownDeviceName :
    Option String) : Option (String × Nat) :=
  if !playback.isPlaying then
    none
  else
    match playback.item with
    | none => none
    | some item =>
      if item.uri.isEmpty then
        none
      else if playback.device.any fun device =>
          !deviceMatchesOwn device ownDeviceId ownDeviceName then
        none
      else
        some (item.uri, min playback.progressMs (2 ^ 32 - 1))

/-- `should_auto_reconnect_player`. -/
def shouldAutoReconnectPlayer (connected weAreActive reconnectInFlight : Bool)
    (consecutiveFailures : Nat) : Bool :=
  !connected && weAreActive && !reconnectInFlight &&
    decide (consecutiveFailures < playerReconnectGiveUpAfter)

/-- The session is gone: librespot disconnected or failed. -/
def PlayerEvent.dropsSession : PlayerEvent → Bool
  | .sessionDisconnected _ | .failed _ _ => true
  | _ => false

structure PlaybackIntent where
  mutationSeq : Nat
  weAreActive : Bool
  clock : ClockState
  /-- Playback events after a hand-off are stale until the next activation. -/
  inactiveAfterHandoff : Bool
  embeddedProvider : Option ProviderId
  activeTransportProvider : Option ProviderId
  ownDeviceName : Option String
  consecutiveFailures : Nat
  intents : Nat

/-- A fresh daemon whose own device is the active one. -/
def PlaybackIntent.ownDeviceActive (provider : ProviderId)
    (deviceName : String) : PlaybackIntent where
  mutationSeq := 0
  weAreActive := true
  clock := .empty 0
  inactiveAfterHandoff := false
  embeddedProvider := some provider
  activeTransportProvider := some provider
  ownDeviceName := some deviceName
  consecutiveFailures := 0
  intents := 0

/-- What a reconnect is asked to do: the device to register and where to
resume. -/
structure RecoveryRequest where
  resume : Option (String × Nat)
  deviceName : String
  deriving DecidableEq

/-- The guard an automatic reconnect carries, and the intents its capture
saw. -/
structure AutomaticReconnectGuard where
  capturedSeq : Nat
  intentsAtCapture : Nat
  deriving DecidableEq

namespace PlaybackIntent

variable (intent : PlaybackIntent)

/-- `AutomaticReconnectGuard::new`. -/
def captureGuard : AutomaticReconnectGuard where
  capturedSeq := intent.mutationSeq
  intentsAtCapture := intent.intents

def ownDeviceId : Option String :=
  intent.ownDeviceName.map deriveDeviceIdForName

/-- `embedded_owns_global_transport`. -/
def embeddedOwnsGlobalTransport : Bool :=
  match intent.embeddedProvider, intent.activeTransportProvider with
  | some embedded, some active => embedded == active
  | _, _ => false

/-- A user mutation: `bump_mutation_seq`. -/
def userMutation : PlaybackIntent :=
  { intent with
    mutationSeq := intent.mutationSeq + 1,
    intents := intent.intents + 1 }

/-- A Connect hand-off revokes recovery before anything else is done. -/
def handOff : PlaybackIntent :=
  { intent with
    inactiveAfterHandoff := true,
    mutationSeq := intent.mutationSeq + 1,
    weAreActive := false,
    intents := intent.intents + 1 }

/-- A local start takes the global transport over. -/
def reclaimTransport (event : PlayerEvent) : PlaybackIntent :=
  let reclaims := !intent.inactiveAfterHandoff &&
    match event with
    | .playbackStarted _ _ => true
    | .trackChanged _ _ => intent.weAreActive
    | _ => false
  match reclaims, intent.embeddedProvider with
  | true, some embedded =>
    if intent.activeTransportProvider = some embedded then
      intent
    else
      { intent with
        activeTransportProvider := some embedded,
        mutationSeq := intent.mutationSeq + 1 }
  | _, _ => intent

/-- Whether an event speaks for the global transport. -/
def eventOwnsGlobalTransport (event : PlayerEvent) : Bool :=
  (intent.embeddedProvider.any fun embedded =>
    intent.activeTransportProvider.all fun active => active == embedded) &&
    (!intent.inactiveAfterHandoff || event == .deactivated)

section

variable (stretch : PlaybackSpeed → Nat → Nat) (defaultDeviceName : String)

/-- `AutomaticReconnectGuard::still_wanted`. -/
def stillWanted (guard : AutomaticReconnectGuard) (deviceName : String)
    (now : Nat) : Bool :=
  if intent.mutationSeq ≠ guard.capturedSeq then
    false
  else
    let current := intent.clock.snapshot stretch now
    let ownId := deriveDeviceIdForName deviceName
    let foreignDevice := current.device.any fun device =>
      !deviceMatchesOwn device (some ownId) (some deviceName)
    !foreignDevice &&
      (intent.weAreActive ||
        (resumeTargetAfterDrop current (some ownId)
          (some deviceName)).isSome)

/-- The clock and the activity flag after an event that owns the
transport. -/
def applyOwnedEvent (event : PlayerEvent) (nowMs : Int) (now : Nat) :
    PlaybackIntent :=
  { intent with
    clock := intent.clock.applyPlayerEvent stretch event nowMs now,
    weAreActive :=
      match event with
      | .playbackStarted _ _ | .playbackResumed | .trackChanged _ _ => true
      | .deactivated => false
      | _ => intent.weAreActive }

/-- Where playback would resume, and the request for it when the listener
still wants this device. -/
def requestRecovery (now : Nat) : Option RecoveryRequest :=
  let resume := resumeTargetAfterDrop (intent.clock.snapshot stretch now)
    (intent.ownDeviceId deriveDeviceIdForName) intent.ownDeviceName
  if intent.weAreActive || resume.isSome then
    some ⟨resume, intent.ownDeviceName.getD defaultDeviceName⟩
  else
    none

/-- A hand-off reported by the player revokes recovery before the clock or
the provider bookkeeping is consulted. -/
def revokeOnHandOff (event : PlayerEvent) : PlaybackIntent :=
  if event = .deactivated then intent.handOff else intent

/-- The event is about another device's playback. -/
def deactivatedForeignPlayback (event : PlayerEvent) : Bool :=
  event == .deactivated &&
    intent.clock.device.any fun device =>
      !deviceMatchesOwn device (intent.ownDeviceId deriveDeviceIdForName)
        intent.ownDeviceName

def applyGlobalEvent (event : PlayerEvent) (nowMs : Int) (now : Nat) :
    PlaybackIntent :=
  if intent.eventOwnsGlobalTransport event &&
      !intent.deactivatedForeignPlayback deriveDeviceIdForName event then
    intent.applyOwnedEvent stretch event nowMs now
  else
    intent

/-- One round of `forward_player_events`, as far as it concerns recovery. -/
def forwardPlayerEvent (event : PlayerEvent) (nowMs : Int) (now : Nat) :
    PlaybackIntent × Option RecoveryRequest :=
  let revoked := intent.revokeOnHandOff event
  if event = .activated then
    ({ revoked with inactiveAfterHandoff := false }, none)
  else
    let claimed := revoked.reclaimTransport event
    let applied := claimed.applyGlobalEvent deriveDeviceIdForName stretch
      event nowMs now
    (applied,
      if claimed.eventOwnsGlobalTransport event && event.dropsSession then
        applied.requestRecovery deriveDeviceIdForName stretch
          defaultDeviceName now
      else none)

/-- `probe_player_health`. -/
def probePlayerHealth (connected reconnectInFlight : Bool) (now : Nat) :
    PlaybackIntent × Option RecoveryRequest :=
  let owns := intent.embeddedOwnsGlobalTransport
  let resume :=
    if owns then
      resumeTargetAfterDrop (intent.clock.snapshot stretch now)
        (intent.ownDeviceId deriveDeviceIdForName) intent.ownDeviceName
    else none
  let active := owns && (intent.weAreActive || resume.isSome)
  let failures := if connected then 0 else intent.consecutiveFailures + 1
  ({ intent with consecutiveFailures := failures },
    if shouldAutoReconnectPlayer connected active reconnectInFlight
        (failures - 1) then
      some ⟨resume, intent.ownDeviceName.getD defaultDeviceName⟩
    else none)

/-- `handle_audio_stall`: the resume target is read before the clock is told
of the stall. -/
def handleAudioStall (reconnectInFlight : Bool) (nowMs : Int) (now : Nat) :
    PlaybackIntent × Option RecoveryRequest :=
  if !intent.embeddedOwnsGlobalTransport then
    (intent, none)
  else
    let request := intent.requestRecovery deriveDeviceIdForName stretch
      defaultDeviceName now
    ({ intent with
        clock := (intent.clock.markAudioStalled stretch nowMs now).1 },
      if reconnectInFlight then none else request)

end

end PlaybackIntent

/-- Intent moved forward: every hand-off and every user mutation that was
counted moved the mutation sequence as well. -/
structure PlaybackIntent.Advances (before after : PlaybackIntent) : Prop where
  seq_le : before.mutationSeq ≤ after.mutationSeq
  counted : after.intents + before.mutationSeq ≤
    before.intents + after.mutationSeq
  intents_le : before.intents ≤ after.intents

namespace PlaybackIntent

theorem Advances.refl (intent : PlaybackIntent) : intent.Advances intent :=
  ⟨le_rfl, le_rfl, le_rfl⟩

theorem Advances.trans {first second third : PlaybackIntent}
    (early : first.Advances second) (late : second.Advances third) :
    first.Advances third := by
  obtain ⟨seqEarly, countedEarly, intentsEarly⟩ := early
  obtain ⟨seqLate, countedLate, intentsLate⟩ := late
  constructor <;> omega

/-- Changes that leave the sequence and the count alone. -/
theorem Advances.of_same {before after : PlaybackIntent}
    (sameSeq : after.mutationSeq = before.mutationSeq)
    (sameIntents : after.intents = before.intents) :
    before.Advances after := by
  constructor <;> omega

theorem userMutation_advances (intent : PlaybackIntent) :
    intent.Advances intent.userMutation := by
  constructor <;> simp only [userMutation] <;> omega

theorem handOff_advances (intent : PlaybackIntent) :
    intent.Advances intent.handOff := by
  constructor <;> simp only [handOff] <;> omega

theorem reclaimTransport_advances (intent : PlaybackIntent)
    (event : PlayerEvent) :
    intent.Advances (intent.reclaimTransport event) := by
  simp only [reclaimTransport]
  split
  · split
    · exact .refl intent
    · constructor <;> simp
  · exact .refl intent

variable (deriveDeviceIdForName : String → String)
  (stretch : PlaybackSpeed → Nat → Nat) (defaultDeviceName : String)

theorem revokeOnHandOff_advances (intent : PlaybackIntent)
    (event : PlayerEvent) :
    intent.Advances (intent.revokeOnHandOff event) := by
  unfold revokeOnHandOff
  split
  · exact intent.handOff_advances
  · exact .refl intent

theorem applyGlobalEvent_advances (intent : PlaybackIntent)
    (event : PlayerEvent) (nowMs : Int) (now : Nat) :
    intent.Advances (intent.applyGlobalEvent deriveDeviceIdForName stretch
      event nowMs now) := by
  unfold applyGlobalEvent
  split
  · exact .of_same rfl rfl
  · exact .refl intent

theorem forwardPlayerEvent_advances (intent : PlaybackIntent)
    (event : PlayerEvent) (nowMs : Int) (now : Nat) :
    intent.Advances (intent.forwardPlayerEvent deriveDeviceIdForName stretch
      defaultDeviceName event nowMs now).1 := by
  have revoked := intent.revokeOnHandOff_advances event
  unfold forwardPlayerEvent
  generalize intent.revokeOnHandOff event = afterRevocation at revoked ⊢
  dsimp only
  split
  · exact revoked.trans (.of_same rfl rfl)
  · exact (revoked.trans (reclaimTransport_advances _ event)).trans
      (applyGlobalEvent_advances _ _ _ event nowMs now)

theorem probePlayerHealth_advances (intent : PlaybackIntent)
    (connected reconnectInFlight : Bool) (now : Nat) :
    intent.Advances (intent.probePlayerHealth deriveDeviceIdForName stretch
      defaultDeviceName connected reconnectInFlight now).1 :=
  .of_same rfl rfl

theorem handleAudioStall_advances (intent : PlaybackIntent)
    (reconnectInFlight : Bool) (nowMs : Int) (now : Nat) :
    intent.Advances (intent.handleAudioStall deriveDeviceIdForName stretch
      defaultDeviceName reconnectInFlight nowMs now).1 := by
  unfold handleAudioStall
  split
  · exact .refl intent
  · exact .of_same rfl rfl

/-- A guard that is still wanted saw the current mutation sequence. -/
theorem stillWanted_seq {intent : PlaybackIntent}
    {guard : AutomaticReconnectGuard} {deviceName : String} {now : Nat}
    (wanted : intent.stillWanted deriveDeviceIdForName stretch guard
      deviceName now = true) :
    intent.mutationSeq = guard.capturedSeq := by
  unfold stillWanted at wanted
  split at wanted
  · cases wanted
  · rename_i same
    simpa using same

end PlaybackIntent

end

end Spotuify
