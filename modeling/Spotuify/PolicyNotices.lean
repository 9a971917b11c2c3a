import Spotuify.KeyedChanges
import Spotuify.PlayerPolicies
import Spotuify.SortedMaps
import Mathlib.Data.String.Basic

/-!
# Policy notices from the daemon to the terminal client

The daemon publishes an event when a provider policy becomes active and one
when it is cleared.  A client learns the policies from three sources: the
snapshot it is sent when it subscribes, the events published from then on, and
the seeds it asks for over a connection of its own.  A seed is dropped when an
event was applied since the request for it was made.  The broadcast may skip
events for a slow subscriber, and a connection may end and be replaced while
its last events still wait in the client's channel.
-/

namespace Spotuify

instance : LinearOrder ProviderId :=
  LinearOrder.lift' ProviderId.value fun first second same => by
    cases first
    cases second
    exact congrArg _ same

structure ProviderPolicyNotice where
  provider : ProviderId
  reason : String
  deriving DecidableEq

/-- The entries of a map of reasons as notices. -/
def noticesOf (reasons : SortedMap ProviderId String) :
    List ProviderPolicyNotice :=
  reasons.entries.map fun entry => ⟨entry.1, entry.2⟩

inductive PolicyNoticeEvent where
  | providerPolicy (notice : ProviderPolicyNotice)
  | providerPolicyCleared (notice : ProviderPolicyNotice)
  deriving DecidableEq

def PolicyNoticeEvent.change : PolicyNoticeEvent → KeyedChange ProviderId String
  | .providerPolicy notice => .put notice.provider notice.reason
  | .providerPolicyCleared notice => .drop notice.provider notice.reason

/-- The daemon's policies with the reasons of the active ones in the order of
their providers. -/
structure ListedPolicies where
  state : PlayerPolicyState
  reasons : SortedMap ProviderId String
  agrees : ∀ provider, reasons.get? provider =
    (state.active provider).map ActivePlayerPolicy.reason

namespace ListedPolicies

def initial : ListedPolicies where
  state := .initial
  reasons := .empty
  agrees := fun _ => rfl

variable (sanitize : String → String) (policies : ListedPolicies)

/-- List one provider anew. -/
def relist (reasons : SortedMap ProviderId String)
    (active : Option ActivePlayerPolicy) (provider : ProviderId) :
    SortedMap ProviderId String :=
  active.elim (reasons.erase provider) fun policy =>
    reasons.insert provider policy.reason

theorem get?_relist {reasons : SortedMap ProviderId String}
    {before after : ProviderId → Option ActivePlayerPolicy}
    {provider : ProviderId}
    (agrees : ∀ other, reasons.get? other =
      (before other).map ActivePlayerPolicy.reason)
    (others : ∀ other, other ≠ provider → after other = before other)
    (other : ProviderId) :
    (relist reasons (after provider) provider).get? other =
      (after other).map ActivePlayerPolicy.reason := by
  by_cases same : other = provider
  · subst same
    cases after other <;> simp [relist]
  · rw [others other same, ← agrees other]
    cases after provider <;> simp [relist, same]

/-- A report concerns the policy of its own provider only. -/
theorem emitForProvider_other (state : PlayerPolicyState)
    (provider : ProviderId) (reason : String) (now : Nat) {other : ProviderId}
    (different : other ≠ provider) :
    (state.emitForProvider sanitize provider reason now).1.active other =
      state.active other := by
  by_cases stale :
      state.isStaleRepeat provider (sanitize reason) now = true
  · rw [PlayerPolicyState.emitForProvider_of_stale stale]
  · rw [Bool.not_eq_true] at stale
    rw [(PlayerPolicyState.emitForProvider_of_fresh stale).1]
    exact Function.update_of_ne different _ _

/-- `emit_for_provider` with the event it publishes.  The emitter sanitizes
the reason of the event once more. -/
def emitForProvider (provider : ProviderId) (reason : String) (now : Nat) :
    ListedPolicies × List PolicyNoticeEvent :=
  let emitted := policies.state.emitForProvider sanitize provider reason now
  ({ state := emitted.1
     reasons := relist policies.reasons (emitted.1.active provider) provider
     agrees := get?_relist policies.agrees fun _ different =>
       emitForProvider_other sanitize policies.state provider reason now
         different },
    if emitted.2 then
      [.providerPolicy ⟨provider, sanitize (sanitize reason)⟩]
    else [])

/-- `clear_if_unchanged` with the event it publishes, which names the reason
that was active. -/
def clearIfUnchanged (barrier : PlayerPolicyBarrier) :
    ListedPolicies × List PolicyNoticeEvent :=
  let cleared := policies.state.clearIfUnchanged barrier
  ({ state := cleared.1
     reasons := relist policies.reasons (cleared.1.active barrier.provider)
       barrier.provider
     agrees := get?_relist policies.agrees fun _ different =>
       (PlayerPolicyState.clearIfUnchanged_other policies.state barrier
         different).1 },
    if cleared.2 then
      ((policies.reasons.get? barrier.provider).map fun reason =>
        PolicyNoticeEvent.providerPolicyCleared
          ⟨barrier.provider, sanitize reason⟩).toList
    else [])

/-- `active`. -/
def active : List ProviderPolicyNotice :=
  noticesOf policies.reasons

end ListedPolicies

/-- The part of the client's state that shows provider policies.  Times are
those of the clock that all parties share. -/
structure PolicyView where
  error : Option String
  activeProviderPolicies : SortedMap ProviderId String
  dismissedProviderPolicies : List ProviderPolicyNotice
  providerPolicyUpdatedAt : Option Nat
  latestSeedGeneration : Nat
  latestSeedRequestedGeneration : Nat

def providerPolicyError (provider : ProviderId) (reason : String) : String :=
  "Local playback unavailable for provider `" ++ provider.value ++ "` — " ++
    reason ++ ". Browse and remote control still work."

namespace ProviderPolicyNotice

def errorText (notice : ProviderPolicyNotice) : String :=
  providerPolicyError notice.provider notice.reason

end ProviderPolicyNotice

namespace PolicyView

def initial : PolicyView where
  error := none
  activeProviderPolicies := .empty
  dismissedProviderPolicies := []
  providerPolicyUpdatedAt := none
  latestSeedGeneration := 0
  latestSeedRequestedGeneration := 0

variable (view : PolicyView)

def nextVisibleProviderPolicy : Option ProviderPolicyNotice :=
  (noticesOf view.activeProviderPolicies).find? fun notice =>
    notice ∉ view.dismissedProviderPolicies

/-- The dismissed notices without the one that another reason replaces. -/
def dismissedAfter (notice : ProviderPolicyNotice) :
    List ProviderPolicyNotice :=
  match view.activeProviderPolicies.get? notice.provider with
  | some previous =>
    if previous ≠ notice.reason then
      view.dismissedProviderPolicies.filter (· ≠ ⟨notice.provider, previous⟩)
    else view.dismissedProviderPolicies
  | none => view.dismissedProviderPolicies

def showProviderPolicy (notice : ProviderPolicyNotice) : PolicyView :=
  let shown : PolicyView :=
    { view with
      activeProviderPolicies :=
        view.activeProviderPolicies.insert notice.provider notice.reason
      dismissedProviderPolicies := view.dismissedAfter notice }
  if notice ∈ shown.dismissedProviderPolicies then shown
  else { shown with error := some notice.errorText }

/-- Show the next policy that is not dismissed, or no error. -/
def showNextVisible : PolicyView :=
  { view with
    error := view.nextVisibleProviderPolicy.map ProviderPolicyNotice.errorText }

def clearProviderPolicy (notice : ProviderPolicyNotice) : PolicyView :=
  if view.activeProviderPolicies.get? notice.provider ≠ some notice.reason then
    view
  else
    let cleared : PolicyView :=
      { view with
        activeProviderPolicies :=
          view.activeProviderPolicies.erase notice.provider
        dismissedProviderPolicies :=
          view.dismissedProviderPolicies.filter (· ≠ notice) }
    if view.error = some notice.errorText then cleared.showNextVisible
    else cleared

def reconcileProviderPolicies (policies : List ProviderPolicyNotice) :
    PolicyView :=
  let previous := noticesOf view.activeProviderPolicies
  let incoming := SortedMap.ofEntries
    (policies.map fun notice => (notice.provider, notice.reason))
  let displayedPrevious :=
    previous.any fun notice => view.error = some notice.errorText
  let gone := previous.filter fun notice =>
    incoming.get? notice.provider ≠ some notice.reason
  let reconciled : PolicyView :=
    { view with
      dismissedProviderPolicies :=
        view.dismissedProviderPolicies.filter (· ∉ gone)
      activeProviderPolicies := incoming }
  if displayedPrevious || view.error.isNone then reconciled.showNextVisible
  else reconciled

def dismissProviderPolicyError : PolicyView :=
  match (noticesOf view.activeProviderPolicies).find? fun notice =>
      view.error = some notice.errorText with
  | some notice =>
    { view with
      dismissedProviderPolicies :=
        notice :: view.dismissedProviderPolicies.filter (· ≠ notice) }
  | none => view

/-- Escape, Enter or q while an error is shown. -/
def dismissError : PolicyView :=
  if view.error.isSome then
    { view.dismissProviderPolicyError with error := none }
  else view

def applyEvent (now : Nat) (event : PolicyNoticeEvent) : PolicyView :=
  let updated : PolicyView := { view with providerPolicyUpdatedAt := some now }
  match event with
  | .providerPolicy notice => updated.showProviderPolicy notice
  | .providerPolicyCleared notice => updated.clearProviderPolicy notice

def seedStarted (generation : Nat) : PolicyView :=
  { view with
    latestSeedRequestedGeneration :=
      max view.latestSeedRequestedGeneration generation }

/-- A seed is refused once a later one was requested or applied. -/
def refusesSeed (generation : Nat) : Bool :=
  decide (generation < view.latestSeedRequestedGeneration) ||
    decide (generation ≤ view.latestSeedGeneration)

/-- An event was applied since the time. -/
def isStale (fetchedAt : Nat) : Bool :=
  view.providerPolicyUpdatedAt.any fun updatedAt => updatedAt ≥ fetchedAt

/-- `apply_seed`, as far as it concerns policies. -/
def applySeed (generation : Nat) (policies : Option (List ProviderPolicyNotice))
    (fetchedAt : Nat) : PolicyView :=
  if view.refusesSeed generation then view
  else
    let accepted : PolicyView :=
      { view with
        latestSeedRequestedGeneration :=
          max view.latestSeedRequestedGeneration generation
        latestSeedGeneration := generation }
    match policies with
    | some policies =>
      if accepted.isStale fetchedAt then accepted
      else accepted.reconcileProviderPolicies policies
    | none => accepted

variable {view} {notice : ProviderPolicyNotice} {event : PolicyNoticeEvent}

@[simp]
theorem showProviderPolicy_active :
    (view.showProviderPolicy notice).activeProviderPolicies =
      view.activeProviderPolicies.insert notice.provider notice.reason := by
  simp only [showProviderPolicy]
  split <;> rfl

theorem clearProviderPolicy_active :
    (view.clearProviderPolicy notice).activeProviderPolicies =
      if view.activeProviderPolicies.get? notice.provider =
          some notice.reason then
        view.activeProviderPolicies.erase notice.provider
      else view.activeProviderPolicies := by
  unfold clearProviderPolicy
  by_cases isActive : view.activeProviderPolicies.get? notice.provider =
      some notice.reason
  · rw [if_neg (not_not.mpr isActive), if_pos isActive]
    dsimp only
    split <;> rfl
  · rw [if_pos isActive, if_neg isActive]

/-- An event changes what the client holds as the daemon's log does. -/
theorem applyEvent_get? (now : Nat) (provider : ProviderId) :
    (view.applyEvent now event).activeProviderPolicies.get? provider =
      KeyedChange.valueStep provider
        (view.activeProviderPolicies.get? provider) event.change := by
  cases event with
  | providerPolicy notice =>
    rw [applyEvent, showProviderPolicy_active, SortedMap.get?_insert,
      PolicyNoticeEvent.change, KeyedChange.valueStep]
    by_cases same : notice.provider = provider
    · rw [if_pos same, if_pos same.symm]
    · rw [if_neg same, if_neg (Ne.symm same)]
  | providerPolicyCleared notice =>
    rw [applyEvent, clearProviderPolicy_active, PolicyNoticeEvent.change,
      KeyedChange.valueStep]
    by_cases same : notice.provider = provider
    · subst same
      split <;> simp_all
    · have unchanged : ∀ after : SortedMap ProviderId String,
          after = view.activeProviderPolicies.erase notice.provider ∨
            after = view.activeProviderPolicies →
          after.get? provider = view.activeProviderPolicies.get? provider := by
        rintro after (rfl | rfl)
        · rw [SortedMap.get?_erase, if_neg (Ne.symm same)]
        · rfl
      rw [if_neg (show ¬ (notice.provider = provider ∧ _) from
        fun dropped => same dropped.1)]
      apply unchanged
      split
      · exact Or.inl rfl
      · exact Or.inr rfl

@[simp]
theorem showProviderPolicy_updatedAt :
    (view.showProviderPolicy notice).providerPolicyUpdatedAt =
      view.providerPolicyUpdatedAt := by
  simp only [showProviderPolicy]
  split <;> rfl

@[simp]
theorem applyEvent_updatedAt (now : Nat) :
    (view.applyEvent now event).providerPolicyUpdatedAt = some now := by
  cases event with
  | providerPolicy notice => simp [applyEvent]
  | providerPolicyCleared notice =>
    simp only [applyEvent, clearProviderPolicy]
    split
    · rfl
    · split <;> rfl

theorem reconcileProviderPolicies_active
    (reasons : SortedMap ProviderId String) :
    (view.reconcileProviderPolicies
      (noticesOf reasons)).activeProviderPolicies = reasons := by
  have entries : (noticesOf reasons).map
      (fun notice => (notice.provider, notice.reason)) = reasons.entries := by
    simp [noticesOf, Function.comp_def]
  unfold reconcileProviderPolicies
  rw [entries, SortedMap.ofEntries_entries]
  dsimp only
  split <;> rfl

@[simp]
theorem reconcileProviderPolicies_updatedAt
    (policies : List ProviderPolicyNotice) :
    (view.reconcileProviderPolicies policies).providerPolicyUpdatedAt =
      view.providerPolicyUpdatedAt := by
  simp only [reconcileProviderPolicies]
  split <;> rfl

theorem applySeed_updatedAt (generation fetchedAt : Nat)
    (policies : Option (List ProviderPolicyNotice)) :
    (view.applySeed generation policies fetchedAt).providerPolicyUpdatedAt =
      view.providerPolicyUpdatedAt := by
  unfold applySeed
  split
  · rfl
  · cases policies with
    | none => rfl
    | some policies =>
      dsimp only
      split <;> simp

/-- A seed that is refused, stale or empty leaves the policies as they are. -/
theorem applySeed_active_of_not {generation fetchedAt : Nat}
    {policies : Option (List ProviderPolicyNotice)}
    (notTaken : policies = none ∨ view.refusesSeed generation = true ∨
      view.isStale fetchedAt = true) :
    (view.applySeed generation policies fetchedAt).activeProviderPolicies =
      view.activeProviderPolicies := by
  unfold applySeed
  split
  · rfl
  · next accepted =>
    cases policies with
    | none => rfl
    | some policies =>
      rcases notTaken with isNone | refused | stale
      · cases isNone
      · exact absurd refused accepted
      · dsimp only
        rw [if_pos]
        exact stale

theorem applySeed_active {generation fetchedAt : Nat}
    (accepted : view.refusesSeed generation = false)
    (fresh : view.isStale fetchedAt = false)
    (reasons : SortedMap ProviderId String) :
    (view.applySeed generation (some (noticesOf reasons))
      fetchedAt).activeProviderPolicies = reasons := by
  unfold applySeed
  rw [if_neg (by simp [accepted])]
  dsimp only
  rw [if_neg]
  · exact reconcileProviderPolicies_active reasons
  · rw [Bool.not_eq_true]
    exact fresh

theorem dismissError_active :
    view.dismissError.activeProviderPolicies =
      view.activeProviderPolicies := by
  unfold dismissError dismissProviderPolicyError
  split
  · split <;> rfl
  · rfl

theorem dismissError_updatedAt :
    view.dismissError.providerPolicyUpdatedAt =
      view.providerPolicyUpdatedAt := by
  unfold dismissError dismissProviderPolicyError
  split
  · split <;> rfl
  · rfl

/-- The notice of a policy that the client holds as active. -/
def IsActive (view : PolicyView) (notice : ProviderPolicyNotice) : Prop :=
  view.activeProviderPolicies.get? notice.provider = some notice.reason

/-- Only active policies are dismissed, and a policy on display is active and
not dismissed. -/
structure Sound (view : PolicyView) : Prop where
  dismissedActive : ∀ notice ∈ view.dismissedProviderPolicies,
    view.IsActive notice
  displayed : ∀ notice : ProviderPolicyNotice,
    view.error = some notice.errorText →
      ∃ shown : ProviderPolicyNotice, shown.errorText = notice.errorText ∧
        view.IsActive shown ∧ shown ∉ view.dismissedProviderPolicies

theorem mem_noticesOf {reasons : SortedMap ProviderId String} :
    notice ∈ noticesOf reasons ↔
      reasons.get? notice.provider = some notice.reason := by
  rw [SortedMap.get?_eq_some, noticesOf, List.mem_map]
  constructor
  · rintro ⟨entry, member, rfl⟩
    exact member
  · intro member
    exact ⟨(notice.provider, notice.reason), member, rfl⟩

theorem Sound.showNextVisible
    (dismissedActive : ∀ notice ∈ view.dismissedProviderPolicies,
      view.IsActive notice) : view.showNextVisible.Sound where
  dismissedActive := dismissedActive
  displayed := by
    intro notice displays
    obtain ⟨shown, isNext, sameText⟩ := Option.map_eq_some_iff.mp displays
    refine ⟨shown, sameText, ?_, ?_⟩
    · exact mem_noticesOf.mp (List.mem_of_find?_eq_some isNext)
    · have visible := List.find?_some isNext
      exact of_decide_eq_true visible

theorem mem_dismissedAfter {other : ProviderPolicyNotice}
    (sound : view.Sound) (member : other ∈ view.dismissedAfter notice) :
    other ∈ view.dismissedProviderPolicies ∧
      (other.provider = notice.provider → other = notice) := by
  unfold dismissedAfter at member
  cases isActive : view.activeProviderPolicies.get? notice.provider with
  | none =>
    simp only [isActive] at member
    refine ⟨member, fun same => ?_⟩
    have otherActive := sound.dismissedActive other member
    rw [IsActive, same, isActive] at otherActive
    cases otherActive
  | some previous =>
    have reasonOf : other ∈ view.dismissedProviderPolicies →
        other.provider = notice.provider → other.reason = previous := by
      intro dismissed same
      have otherActive := sound.dismissedActive other dismissed
      rw [IsActive, same, isActive] at otherActive
      exact (Option.some.inj otherActive).symm
    simp only [isActive] at member
    by_cases replaced : previous = notice.reason
    · rw [if_neg (not_not.mpr replaced)] at member
      refine ⟨member, fun same => ?_⟩
      have reason := reasonOf member same
      cases other
      cases notice
      simp_all
    · rw [if_pos replaced, List.mem_filter, decide_eq_true_eq] at member
      refine ⟨member.1, fun same => absurd ?_ member.2⟩
      have reason := reasonOf member.1 same
      cases other
      simp_all

theorem Sound.showProviderPolicy (sound : view.Sound)
    (notice : ProviderPolicyNotice) :
    (view.showProviderPolicy notice).Sound := by
  have insertActive : ∀ other : ProviderPolicyNotice,
      (other.provider = notice.provider → other = notice) →
      (other.provider ≠ notice.provider → view.IsActive other) →
      (view.activeProviderPolicies.insert notice.provider
        notice.reason).get? other.provider = some other.reason := by
    intro other isNotice isOther
    rw [SortedMap.get?_insert]
    by_cases same : other.provider = notice.provider
    · rw [if_pos same, isNotice same]
    · rw [if_neg same]
      exact isOther same
  have dismissedActive : ∀ other ∈ view.dismissedAfter notice,
      (view.activeProviderPolicies.insert notice.provider
        notice.reason).get? other.provider = some other.reason := by
    intro other member
    obtain ⟨dismissed, isNotice⟩ := mem_dismissedAfter sound member
    exact insertActive other isNotice fun _ =>
      sound.dismissedActive other dismissed
  simp only [PolicyView.showProviderPolicy]
  by_cases dismissed : notice ∈ view.dismissedAfter notice
  · rw [if_pos dismissed]
    refine ⟨dismissedActive, ?_⟩
    intro displayed displays
    obtain ⟨shown, sameText, isActive, notDismissed⟩ :=
      sound.displayed displayed displays
    have wasDismissed := (mem_dismissedAfter sound dismissed).1
    refine ⟨shown, sameText, ?_, fun member =>
      notDismissed (mem_dismissedAfter sound member).1⟩
    apply insertActive shown _ fun _ => isActive
    intro same
    have noticeActive := sound.dismissedActive notice wasDismissed
    rw [IsActive, ← same, isActive] at noticeActive
    have sameReason := Option.some.inj noticeActive
    cases shown
    cases notice
    simp_all
  · rw [if_neg dismissed]
    refine ⟨dismissedActive, ?_⟩
    intro displayed displays
    refine ⟨notice, Option.some.inj displays, ?_, dismissed⟩
    exact insertActive notice (fun _ => rfl) fun different =>
      absurd rfl different

theorem Sound.clearProviderPolicy (sound : view.Sound)
    (notice : ProviderPolicyNotice) :
    (view.clearProviderPolicy notice).Sound := by
  unfold PolicyView.clearProviderPolicy
  by_cases isActive : view.activeProviderPolicies.get? notice.provider =
      some notice.reason
  case neg =>
    rw [if_pos isActive]
    exact sound
  have eraseActive : ∀ other : ProviderPolicyNotice, other ≠ notice →
      view.IsActive other →
      (view.activeProviderPolicies.erase notice.provider).get?
        other.provider = some other.reason := by
    intro other different otherActive
    rw [SortedMap.get?_erase, if_neg]
    · exact otherActive
    · intro same
      rw [IsActive, same, isActive] at otherActive
      have sameReason := Option.some.inj otherActive
      cases other
      cases notice
      simp_all
  have dismissedActive : ∀ other ∈
      view.dismissedProviderPolicies.filter (· ≠ notice),
      (view.activeProviderPolicies.erase notice.provider).get?
        other.provider = some other.reason := by
    intro other member
    rw [List.mem_filter, decide_eq_true_eq] at member
    exact eraseActive other member.2 (sound.dismissedActive other member.1)
  rw [if_neg (not_not.mpr isActive)]
  dsimp only
  by_cases displays : view.error = some notice.errorText
  · rw [if_pos displays]
    exact Sound.showNextVisible dismissedActive
  · rw [if_neg displays]
    refine ⟨dismissedActive, ?_⟩
    intro displayed displaysOther
    obtain ⟨shown, sameText, shownActive, notDismissed⟩ :=
      sound.displayed displayed displaysOther
    refine ⟨shown, sameText, eraseActive shown ?_ shownActive, ?_⟩
    · rintro rfl
      exact displays (displaysOther.trans (congrArg some sameText.symm))
    · intro member
      exact notDismissed (List.mem_of_mem_filter member)

theorem Sound.reconcileProviderPolicies (sound : view.Sound)
    (policies : List ProviderPolicyNotice) :
    (view.reconcileProviderPolicies policies).Sound := by
  simp only [PolicyView.reconcileProviderPolicies]
  generalize SortedMap.ofEntries (policies.map fun notice =>
    (notice.provider, notice.reason)) = incoming
  have dismissedActive : ∀ notice ∈ view.dismissedProviderPolicies.filter
      (· ∉ (noticesOf view.activeProviderPolicies).filter fun notice =>
        incoming.get? notice.provider ≠ some notice.reason),
      incoming.get? notice.provider = some notice.reason := by
    intro notice member
    rw [List.mem_filter, decide_eq_true_eq, List.mem_filter,
      decide_eq_true_eq] at member
    by_contra gone
    exact member.2
      ⟨mem_noticesOf.mpr (sound.dismissedActive notice member.1), gone⟩
  split
  · exact Sound.showNextVisible dismissedActive
  · next noneDisplayed =>
    refine ⟨dismissedActive, ?_⟩
    intro notice displays
    exfalso
    obtain ⟨shown, sameText, isActive, _⟩ := sound.displayed notice displays
    apply noneDisplayed
    rw [Bool.or_eq_true, List.any_eq_true]
    refine Or.inl ⟨shown, mem_noticesOf.mpr isActive, ?_⟩
    rw [decide_eq_true_eq, sameText]
    exact displays

theorem Sound.dismissError (sound : view.Sound) : view.dismissError.Sound := by
  unfold PolicyView.dismissError dismissProviderPolicyError
  split
  case isFalse => exact sound
  case isTrue =>
    split
    · next found isFound =>
      refine ⟨?_, fun _ displays => absurd displays.symm
        (Option.some_ne_none _)⟩
      intro notice member
      rcases List.mem_cons.mp member with rfl | old
      · exact mem_noticesOf.mp (List.mem_of_find?_eq_some isFound)
      · exact sound.dismissedActive notice (List.mem_of_mem_filter old)
    · exact ⟨sound.dismissedActive, fun _ displays =>
        absurd displays.symm (Option.some_ne_none _)⟩

theorem Sound.applyEvent (sound : view.Sound) (now : Nat)
    (event : PolicyNoticeEvent) : (view.applyEvent now event).Sound := by
  have updated :
      { view with providerPolicyUpdatedAt := some now : PolicyView }.Sound :=
    ⟨sound.dismissedActive, sound.displayed⟩
  cases event with
  | providerPolicy notice => exact updated.showProviderPolicy notice
  | providerPolicyCleared notice => exact updated.clearProviderPolicy notice

theorem Sound.applySeed (sound : view.Sound) (generation : Nat)
    (policies : Option (List ProviderPolicyNotice)) (fetchedAt : Nat) :
    (view.applySeed generation policies fetchedAt).Sound := by
  have accepted : ∀ requested applied : Nat,
      { view with
        latestSeedRequestedGeneration := requested
        latestSeedGeneration := applied : PolicyView }.Sound :=
    fun _ _ => ⟨sound.dismissedActive, sound.displayed⟩
  unfold PolicyView.applySeed
  split
  · exact sound
  · cases policies with
    | none => exact accepted _ _
    | some policies =>
      dsimp only
      split
      · exact accepted _ _
      · exact (accepted _ _).reconcileProviderPolicies policies

end PolicyView
end Spotuify
