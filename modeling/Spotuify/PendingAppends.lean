import Spotuify.QueueMerge
import Spotuify.OperationLog
import Mathlib.Data.List.Range
import Mathlib.Logic.Function.Basic

/-!
# Queue appends the provider does not show yet

A provider lists a queued item with a delay.  Until then the daemon shows the
item itself, behind the provider's queue.  Whether the provider lists it
already is told by the number of items of its URI.
-/

namespace Spotuify

structure PendingQueueAppend where
  provider : ProviderId
  item : MediaItem
  requiredOccurrence : Nat
  addedAtMs : Int
  deriving DecidableEq

def pendingQueueAppendTtlMs : Int := 5000

/-- The URIs an add is compared with: those of a live queue of an active
session, and none where there is no such queue. -/
def liveQueueUris : Option Queue → List String
  | some queue =>
    if queue.sessionActive then queue.items.map MediaItem.uri else []
  | none => []

/-- The kept items and the number of skipped ones. -/
def dedupQueueItems : List MediaItem → List String → List MediaItem × Nat
  | [], _ => ([], 0)
  | item :: items, seen =>
    if item.uri ∈ seen then
      let rest := dedupQueueItems items seen
      (rest.1, rest.2 + 1)
    else
      let rest := dedupQueueItems items (item.uri :: seen)
      (item :: rest.1, rest.2)

/-- Number each item by the occurrences of its URI so far. -/
def numberAppends (provider : ProviderId) (addedAtMs : Int) :
    (String → Nat) → List MediaItem → List PendingQueueAppend
  | _, [] => []
  | counts, item :: items =>
    let count := counts item.uri + 1
    ⟨provider, item, count, addedAtMs⟩ ::
      numberAppends provider addedAtMs
        (Function.update counts item.uri count) items

/-- How often an add takes a URI to be queued already. -/
def liveOccurrences (liveUris : List String) (uri : String) : Nat :=
  if uri ∈ liveUris then 1 else 0

def pendingQueueAppendsFor (provider : ProviderId) (liveUris : List String)
    (queuedItems : List MediaItem) (addedAtMs : Int) :
    List PendingQueueAppend :=
  numberAppends provider addedAtMs (liveOccurrences liveUris) queuedItems

/-- What the merge pushes onto a queue that holds the counted items. -/
def missingAppends :
    (String → Nat) → List PendingQueueAppend → List PendingQueueAppend
  | _, [] => []
  | counts, entry :: entries =>
    if counts entry.item.uri < entry.requiredOccurrence then
      entry :: missingAppends
        (Function.update counts entry.item.uri (counts entry.item.uri + 1))
        entries
    else missingAppends counts entries

def PendingQueueAppend.IsRetained (nowMs : Int) (entry : PendingQueueAppend) :
    Prop :=
  saturatingSub nowMs entry.addedAtMs ≤ pendingQueueAppendTtlMs

instance (nowMs : Int) : DecidablePred (PendingQueueAppend.IsRetained nowMs) :=
  fun _ => inferInstanceAs (Decidable (_ ≤ _))

/-- The number of upcoming items of a URI. -/
def Queue.copies (queue : Queue) (uri : String) : Nat :=
  (queue.items.map MediaItem.uri).count uri

/-- The queue with the appends it misses, whether there are any, and the
entries that stay. -/
def mergeQueuePendingAppends (provider : ProviderId) (queue : Queue)
    (pending : List PendingQueueAppend) (nowMs : Int) :
    Queue × Bool × List PendingQueueAppend :=
  let retained := pending.filter (PendingQueueAppend.IsRetained nowMs)
  if retained.isEmpty then (queue, false, retained)
  else
    let missing := missingAppends queue.copies
      (retained.filter fun entry => entry.provider = provider)
    let merged := !missing.isEmpty
    ({ queue with
        items := queue.items ++ missing.map PendingQueueAppend.item
        sessionActive := merged || queue.sessionActive
        asOfMs := if merged then nowMs else queue.asOfMs },
      merged, retained)

def trackPendingQueueAppends (pending : List PendingQueueAppend)
    (provider : ProviderId) (liveUris : List String)
    (queuedItems : List MediaItem) (addedAtMs : Int) :
    List PendingQueueAppend :=
  if queuedItems.isEmpty then pending
  else pending ++
    pendingQueueAppendsFor provider liveUris queuedItems addedAtMs

def overlayPendingQueueAppends (provider : ProviderId) (queue : Queue)
    (pending : List PendingQueueAppend) (nowMs : Int) :
    Queue × List PendingQueueAppend :=
  let (merged, _, retained) :=
    mergeQueuePendingAppends provider queue pending nowMs
  (merged, retained)

section Numbering

variable {provider : ProviderId} {addedAtMs : Int} {counts : String → Nat}
  {items : List MediaItem} {uri : String}

theorem of_mem_numberAppends {entry : PendingQueueAppend}
    (member : entry ∈ numberAppends provider addedAtMs counts items) :
    entry.provider = provider ∧ entry.addedAtMs = addedAtMs ∧
      entry.item ∈ items ∧ 0 < entry.requiredOccurrence := by
  induction items generalizing counts with
  | nil => cases member
  | cons item items ih =>
    rcases List.mem_cons.mp member with rfl | member
    · exact ⟨rfl, rfl, List.mem_cons_self, Nat.succ_pos _⟩
    · obtain ⟨ofProvider, addedAt, ofItems, positive⟩ := ih member
      exact ⟨ofProvider, addedAt, List.mem_cons_of_mem _ ofItems, positive⟩

/-- The items of a URI are numbered on from the count of it. -/
theorem numberAppends_filter_uri :
    ((numberAppends provider addedAtMs counts items).filter fun entry =>
        entry.item.uri = uri).map PendingQueueAppend.requiredOccurrence =
      List.range' (counts uri + 1)
        ((items.map MediaItem.uri).count uri) := by
  induction items generalizing counts with
  | nil => rfl
  | cons item items ih =>
    have rest := @ih (Function.update counts item.uri (counts item.uri + 1))
    by_cases sameUri : item.uri = uri
    · subst sameUri
      rw [Function.update_self] at rest
      simp only [numberAppends, decide_true, List.filter_cons_of_pos,
        List.map_cons, List.count_cons_self, List.range'_succ, rest]
    · rw [Function.update_of_ne (Ne.symm sameUri)] at rest
      simp only [numberAppends, sameUri, decide_false, Bool.false_eq_true,
        not_false_eq_true, List.filter_cons_of_neg, List.map_cons, rest]
      rw [List.count_cons_of_ne sameUri]

end Numbering

/-- No kept item is queued or kept twice. -/
theorem dedupQueueItems_nodup (items : List MediaItem) (seen : List String) :
    ((dedupQueueItems items seen).1.map MediaItem.uri).Nodup ∧
      ∀ item ∈ (dedupQueueItems items seen).1, item.uri ∉ seen := by
  induction items generalizing seen with
  | nil => simp [dedupQueueItems]
  | cons item items ih =>
    by_cases isSeen : item.uri ∈ seen
    · simp only [dedupQueueItems, isSeen, if_true]
      exact ih seen
    · obtain ⟨nodup, fresh⟩ := ih (item.uri :: seen)
      simp only [dedupQueueItems, isSeen, if_false]
      constructor
      · rw [List.map_cons, List.nodup_cons]
        refine ⟨fun again => ?_, nodup⟩
        obtain ⟨other, member, sameUri⟩ := List.mem_map.mp again
        exact fresh other member (sameUri ▸ List.mem_cons_self)
      · intro other member
        rcases List.mem_cons.mp member with rfl | member
        · exact isSeen
        · exact fun inSeen => fresh other member (List.mem_cons_of_mem _ inSeen)

section Merging

variable {provider : ProviderId} {queue : Queue} {nowMs : Int}
  {pending : List PendingQueueAppend} {counts : String → Nat}

theorem missingAppends_sublist (entries : List PendingQueueAppend) :
    (missingAppends counts entries).Sublist entries := by
  induction entries generalizing counts with
  | nil => exact .slnil
  | cons entry entries ih =>
    rw [missingAppends]
    split
    · exact ih.cons_cons entry
    · exact ih.cons entry

/-- After the merge each URI of an entry occurs. -/
theorem counted_or_missing {entries : List PendingQueueAppend}
    (positive : ∀ entry ∈ entries, 0 < entry.requiredOccurrence)
    {entry : PendingQueueAppend} (member : entry ∈ entries) :
    0 < counts entry.item.uri ∨
      ∃ missing ∈ missingAppends counts entries,
        missing.item.uri = entry.item.uri := by
  induction entries generalizing counts with
  | nil => cases member
  | cons head entries ih =>
    have headPositive := positive head List.mem_cons_self
    have restPositive : ∀ later ∈ entries, 0 < later.requiredOccurrence :=
      fun later inRest => positive later (List.mem_cons_of_mem _ inRest)
    rw [missingAppends]
    split
    case isTrue missing =>
      by_cases sameUri : head.item.uri = entry.item.uri
      · exact .inr ⟨head, List.mem_cons_self, sameUri⟩
      · have inRest : entry ∈ entries := by
          rcases List.mem_cons.mp member with rfl | inRest
          · exact absurd rfl sameUri
          · exact inRest
        rcases @ih (Function.update counts head.item.uri
          (counts head.item.uri + 1)) restPositive inRest with
          counted | ⟨later, isMissing, laterUri⟩
        · rw [Function.update_of_ne (Ne.symm sameUri)] at counted
          exact .inl counted
        · exact .inr ⟨later, List.mem_cons_of_mem _ isMissing, laterUri⟩
    case isFalse notMissing =>
      rcases List.mem_cons.mp member with rfl | inRest
      · exact .inl (by omega)
      · exact ih restPositive inRest

theorem overlay_currentlyPlaying :
    (overlayPendingQueueAppends provider queue pending nowMs).1.currentlyPlaying
      = queue.currentlyPlaying := by
  simp only [overlayPendingQueueAppends, mergeQueuePendingAppends]
  split <;> rfl

theorem overlay_items :
    (overlayPendingQueueAppends provider queue pending nowMs).1.items =
      queue.items ++ (missingAppends queue.copies
        ((pending.filter (PendingQueueAppend.IsRetained nowMs)).filter
          fun entry => entry.provider = provider)).map
            PendingQueueAppend.item := by
  simp only [overlayPendingQueueAppends, mergeQueuePendingAppends]
  split
  case isTrue noneRetained =>
    rw [List.isEmpty_iff.mp noneRetained]
    exact (List.append_nil _).symm
  case isFalse => rfl

theorem overlay_retained :
    (overlayPendingQueueAppends provider queue pending nowMs).2 =
      pending.filter (PendingQueueAppend.IsRetained nowMs) := by
  simp only [overlayPendingQueueAppends, mergeQueuePendingAppends]
  split <;> rfl

/-- What has expired stays expired. -/
theorem PendingQueueAppend.IsRetained.of_le {entry : PendingQueueAppend}
    {laterMs : Int} (later : nowMs ≤ laterMs)
    (retained : entry.IsRetained laterMs) : entry.IsRetained nowMs := by
  simp only [IsRetained, saturatingSub, pendingQueueAppendTtlMs] at *
  omega

end Merging

end Spotuify
