import Spotuify.PlaybackClock

/-!
# Merging a fetched queue with the cached one

A provider reports only the first upcoming items.  What the cache knows beyond
the last reported one is appended again, except what is reported already.
-/

namespace Spotuify

structure Queue where
  currentlyPlaying : Option MediaItem
  items : List MediaItem
  sessionActive : Bool
  asOfMs : Int
  deriving DecidableEq

def anchorMissPreserveWindowMs : Int := 10000

/-- Where the cached items after the anchor start. -/
def tailStart (cached : Queue) (anchor : String) : Option Nat :=
  if cached.currentlyPlaying.any fun item => item.uri == anchor then some 0
  else
    (cached.items.findIdx? fun item => item.uri == anchor).map fun position =>
      position + 1

def reattachCachedQueueTail (queue : Queue) (anchorUri : Option String)
    (cached : Queue) (shuffle : Bool) (nowMs : Int) : Queue :=
  if shuffle then queue
  else
    match anchorUri with
    | none => queue
    | some anchor =>
      match tailStart cached anchor with
      | none =>
        let cacheIsFresh :=
          saturatingSub nowMs cached.asOfMs < anchorMissPreserveWindowMs
        if queue.items.isEmpty = true ∧ cacheIsFresh ∧
            cached.items.isEmpty = false then
          let currentUri := queue.currentlyPlaying.map MediaItem.uri
          { queue with
            items := cached.items.filter fun item => some item.uri ≠ currentUri
            sessionActive := true
            asOfMs := nowMs }
        else queue
      | some start =>
        let existing := queue.items.map MediaItem.uri
        let tail := (cached.items.drop start).filter fun item =>
          item.uri ∉ existing
        { queue with
          items := queue.items ++ tail
          asOfMs := nowMs }

/-- The last upcoming item of the raw fetch, or else its playing item. -/
def queueTailAnchor (rawFetched : Queue) : Option String :=
  (rawFetched.items.getLast?.map MediaItem.uri).orElse fun _ =>
    rawFetched.currentlyPlaying.map MediaItem.uri

/-- The URIs of the playing and the upcoming items. -/
def Queue.uris (queue : Queue) : List String :=
  queue.currentlyPlaying.toList.map MediaItem.uri ++
    queue.items.map MediaItem.uri

/-- No URI is queued twice. -/
def Queue.IsSet (queue : Queue) : Prop := queue.uris.Nodup

instance (queue : Queue) : Decidable queue.IsSet :=
  inferInstanceAs (Decidable queue.uris.Nodup)

/-- The merged queue is a set that starts with the fetched items and goes on
with cached ones in their order. -/
structure MergesAsSet (fetched cached merged : Queue) : Prop where
  isSet : merged.IsSet
  currentlyPlaying : merged.currentlyPlaying = fetched.currentlyPlaying
  items : ∃ appended, merged.items = fetched.items ++ appended ∧
    appended.Sublist cached.items

/-- The playing item is among the cached items after the anchor. -/
def PlaysCachedTail (fetched cached : Queue) (anchorUri : Option String)
    (shuffle : Bool) : Prop :=
  shuffle = false ∧ ∃ anchor start current, anchorUri = some anchor ∧
    tailStart cached anchor = some start ∧
    fetched.currentlyPlaying = some current ∧
    current.uri ∈ (cached.items.drop start).map MediaItem.uri

section

variable {fetched cached : Queue} {anchorUri : Option String}
  {shuffle : Bool} {nowMs : Int}

theorem mergesAsSet_refl (isSet : fetched.IsSet) :
    MergesAsSet fetched cached fetched :=
  ⟨isSet, rfl, [], (List.append_nil _).symm, List.nil_sublist _⟩

theorem Queue.isSet_iff (queue : Queue) :
    queue.IsSet ↔ (queue.items.map MediaItem.uri).Nodup ∧
      ∀ current, queue.currentlyPlaying = some current →
        current.uri ∉ queue.items.map MediaItem.uri := by
  rw [IsSet, uris]
  cases queue.currentlyPlaying with
  | none => simp
  | some current =>
    simp [List.nodup_cons]
    exact and_comm

/-- A spliced tail adds items that are not fetched. -/
theorem nodup_append_tail {items tail : List MediaItem}
    (itemsNodup : (items.map MediaItem.uri).Nodup)
    (tailNodup : (tail.map MediaItem.uri).Nodup) :
    ((items ++ tail.filter fun item => item.uri ∉ items.map MediaItem.uri).map
      MediaItem.uri).Nodup := by
  rw [List.map_append]
  refine List.Nodup.append itemsNodup ?_ ?_
  · exact tailNodup.sublist (List.filter_sublist.map MediaItem.uri)
  · intro uri inItems inTail
    obtain ⟨item, member, rfl⟩ := List.mem_map.mp inTail
    have fresh := (List.mem_filter.mp member).2
    exact absurd inItems (of_decide_eq_true fresh)

/-- The splice after an anchor that the cache knows. -/
theorem reattachCachedQueueTail_of_start {anchor : String} {start : Nat}
    (unshuffled : shuffle = false) (anchored : anchorUri = some anchor)
    (starts : tailStart cached anchor = some start) :
    reattachCachedQueueTail fetched anchorUri cached shuffle nowMs =
      { fetched with
        items := fetched.items ++ (cached.items.drop start).filter fun item =>
          item.uri ∉ fetched.items.map MediaItem.uri
        asOfMs := nowMs } := by
  simp only [reattachCachedQueueTail, unshuffled, anchored, starts,
    Bool.false_eq_true, if_false]

/-- An anchor miss keeps the fetch or shows the cached items under it. -/
theorem mergesAsSet_of_miss {anchor : String} (fetchedIsSet : fetched.IsSet)
    (cachedIsSet : cached.IsSet) (unshuffled : shuffle = false)
    (anchored : anchorUri = some anchor)
    (misses : tailStart cached anchor = none) :
    MergesAsSet fetched cached
      (reattachCachedQueueTail fetched anchorUri cached shuffle nowMs) := by
  simp only [reattachCachedQueueTail, unshuffled, anchored, misses,
    Bool.false_eq_true, if_false]
  split
  · next preserves =>
    have nothingFetched : fetched.items = [] :=
      List.isEmpty_iff.mp preserves.1
    refine ⟨(Queue.isSet_iff _).mpr ⟨?_, ?_⟩, rfl, cached.items.filter fun item =>
      some item.uri ≠ fetched.currentlyPlaying.map MediaItem.uri, ?_,
      List.filter_sublist⟩
    · have cachedNodup := ((Queue.isSet_iff cached).mp cachedIsSet).1
      exact cachedNodup.sublist (List.filter_sublist.map MediaItem.uri)
    · intro current playing shown
      obtain ⟨item, member, same⟩ := List.mem_map.mp shown
      have differs := of_decide_eq_true (List.mem_filter.mp member).2
      apply differs
      rw [show fetched.currentlyPlaying = some current from playing]
      exact congrArg some same
    · rw [nothingFetched, List.nil_append]
  · exact mergesAsSet_refl fetchedIsSet

/-- A splice makes a set exactly if the playing item is not in the tail. -/
theorem mergesAsSet_of_start_iff {anchor : String} {start : Nat}
    (fetchedIsSet : fetched.IsSet) (cachedIsSet : cached.IsSet)
    (unshuffled : shuffle = false) (anchored : anchorUri = some anchor)
    (starts : tailStart cached anchor = some start) :
    MergesAsSet fetched cached
        (reattachCachedQueueTail fetched anchorUri cached shuffle nowMs) ↔
      ∀ current, fetched.currentlyPlaying = some current →
        current.uri ∉ (cached.items.drop start).map MediaItem.uri := by
  have fetchedSet := (Queue.isSet_iff fetched).mp fetchedIsSet
  have cachedNodup := ((Queue.isSet_iff cached).mp cachedIsSet).1
  rw [reattachCachedQueueTail_of_start unshuffled anchored starts]
  constructor
  · intro merges current playing inTail
    have mergedSet := ((Queue.isSet_iff _).mp merges.isSet).2 current playing
    obtain ⟨item, member, same⟩ := List.mem_map.mp inTail
    apply mergedSet
    refine List.mem_map.mpr ⟨item, List.mem_append_right _ ?_, same⟩
    refine List.mem_filter.mpr ⟨member, decide_eq_true ?_⟩
    rw [same]
    exact fetchedSet.2 current playing
  · intro notInTail
    refine ⟨(Queue.isSet_iff _).mpr ⟨?_, ?_⟩, rfl, _, rfl, ?_⟩
    · have tailNodup : ((cached.items.drop start).map MediaItem.uri).Nodup :=
        cachedNodup.sublist ((List.drop_sublist start _).map MediaItem.uri)
      exact nodup_append_tail fetchedSet.1 tailNodup
    · intro current playing shown
      rw [List.map_append] at shown
      rcases List.mem_append.mp shown with inFetched | inTail
      · exact fetchedSet.2 current playing inFetched
      · obtain ⟨item, member, same⟩ := List.mem_map.mp inTail
        exact notInTail current playing (List.mem_map.mpr
          ⟨item, (List.mem_filter.mp member).1, same⟩)
    · exact List.filter_sublist.trans (List.drop_sublist start _)

end

/-- Merging two sets makes a set that extends the fetched one, exactly if the
playing item is not among the cached items that are spliced in. -/
theorem reattachCachedQueueTail_mergesAsSet_iff
    (raw fetched cached : Queue) (shuffle : Bool) (nowMs : Int)
    (fetchedIsSet : fetched.IsSet) (cachedIsSet : cached.IsSet) :
    MergesAsSet fetched cached
        (reattachCachedQueueTail fetched (queueTailAnchor raw) cached shuffle
          nowMs) ↔
      ¬PlaysCachedTail fetched cached (queueTailAnchor raw) shuffle := by
  cases shuffled : shuffle with
  | true =>
    refine iff_of_true (mergesAsSet_refl fetchedIsSet) ?_
    rintro ⟨⟨⟩, -⟩
  | false =>
    cases anchored : queueTailAnchor raw with
    | none =>
      refine iff_of_true (mergesAsSet_refl fetchedIsSet) ?_
      rintro ⟨-, _, _, _, ⟨⟩, -⟩
    | some anchor =>
      cases starts : tailStart cached anchor with
      | none =>
        refine iff_of_true
          (mergesAsSet_of_miss fetchedIsSet cachedIsSet rfl rfl starts) ?_
        rintro ⟨-, other, start, _, ⟨⟩, startsAt, -⟩
        rw [starts] at startsAt
        cases startsAt
      | some start =>
        rw [mergesAsSet_of_start_iff fetchedIsSet cachedIsSet rfl rfl starts]
        constructor
        · rintro notInTail ⟨-, other, otherStart, current, ⟨⟩, startsAt,
            playing, inTail⟩
          rw [starts] at startsAt
          cases startsAt
          exact notInTail current playing inTail
        · intro notPlaysTail current playing inTail
          exact notPlaysTail ⟨rfl, anchor, start, current, rfl, starts, playing,
            inTail⟩

def plainQueue (currentlyPlaying : String) (items : List String) : Queue where
  currentlyPlaying := some (MediaItem.stub currentlyPlaying)
  items := items.map MediaItem.stub
  sessionActive := true
  asOfMs := 0

/-- A truncated fetch gets its tail back. -/
theorem truncatedFetch_mergesAsSet :
    MergesAsSet (plainQueue "c" ["n1"]) (plainQueue "c" ["n1", "n2"])
      (reattachCachedQueueTail (plainQueue "c" ["n1"])
        (queueTailAnchor (plainQueue "c" ["n1"]))
        (plainQueue "c" ["n1", "n2"]) false 100) := by
  refine (reattachCachedQueueTail_mergesAsSet_iff _ _ _ false 100 ?_ ?_).mpr ?_
  · decide +kernel
  · decide +kernel
  · rintro ⟨-, anchor, start, current, anchored, starts, playing, inTail⟩
    cases anchored
    cases playing
    have atEnd : start = 1 := Option.some.inj (starts.symm.trans (by decide +kernel))
    subst atEnd
    revert inTail
    decide +kernel

/-- The playing item comes back as an upcoming one. -/
theorem playingItem_queued_again :
    (plainQueue "x" ["a"]).IsSet ∧ (plainQueue "p" ["a", "x", "b"]).IsSet ∧
      ¬MergesAsSet (plainQueue "x" ["a"]) (plainQueue "p" ["a", "x", "b"])
        (reattachCachedQueueTail (plainQueue "x" ["a"])
          (queueTailAnchor (plainQueue "x" ["a"]))
          (plainQueue "p" ["a", "x", "b"]) false 100) := by
  refine ⟨?_, ?_, fun merges => ?_⟩
  · decide +kernel
  · decide +kernel
  · have isSet := merges.isSet
    revert isSet
    decide +kernel

end Spotuify
