import Spotuify.GuardedMachine
import Spotuify.PendingAppends

/-!
# Histories of adds and provider queues

The daemon is seen together with the providers' queues: an accepted append
enters its provider's queue some time later, and the queue moves on by itself.
Beside the daemon's entries stands the log of all accepted appends with what
has become of them; the overlay is compared with the log.
-/

namespace Spotuify

/-- An accepted append, and whether its provider has listed it. -/
structure AcceptedAppend where
  append : PendingQueueAppend
  reflected : Bool
  deriving DecidableEq

structure AppendHistory where
  pending : List PendingQueueAppend
  accepted : List AcceptedAppend
  queues : ProviderId → Queue
  nowMs : Int

inductive AppendEvent where
  /-- The provider accepts the items; the live queue may fail to be read. -/
  | add (provider : ProviderId) (items : List MediaItem) (queueRead : Bool)
  /-- The provider lists the first append of the URI it has not listed. -/
  | reflect (provider : ProviderId) (uri : String) (position : Nat)
  /-- The next item of the provider starts to play. -/
  | play (provider : ProviderId)
  /-- The provider's queue changes otherwise. -/
  | replace (provider : ProviderId) (queue : Queue)
  | overlay (provider : ProviderId)
  | elapse (durationMs : Nat)

/-- An append the provider has not listed. -/
def AcceptedAppend.Awaits (provider : ProviderId) (uri : String)
    (accepted : AcceptedAppend) : Prop :=
  accepted.append.provider = provider ∧ accepted.append.item.uri = uri ∧
    accepted.reflected = false

instance (provider : ProviderId) (uri : String) :
    DecidablePred (AcceptedAppend.Awaits provider uri) :=
  fun _ => inferInstanceAs (Decidable (_ ∧ _))

/-- Mark the first awaited append of a URI. -/
def reflectFirst (provider : ProviderId) (uri : String) :
    List AcceptedAppend → Option (MediaItem × List AcceptedAppend)
  | [] => none
  | accepted :: rest =>
    if accepted.Awaits provider uri then
      some (accepted.append.item, { accepted with reflected := true } :: rest)
    else
      (reflectFirst provider uri rest).map fun (item, marked) =>
        (item, accepted :: marked)

/-- The queue with an item at a position, or at its end. -/
def Queue.list (queue : Queue) (position : Nat) (item : MediaItem) : Queue :=
  { queue with
    items := queue.items.take position ++ item :: queue.items.drop position }

/-- The queue after its next item has started to play. -/
def Queue.playNext (queue : Queue) : Queue :=
  { queue with
    currentlyPlaying := queue.items.head?
    items := queue.items.tail }

namespace AppendHistory

/-- The URIs an add is compared with. -/
def liveUris (history : AppendHistory) (provider : ProviderId)
    (queueRead : Bool) : List String :=
  liveQueueUris (if queueRead then some (history.queues provider) else none)

def setQueue (history : AppendHistory) (provider : ProviderId)
    (queue : Queue) : AppendHistory :=
  { history with queues := Function.update history.queues provider queue }

def add (history : AppendHistory) (provider : ProviderId)
    (items : List MediaItem) (queueRead : Bool) : AppendHistory :=
  let live := history.liveUris provider queueRead
  { history with
    pending :=
      trackPendingQueueAppends history.pending provider live items
        history.nowMs
    accepted := history.accepted ++
      (pendingQueueAppendsFor provider live items history.nowMs).map
        fun append => ⟨append, false⟩ }

/-- What the daemon shows for the provider's queue. -/
def shown (history : AppendHistory) (provider : ProviderId) : Queue :=
  (overlayPendingQueueAppends provider (history.queues provider)
    history.pending history.nowMs).1

def step (history : AppendHistory) : AppendEvent → Option AppendHistory
  | .add provider items queueRead => some (history.add provider items queueRead)
  | .reflect provider uri position =>
    (reflectFirst provider uri history.accepted).map fun (item, marked) =>
      { history.setQueue provider
          ((history.queues provider).list position item) with
        accepted := marked }
  | .play provider =>
    some (history.setQueue provider (history.queues provider).playNext)
  | .replace provider queue => some (history.setQueue provider queue)
  | .overlay provider =>
    some { history with
      pending :=
        (overlayPendingQueueAppends provider (history.queues provider)
          history.pending history.nowMs).2 }
  | .elapse durationMs =>
    some { history with nowMs := history.nowMs + durationMs }

/-- A daemon that has just started. -/
def start (queues : ProviderId → Queue) (nowMs : Int) : AppendHistory where
  pending := []
  accepted := []
  queues := queues
  nowMs := nowMs

/-- The accepted appends of the provider that have not expired. -/
def unexpired (history : AppendHistory) (provider : ProviderId) :
    List AcceptedAppend :=
  history.accepted.filter fun accepted =>
    accepted.append.provider = provider ∧
      accepted.append.IsRetained history.nowMs

/-- The daemon shows the provider's queue and then what the provider has not
listed, in the order of the adds. -/
def ShowsAwaited (history : AppendHistory) (provider : ProviderId) : Prop :=
  (history.shown provider).currentlyPlaying =
      (history.queues provider).currentlyPlaying ∧
    (history.shown provider).items = (history.queues provider).items ++
      ((history.unexpired provider).filter fun accepted =>
        accepted.reflected = false).map fun accepted => accepted.append.item

instance (history : AppendHistory) (provider : ProviderId) :
    Decidable (history.ShowsAwaited provider) :=
  inferInstanceAs (Decidable (_ ∧ _))

/-- The daemon shows the provider's queue and then nothing but unexpired
appends, in the order of the adds, and each of their URIs is shown. -/
structure ShowsUnexpired (history : AppendHistory) (provider : ProviderId) :
    Prop where
  currentlyPlaying : (history.shown provider).currentlyPlaying =
    (history.queues provider).currentlyPlaying
  items : ∃ appended : List AcceptedAppend,
    appended.Sublist (history.unexpired provider) ∧
      (history.shown provider).items = (history.queues provider).items ++
        appended.map fun accepted => accepted.append.item
  uris : ∀ accepted ∈ history.unexpired provider,
    accepted.append.item.uri ∈
      (history.shown provider).items.map MediaItem.uri

/-- No item of an unexpired append's URI leaves the queue, and none comes
before the append itself has. -/
def KeepsCopies (history : AppendHistory) (provider : ProviderId)
    (after : Queue) : Prop :=
  ∀ accepted ∈ history.unexpired provider,
    (history.queues provider).copies accepted.append.item.uri ≤
        after.copies accepted.append.item.uri ∧
      (accepted.reflected = false →
        after.copies accepted.append.item.uri =
          (history.queues provider).copies accepted.append.item.uri)

/-- No earlier append of an added URI is awaited, and the live queue tells
how many items of it there are. -/
def CountsCopies (history : AppendHistory) (provider : ProviderId)
    (items : List MediaItem) (queueRead : Bool) : Prop :=
  ∀ item ∈ items,
    (∀ accepted ∈ history.accepted, ¬accepted.Awaits provider item.uri) ∧
      (history.queues provider).copies item.uri =
        liveOccurrences (history.liveUris provider queueRead) item.uri

def StaysCounted (history : AppendHistory) : AppendEvent → Prop
  | .add provider items queueRead =>
    history.CountsCopies provider items queueRead
  | .play provider =>
    history.KeepsCopies provider (history.queues provider).playNext
  | .replace provider queue => history.KeepsCopies provider queue
  | .reflect .. | .overlay _ | .elapse _ => True

instance (history : AppendHistory) (provider : ProviderId) (after : Queue) :
    Decidable (history.KeepsCopies provider after) :=
  inferInstanceAs (Decidable (∀ _ ∈ _, _))

instance (history : AppendHistory) (provider : ProviderId)
    (items : List MediaItem) (queueRead : Bool) :
    Decidable (history.CountsCopies provider items queueRead) :=
  inferInstanceAs (Decidable (∀ _ ∈ _, _))

instance (history : AppendHistory) :
    ∀ event, Decidable (history.StaysCounted event)
  | .add .. => inferInstanceAs (Decidable (CountsCopies ..))
  | .play _ | .replace _ _ => inferInstanceAs (Decidable (KeepsCopies ..))
  | .reflect .. | .overlay _ | .elapse _ => inferInstanceAs (Decidable True)

end AppendHistory

def appendHistory : GuardedMachine AppendHistory AppendEvent where
  step := AppendHistory.step

section

variable {provider : ProviderId} {uri : String} {item : MediaItem}
  {log marked : List AcceptedAppend}

/-- The log before and after its first awaited append is marked. -/
theorem reflectFirst_eq_some
    (reflects : reflectFirst provider uri log = some (item, marked)) :
    ∃ before accepted after, log = before ++ accepted :: after ∧
      accepted.Awaits provider uri ∧
      (∀ earlier ∈ before, ¬earlier.Awaits provider uri) ∧
      item = accepted.append.item ∧
      marked = before ++ { accepted with reflected := true } :: after := by
  induction log generalizing marked with
  | nil => cases reflects
  | cons head rest ih =>
    rw [reflectFirst] at reflects
    by_cases awaits : head.Awaits provider uri
    · rw [if_pos awaits] at reflects
      cases reflects
      exact ⟨[], head, rest, rfl, awaits, by simp, rfl, rfl⟩
    · rw [if_neg awaits] at reflects
      obtain ⟨⟨inner, markedRest⟩, reflectsRest, paired⟩ :=
        Option.map_eq_some_iff.mp reflects
      cases paired
      obtain ⟨before, accepted, after, rfl, isAwaited, notBefore, isItem,
        rfl⟩ := ih reflectsRest
      refine ⟨head :: before, accepted, after, rfl, isAwaited, ?_, isItem, rfl⟩
      intro earlier member
      rcases List.mem_cons.mp member with rfl | inBefore
      · exact awaits
      · exact notBefore earlier inBefore

theorem Queue.copies_list (queue : Queue) (position : Nat) (item : MediaItem)
    (uri : String) :
    (queue.list position item).copies uri =
      queue.copies uri + if item.uri = uri then 1 else 0 := by
  have split := congrArg (fun items => (items.map MediaItem.uri).count uri)
    (List.take_append_drop position queue.items)
  simp only [List.map_append, List.count_append] at split
  simp only [list, copies, List.map_append, List.map_cons, List.count_append,
    List.count_cons, beq_iff_eq]
  omega

end

theorem filter_isRetained_of_le {nowMs laterMs : Int}
    (later : nowMs ≤ laterMs) (pending : List PendingQueueAppend) :
    (pending.filter (PendingQueueAppend.IsRetained nowMs)).filter
        (PendingQueueAppend.IsRetained laterMs) =
      pending.filter (PendingQueueAppend.IsRetained laterMs) := by
  rw [List.filter_filter]
  apply List.filter_congr
  intro entry _
  have stays : entry.IsRetained laterMs → entry.IsRetained nowMs :=
    PendingQueueAppend.IsRetained.of_le later
  by_cases retained : entry.IsRetained laterMs
  · simp [retained, stays retained]
  · simp [retained]

theorem trackPendingQueueAppends_eq (pending : List PendingQueueAppend)
    (provider : ProviderId) (liveUris : List String)
    (queuedItems : List MediaItem) (addedAtMs : Int) :
    trackPendingQueueAppends pending provider liveUris queuedItems addedAtMs =
      pending ++
        pendingQueueAppendsFor provider liveUris queuedItems addedAtMs := by
  cases queuedItems with
  | nil =>
    simp only [trackPendingQueueAppends, pendingQueueAppendsFor, numberAppends,
      List.isEmpty_nil, if_true, List.append_nil]
  | cons item items =>
    simp only [trackPendingQueueAppends, List.isEmpty_cons, Bool.false_eq_true,
      if_false]

namespace AppendHistory

/-- The entries are the accepted appends as far as they have not expired. -/
structure Logged (history : AppendHistory) : Prop where
  pending :
    history.pending.filter (PendingQueueAppend.IsRetained history.nowMs) =
      (history.accepted.map AcceptedAppend.append).filter
        (PendingQueueAppend.IsRetained history.nowMs)
  positive : ∀ accepted ∈ history.accepted,
    0 < accepted.append.requiredOccurrence

variable {history next : AppendHistory} {provider : ProviderId}

theorem Logged.step (logged : history.Logged) {event : AppendEvent}
    (steps : history.step event = some next) : next.Logged := by
  cases event with
  | add provider items queueRead =>
    cases steps
    constructor
    · simp only [add, trackPendingQueueAppends_eq, List.filter_append,
        List.map_append, List.map_map, logged.pending]
      congr 2
      exact (List.map_id _).symm
    · intro accepted member
      rcases List.mem_append.mp member with earlier | added
      · exact logged.positive accepted earlier
      · obtain ⟨entry, isEntry, rfl⟩ := List.mem_map.mp added
        exact (of_mem_numberAppends isEntry).2.2.2
  | reflect provider uri position =>
    obtain ⟨⟨item, marked⟩, reflects, rfl⟩ := Option.map_eq_some_iff.mp steps
    obtain ⟨before, accepted, after, log, -, -, -, rfl⟩ :=
      reflectFirst_eq_some reflects
    have sameAppends : (before ++ { accepted with reflected := true } ::
        after).map AcceptedAppend.append =
          history.accepted.map AcceptedAppend.append := by
      simp [log]
    constructor
    · simp only [setQueue, sameAppends]
      exact logged.pending
    · intro other member
      have isAppend : other.append ∈
          history.accepted.map AcceptedAppend.append :=
        sameAppends ▸ List.mem_map_of_mem member
      obtain ⟨original, inLog, sameAppend⟩ := List.mem_map.mp isAppend
      rw [← sameAppend]
      exact logged.positive original inLog
  | play provider =>
    cases steps
    exact ⟨logged.pending, logged.positive⟩
  | replace provider queue =>
    cases steps
    exact ⟨logged.pending, logged.positive⟩
  | overlay provider =>
    cases steps
    refine ⟨?_, logged.positive⟩
    simp only [overlay_retained, filter_isRetained_of_le (le_refl _),
      logged.pending]
  | elapse durationMs =>
    cases steps
    refine ⟨?_, logged.positive⟩
    have later : history.nowMs ≤ history.nowMs + durationMs := by omega
    have kept := congrArg (fun entries => entries.filter
      (PendingQueueAppend.IsRetained (history.nowMs + durationMs)))
      logged.pending
    simp only [filter_isRetained_of_le later] at kept
    exact kept

/-- What is shown behind the provider's queue, read off the log. -/
theorem Logged.shown_items (logged : history.Logged)
    (provider : ProviderId) :
    (history.shown provider).items = (history.queues provider).items ++
      (missingAppends (history.queues provider).copies
        ((history.unexpired provider).map AcceptedAppend.append)).map
          PendingQueueAppend.item := by
  rw [shown, overlay_items, logged.pending, unexpired, List.filter_map,
    List.filter_map, List.filter_filter]
  congr 4
  apply List.filter_congr
  intro accepted _
  simp

/-- Nothing is invented and no URI is lost, whatever the providers do. -/
theorem Logged.showsUnexpired (logged : history.Logged)
    (provider : ProviderId) : history.ShowsUnexpired provider := by
  have items := logged.shown_items provider
  refine ⟨overlay_currentlyPlaying, ?_, ?_⟩
  · obtain ⟨appended, sublist, isMissing⟩ := List.sublist_map_iff.mp
      (@missingAppends_sublist (history.queues provider).copies
        ((history.unexpired provider).map AcceptedAppend.append))
    refine ⟨appended, sublist, ?_⟩
    rw [items, isMissing, List.map_map]
    rfl
  · intro accepted member
    have positive : ∀ entry ∈
        (history.unexpired provider).map AcceptedAppend.append,
          0 < entry.requiredOccurrence := by
      intro entry isEntry
      obtain ⟨original, isUnexpired, rfl⟩ := List.mem_map.mp isEntry
      exact logged.positive original (List.mem_filter.mp isUnexpired).1
    rw [items, List.map_append, List.mem_append]
    rcases @counted_or_missing (history.queues provider).copies _ positive _
      (List.mem_map_of_mem (f := AcceptedAppend.append) member) with
      counted | ⟨entry, isMissing, sameUri⟩
    · exact .inl (List.count_pos_iff.mp counted)
    · refine .inr ?_
      rw [List.map_map, ← sameUri]
      exact List.mem_map_of_mem (f := MediaItem.uri ∘ PendingQueueAppend.item)
        isMissing

/-- The accepted appends of a URI that the provider has not listed. -/
def awaited (history : AppendHistory) (provider : ProviderId)
    (uri : String) : List AcceptedAppend :=
  history.accepted.filter (AcceptedAppend.Awaits provider uri)

def requiredOccurrences (log : List AcceptedAppend) : List Nat :=
  log.map fun accepted => accepted.append.requiredOccurrence

/-- The awaited appends of a URI come from one add.  While they are not
expired they are numbered on from the copies in the queue, and what is listed
is numbered up to them. -/
structure Counted (history : AppendHistory) : Prop where
  sameAdd : ∀ provider uri, ∀ first ∈ history.awaited provider uri,
    ∀ second ∈ history.awaited provider uri,
      first.append.addedAtMs = second.append.addedAtMs
  listed : ∀ provider, ∀ accepted ∈ history.unexpired provider,
    accepted.reflected = true → accepted.append.requiredOccurrence ≤
      (history.queues provider).copies accepted.append.item.uri
  numbered : ∀ provider uri, ∀ accepted ∈ history.unexpired provider,
    accepted.Awaits provider uri →
      requiredOccurrences (history.awaited provider uri) =
        List.range' ((history.queues provider).copies uri + 1)
          (history.awaited provider uri).length

theorem mem_unexpired {accepted : AcceptedAppend} :
    accepted ∈ history.unexpired provider ↔
      accepted ∈ history.accepted ∧ accepted.append.provider = provider ∧
        accepted.append.IsRetained history.nowMs := by
  simp [unexpired]

theorem mem_awaited {uri : String} {accepted : AcceptedAppend} :
    accepted ∈ history.awaited provider uri ↔
      accepted ∈ history.accepted ∧ accepted.Awaits provider uri := by
  simp [awaited]

/-- The merge pushes what is numbered beyond the counts. -/
theorem missingAppends_eq {counts : String → Nat}
    {entries : List AcceptedAppend}
    (listed : ∀ accepted ∈ entries, accepted.reflected = true →
      accepted.append.requiredOccurrence ≤ counts accepted.append.item.uri)
    (numbered : ∀ uri, ∃ number, requiredOccurrences
        (entries.filter fun accepted =>
          accepted.append.item.uri = uri ∧ accepted.reflected = false) =
      List.range' (counts uri + 1) number) :
    missingAppends counts (entries.map AcceptedAppend.append) =
      (entries.filter fun accepted => accepted.reflected = false).map
        AcceptedAppend.append := by
  induction entries generalizing counts with
  | nil => rfl
  | cons head entries ih =>
    have listedRest : ∀ accepted ∈ entries, accepted.reflected = true →
        accepted.append.requiredOccurrence ≤
          counts accepted.append.item.uri :=
      fun accepted member => listed accepted (List.mem_cons_of_mem _ member)
    rw [List.map_cons, missingAppends]
    cases isReflected : head.reflected with
    | true =>
      have counted := listed head List.mem_cons_self isReflected
      rw [if_neg (by omega), List.filter_cons_of_neg (by simp [isReflected])]
      apply ih listedRest
      intro uri
      obtain ⟨number, isNumbered⟩ := numbered uri
      rw [List.filter_cons_of_neg (by simp [isReflected])] at isNumbered
      exact ⟨number, isNumbered⟩
    | false =>
      obtain ⟨number, isNumbered⟩ := numbered head.append.item.uri
      rw [List.filter_cons_of_pos (by simp [isReflected]),
        requiredOccurrences, List.map_cons] at isNumbered
      obtain ⟨fewer, rfl⟩ : ∃ fewer, number = fewer + 1 := by
        cases number with
        | zero => cases isNumbered
        | succ fewer => exact ⟨fewer, rfl⟩
      rw [List.range'_succ, List.cons.injEq] at isNumbered
      rw [if_pos (by omega), List.filter_cons_of_pos (by simp [isReflected]),
        List.map_cons]
      congr 1
      apply ih
      · intro accepted member reflected
        have counted := listedRest accepted member reflected
        by_cases sameUri : accepted.append.item.uri = head.append.item.uri
        · rw [sameUri] at counted ⊢
          rw [Function.update_self]
          omega
        · rw [Function.update_of_ne sameUri]
          exact counted
      · intro uri
        by_cases sameUri : uri = head.append.item.uri
        · subst sameUri
          rw [Function.update_self]
          exact ⟨fewer, isNumbered.2⟩
        · obtain ⟨others, othersNumbered⟩ := numbered uri
          rw [List.filter_cons_of_neg (by simp [Ne.symm sameUri])]
            at othersNumbered
          rw [Function.update_of_ne sameUri]
          exact ⟨others, othersNumbered⟩

/-- While one awaited append of a URI is not expired, none is. -/
theorem Counted.unexpired_filter (counted : history.Counted) {uri : String}
    {accepted : AcceptedAppend} (member : accepted ∈ history.unexpired provider)
    (awaits : accepted.Awaits provider uri) :
    ((history.unexpired provider).filter fun other =>
        other.append.item.uri = uri ∧ other.reflected = false) =
      history.awaited provider uri := by
  obtain ⟨inLog, -, retained⟩ := mem_unexpired.mp member
  rw [unexpired, awaited, List.filter_filter]
  apply List.filter_congr
  intro other otherInLog
  have otherRetained : other.Awaits provider uri →
      other.append.IsRetained history.nowMs := by
    intro otherAwaits
    have sameAdd := counted.sameAdd provider uri accepted
      (mem_awaited.mpr ⟨inLog, awaits⟩) other
      (mem_awaited.mpr ⟨otherInLog, otherAwaits⟩)
    rw [PendingQueueAppend.IsRetained, ← sameAdd]
    exact retained
  rw [← Bool.decide_and, decide_eq_decide]
  constructor
  · rintro ⟨⟨sameUri, notReflected⟩, ofProvider, -⟩
    exact ⟨ofProvider, sameUri, notReflected⟩
  · intro otherAwaits
    exact ⟨otherAwaits.2, otherAwaits.1, otherRetained otherAwaits⟩

/-- With the numbers in step the overlay adds exactly what is awaited. -/
theorem Counted.showsAwaited (counted : history.Counted)
    (logged : history.Logged) (provider : ProviderId) :
    history.ShowsAwaited provider := by
  refine ⟨overlay_currentlyPlaying, ?_⟩
  rw [logged.shown_items, missingAppends_eq (counted.listed provider),
    List.map_map]
  · rfl
  · intro uri
    cases filtered : (history.unexpired provider).filter fun accepted =>
        accepted.append.item.uri = uri ∧ accepted.reflected = false with
    | nil => exact ⟨0, rfl⟩
    | cons accepted rest =>
      have member : accepted ∈ (history.unexpired provider).filter
          fun accepted =>
            accepted.append.item.uri = uri ∧ accepted.reflected = false := by
        rw [filtered]
        exact List.mem_cons_self
      obtain ⟨isUnexpired, awaits⟩ := List.mem_filter.mp member
      have isAwaited : accepted.Awaits provider uri :=
        ⟨(mem_unexpired.mp isUnexpired).2.1, of_decide_eq_true awaits⟩
      rw [← filtered, counted.unexpired_filter isUnexpired isAwaited]
      exact ⟨_, counted.numbered provider uri accepted isUnexpired isAwaited⟩

theorem Counted.setQueue (counted : history.Counted) {queue : Queue}
    (keeps : history.KeepsCopies provider queue) :
    (history.setQueue provider queue).Counted where
  sameAdd := counted.sameAdd
  listed := by
    intro other accepted member reflected
    have earlier := counted.listed other accepted member reflected
    by_cases same : other = provider
    · subst same
      simp only [AppendHistory.setQueue, Function.update_self]
      exact earlier.trans (keeps accepted member).1
    · simp only [AppendHistory.setQueue, Function.update_of_ne same]
      exact earlier
  numbered := by
    intro other uri accepted member awaits
    have earlier := counted.numbered other uri accepted member awaits
    by_cases same : other = provider
    · subst same
      have unchanged := (keeps accepted member).2 awaits.2.2
      rw [awaits.2.1] at unchanged
      simp only [AppendHistory.setQueue, Function.update_self, unchanged]
      exact earlier
    · simp only [AppendHistory.setQueue, Function.update_of_ne same]
      exact earlier

theorem Counted.elapse (counted : history.Counted) (durationMs : Nat) :
    Counted { history with nowMs := history.nowMs + durationMs } := by
  have unexpired : ∀ provider accepted,
      accepted ∈ AppendHistory.unexpired
        { history with nowMs := history.nowMs + durationMs } provider →
      accepted ∈ history.unexpired provider := by
    intro provider accepted member
    obtain ⟨inLog, ofProvider, retained⟩ := mem_unexpired.mp member
    refine mem_unexpired.mpr ⟨inLog, ofProvider, retained.of_le ?_⟩
    exact Int.le_add_of_nonneg_right (Int.natCast_nonneg durationMs)
  constructor
  · exact counted.sameAdd
  · intro provider accepted member
    exact counted.listed provider accepted (unexpired provider accepted member)
  · intro provider uri accepted member
    exact counted.numbered provider uri accepted
      (unexpired provider accepted member)

/-- What an add enters of a URI is numbered on from the copies. -/
theorem awaited_add (items : List MediaItem) (queueRead : Bool)
    (other : ProviderId) (uri : String) :
    (history.add provider items queueRead).awaited other uri =
      history.awaited other uri ++
        ((pendingQueueAppendsFor provider (history.liveUris provider queueRead)
          items history.nowMs).map fun append => ⟨append, false⟩).filter
            (AcceptedAppend.Awaits other uri) := by
  rw [awaited, add, List.filter_append]
  rfl

/-- An awaited append is an earlier one or one of the add. -/
theorem mem_awaited_add {items : List MediaItem} {queueRead : Bool}
    {other : ProviderId} {uri : String} {accepted : AcceptedAppend}
    (member : accepted ∈
      (history.add provider items queueRead).awaited other uri) :
    accepted ∈ history.awaited other uri ∨
      (other = provider ∧ accepted.append.addedAtMs = history.nowMs ∧
        ∃ item ∈ items, item.uri = uri) := by
  rw [awaited_add, List.mem_append] at member
  rcases member with earlier | added
  · exact .inl earlier
  · obtain ⟨inAdd, awaits⟩ := List.mem_filter.mp added
    obtain ⟨entry, isEntry, rfl⟩ := List.mem_map.mp inAdd
    obtain ⟨ofProvider, addedAt, ofItems, -⟩ := of_mem_numberAppends isEntry
    obtain ⟨ofOther, ofUri, -⟩ := of_decide_eq_true awaits
    refine .inr ⟨ofOther.symm.trans ofProvider, addedAt, entry.item, ofItems,
      ofUri⟩

theorem CountsCopies.awaited_eq_nil {items : List MediaItem} {queueRead : Bool}
    (counts : history.CountsCopies provider items queueRead) {item : MediaItem}
    (member : item ∈ items) : history.awaited provider item.uri = [] := by
  rw [awaited, List.filter_eq_nil_iff]
  intro accepted inLog
  have notAwaited := (counts item member).1 accepted inLog
  simpa using notAwaited

/-- The appends of an added URI after the add. -/
theorem requiredOccurrences_awaited_add {items : List MediaItem}
    {queueRead : Bool}
    (counts : history.CountsCopies provider items queueRead) {item : MediaItem}
    (member : item ∈ items) :
    let after := (history.add provider items queueRead).awaited provider item.uri
    requiredOccurrences after =
      List.range' ((history.queues provider).copies item.uri + 1)
        after.length := by
  intro after
  let live := history.liveUris provider queueRead
  let entries := pendingQueueAppendsFor provider live items history.nowMs
  have isFiltered : after = (entries.filter fun entry =>
      entry.item.uri = item.uri).map fun append => ⟨append, false⟩ := by
    simp only [after]
    rw [awaited_add, counts.awaited_eq_nil member, List.nil_append,
      List.filter_map]
    congr 1
    apply List.filter_congr
    intro entry isEntry
    have ofProvider := (of_mem_numberAppends isEntry).1
    simp [AcceptedAppend.Awaits, ofProvider]
  have numbered : requiredOccurrences after =
      List.range' (liveOccurrences live item.uri + 1)
        ((items.map MediaItem.uri).count item.uri) := by
    rw [isFiltered, requiredOccurrences, List.map_map]
    exact numberAppends_filter_uri
  have length := congrArg List.length numbered
  rw [requiredOccurrences, List.length_map, List.length_range'] at length
  rw [numbered, length, (counts item member).2]

theorem Counted.add (counted : history.Counted) {items : List MediaItem}
    {queueRead : Bool}
    (counts : history.CountsCopies provider items queueRead) :
    (history.add provider items queueRead).Counted := by
  have notAwaited : ∀ {other uri}, ∀ accepted ∈ history.awaited other uri,
      other = provider → ∀ item ∈ items, item.uri ≠ uri := by
    rintro _ _ accepted member rfl item inItems rfl
    rw [counts.awaited_eq_nil inItems] at member
    cases member
  constructor
  · intro other uri first isFirst second isSecond
    rcases mem_awaited_add isFirst with earlier | ⟨same, addedAt, added⟩
    · rcases mem_awaited_add isSecond with alsoEarlier | ⟨same, _, added⟩
      · exact counted.sameAdd other uri first earlier second alsoEarlier
      · obtain ⟨item, inItems, ofUri⟩ := added
        exact absurd ofUri (notAwaited first earlier same item inItems)
    · rcases mem_awaited_add isSecond with earlier | ⟨_, alsoAddedAt, _⟩
      · obtain ⟨item, inItems, ofUri⟩ := added
        exact absurd ofUri (notAwaited second earlier same item inItems)
      · exact addedAt.trans alsoAddedAt.symm
  · intro other accepted member reflected
    obtain ⟨inLog, ofProvider, retained⟩ := mem_unexpired.mp member
    rcases List.mem_append.mp inLog with earlier | added
    · exact counted.listed other accepted
        (mem_unexpired.mpr ⟨earlier, ofProvider, retained⟩) reflected
    · obtain ⟨entry, -, rfl⟩ := List.mem_map.mp added
      cases reflected
  · intro other uri accepted member awaits
    obtain ⟨inLog, ofProvider, retained⟩ := mem_unexpired.mp member
    have isAwaited := mem_awaited.mpr ⟨inLog, awaits⟩
    by_cases added : other = provider ∧ ∃ item ∈ items, item.uri = uri
    · obtain ⟨rfl, item, inItems, rfl⟩ := added
      exact requiredOccurrences_awaited_add counts inItems
    · have unchanged : (history.add provider items queueRead).awaited other
          uri = history.awaited other uri := by
        rw [awaited_add, List.append_right_eq_self, List.filter_eq_nil_iff]
        intro later inAdd laterAwaits
        have laterAwaited : later ∈
            (history.add provider items queueRead).awaited other uri := by
          rw [awaited_add, List.mem_append]
          exact .inr (List.mem_filter.mpr ⟨inAdd, laterAwaits⟩)
        obtain ⟨entry, isEntry, rfl⟩ := List.mem_map.mp inAdd
        obtain ⟨ofAdd, -, ofItems, -⟩ := of_mem_numberAppends isEntry
        obtain ⟨ofOther, ofUri, -⟩ := of_decide_eq_true laterAwaits
        exact added ⟨ofOther.symm.trans ofAdd, entry.item, ofItems, ofUri⟩
      rw [unchanged] at isAwaited ⊢
      exact counted.numbered other uri accepted
        (mem_unexpired.mpr ⟨(mem_awaited.mp isAwaited).1, ofProvider,
          retained⟩) awaits

/-- An append that a provider lists is the first it was awaited of. -/
structure Reflects (history next : AppendHistory) (provider : ProviderId)
    (uri : String) (accepted : AcceptedAppend) : Prop where
  awaits : accepted.Awaits provider uri
  inLog : accepted ∈ history.accepted
  awaited : history.awaited provider uri =
    accepted :: next.awaited provider uri
  otherwise : ∀ other otherUri, ¬(other = provider ∧ otherUri = uri) →
    next.awaited other otherUri = history.awaited other otherUri
  log : ∀ later ∈ next.accepted,
    later ∈ history.accepted ∨ later = { accepted with reflected := true }
  copies : ∀ other otherUri, (next.queues other).copies otherUri =
    (history.queues other).copies otherUri +
      if other = provider ∧ otherUri = uri then 1 else 0
  nowMs : next.nowMs = history.nowMs

theorem reflects_of_step {uri : String} {position : Nat}
    (steps : history.step (.reflect provider uri position) = some next) :
    ∃ accepted, history.Reflects next provider uri accepted := by
  obtain ⟨⟨item, marked⟩, reflects, isNext⟩ := Option.map_eq_some_iff.mp steps
  obtain ⟨before, accepted, after, log, awaits, notBefore, rfl, rfl⟩ :=
    reflectFirst_eq_some reflects
  cases isNext
  have nothingBefore : before.filter
      (AcceptedAppend.Awaits provider uri) = [] := by
    rw [List.filter_eq_nil_iff]
    intro earlier member
    simpa using notBefore earlier member
  have notMarked : ∀ other otherUri, ¬AcceptedAppend.Awaits other otherUri
      { accepted with reflected := true } := by
    rintro _ _ ⟨-, -, ⟨⟩⟩
  refine ⟨accepted, awaits, ?_, ?_, ?_, ?_, ?_, rfl⟩
  · rw [log]
    exact List.mem_append_right before List.mem_cons_self
  · simp [awaited, log, nothingBefore, awaits, notMarked]
  · intro other otherUri differs
    have notAwaited : ¬accepted.Awaits other otherUri := by
      rintro ⟨ofOther, ofUri, -⟩
      exact differs ⟨ofOther.symm.trans awaits.1, ofUri.symm.trans awaits.2.1⟩
    simp [awaited, log, notAwaited, notMarked]
  · intro later member
    rw [log]
    rcases List.mem_append.mp member with inBefore | inRest
    · exact .inl (List.mem_append_left _ inBefore)
    · rcases List.mem_cons.mp inRest with isMarked | inAfter
      · exact .inr isMarked
      · exact .inl (List.mem_append_right _ (List.mem_cons_of_mem _ inAfter))
  · intro other otherUri
    by_cases same : other = provider
    · subst same
      simp only [setQueue, Function.update_self, Queue.copies_list,
        awaits.2.1, true_and, eq_comm]
    · simp only [setQueue, Function.update_of_ne same, same, false_and,
        if_false, Nat.add_zero]

variable {uri : String} {accepted : AcceptedAppend}

theorem Reflects.mem_awaited_of
    (reflects : history.Reflects next provider uri accepted)
    {other : ProviderId} {otherUri : String} {later : AcceptedAppend}
    (member : later ∈ next.awaited other otherUri) :
    later ∈ history.awaited other otherUri := by
  by_cases same : other = provider ∧ otherUri = uri
  · obtain ⟨rfl, rfl⟩ := same
    rw [reflects.awaited]
    exact List.mem_cons_of_mem accepted member
  · rw [← reflects.otherwise other otherUri same]
    exact member

theorem Counted.reflect (counted : history.Counted)
    (reflects : history.Reflects next provider uri accepted) :
    next.Counted where
  sameAdd := by
    intro other otherUri first isFirst second isSecond
    exact counted.sameAdd other otherUri first
      (reflects.mem_awaited_of isFirst) second
      (reflects.mem_awaited_of isSecond)
  listed := by
    intro other later member reflected
    obtain ⟨inNext, ofOther, retained⟩ := mem_unexpired.mp member
    rw [reflects.nowMs] at retained
    rw [reflects.copies]
    rcases reflects.log later inNext with inLog | rfl
    · have earlier := counted.listed other later
        (mem_unexpired.mpr ⟨inLog, ofOther, retained⟩) reflected
      omega
    · -- the listed append was the first awaited one
      have same : other = provider := ofOther.symm.trans reflects.awaits.1
      subst same
      have numbered := counted.numbered other uri accepted
        (mem_unexpired.mpr ⟨reflects.inLog, ofOther, retained⟩)
        reflects.awaits
      rw [reflects.awaited, requiredOccurrences, List.map_cons,
        List.length_cons, List.range'_succ, List.cons.injEq] at numbered
      have ofUri := reflects.awaits.2.1
      simp only [ofUri, and_self, if_true]
      exact numbered.1.le
  numbered := by
    intro other otherUri later member awaits
    obtain ⟨inNext, ofOther, retained⟩ := mem_unexpired.mp member
    have wasAwaited := reflects.mem_awaited_of
      (mem_awaited.mpr ⟨inNext, awaits⟩)
    rw [reflects.nowMs] at retained
    have earlier := counted.numbered other otherUri later
      (mem_unexpired.mpr ⟨(mem_awaited.mp wasAwaited).1, ofOther, retained⟩)
      awaits
    rw [reflects.copies]
    by_cases same : other = provider ∧ otherUri = uri
    · rw [if_pos same]
      obtain ⟨rfl, rfl⟩ := same
      rw [reflects.awaited, requiredOccurrences, List.map_cons,
        List.length_cons, List.range'_succ, List.cons.injEq] at earlier
      exact earlier.2
    · rw [if_neg same, reflects.otherwise other otherUri same]
      exact earlier

theorem Counted.step (counted : history.Counted) {event : AppendEvent}
    (stays : history.StaysCounted event)
    (steps : history.step event = some next) : next.Counted := by
  cases event with
  | add provider items queueRead =>
    cases steps
    exact counted.add stays
  | reflect provider uri position =>
    obtain ⟨accepted, reflects⟩ := reflects_of_step steps
    exact counted.reflect reflects
  | play provider =>
    cases steps
    exact counted.setQueue stays
  | replace provider queue =>
    cases steps
    exact counted.setQueue stays
  | overlay provider =>
    cases steps
    exact ⟨counted.sameAdd, counted.listed, counted.numbered⟩
  | elapse durationMs =>
    cases steps
    exact counted.elapse durationMs

end AppendHistory

/-- The overlay keeps the provider's queue and adds unexpired appends only, and
it misses none as long as they are counted by the queue. -/
theorem overlay_shows_appends (queues : ProviderId → Queue) (startMs : Int)
    (events : List AppendEvent) (history : AppendHistory)
    (runs : appendHistory.run (.start queues startMs) events = some history)
    (provider : ProviderId) :
    history.ShowsUnexpired provider ∧
      (appendHistory.StepsMeet AppendHistory.StaysCounted
          (.start queues startMs) events →
        history.ShowsAwaited provider) := by
  have logged : history.Logged := by
    refine appendHistory.run_preserves ?_ ?_ runs
    · exact fun _ _ _ logged steps => logged.step steps
    · exact ⟨rfl, by simp [AppendHistory.start]⟩
  refine ⟨logged.showsUnexpired provider, fun meets => ?_⟩
  have counted : history.Counted := by
    refine appendHistory.run_preserves_of_stepsMeet ?_ ?_ meets runs
    · exact fun _ _ _ counted stays steps => counted.step stays steps
    · constructor <;>
        simp [AppendHistory.start, AppendHistory.awaited,
          AppendHistory.unexpired]
  exact counted.showsAwaited logged provider

def queueProvider : ProviderId := ⟨"spotify"⟩

def appendTwice : List AppendEvent :=
  [.add queueProvider [.stub "same", .stub "same"] true,
    .elapse 1000, .overlay queueProvider,
    .reflect queueProvider "same" 1, .play queueProvider]

/-- Of two appends of one item the provider has listed the first. -/
theorem overlay_shows_second_append :
    ∃ history, appendHistory.run
        (.start (fun _ => plainQueue "playing" ["next"]) 0) appendTwice =
          some history ∧
      history.ShowsAwaited queueProvider := by
  have isRun : (appendHistory.run
      (.start (fun _ => plainQueue "playing" ["next"]) 0)
      appendTwice).isSome = true := by
    decide +kernel
  obtain ⟨history, runs⟩ := Option.isSome_iff_exists.mp isRun
  refine ⟨history, runs, (overlay_shows_appends _ _ _ _ runs _).2 ?_⟩
  decide +kernel

def playAppended : List AppendEvent :=
  [.add queueProvider [.stub "added"] true,
    .reflect queueProvider "added" 0, .play queueProvider]

/-- An append that has been listed and is playing is shown again. -/
theorem playedAppend_shown_again :
    ∃ history, appendHistory.run
        (.start (fun _ => plainQueue "playing" []) 0) playAppended =
          some history ∧
      (history.shown queueProvider).currentlyPlaying = some (.stub "added") ∧
      (history.shown queueProvider).items = [.stub "added"] ∧
      ¬history.ShowsAwaited queueProvider := by
  have shownAgain : (appendHistory.run
      (.start (fun _ => plainQueue "playing" []) 0) playAppended).any
        (fun history =>
          (history.shown queueProvider).currentlyPlaying =
              some (.stub "added") ∧
            (history.shown queueProvider).items = [.stub "added"] ∧
            ¬history.ShowsAwaited queueProvider) = true := by
    decide +kernel
  obtain ⟨history, runs, holds⟩ := (Option.any_eq_true _ _).mp shownAgain
  exact ⟨history, runs, of_decide_eq_true holds⟩

end Spotuify
