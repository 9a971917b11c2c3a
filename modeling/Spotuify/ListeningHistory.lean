import Spotuify.Playback
import Mathlib.Algebra.Ring.Nat
import Mathlib.Data.List.SplitBy
import Mathlib.Logic.Function.Basic

/-!
# Listening history in sessions

Plays of both sources are merged newest first, near duplicates are dropped,
and the rest is cut wherever two neighbours are too far apart.  The items of a
session are looked up by the URIs of its plays.
-/

namespace Spotuify
namespace ListeningHistory

structure Play where
  uri : String
  atMs : Int
  deriving DecidableEq

structure ListenSession where
  sessionId : String
  startedAtMs : Int
  endedAtMs : Int
  trackCount : Nat
  contextLabel : Option String
  tracks : List MediaItem
  deriving DecidableEq

/-- The cached media rows by URI. -/
structure MediaTable where
  row : String → Option MediaItem
  keyed : ∀ uri item, row uri = some item → item.uri = uri

def sessionGapMs : Int := 20 * 60 * 1000

def dedupToleranceMs : Nat := 60 * 1000

/-- How many plays of each source are read. -/
def scanLimit (limit : Nat) : Nat := max 200 (min 5000 (limit * 60))

/-- Drop the plays next to a kept play of the same track. -/
def dedupPlays : List Play → List Play → List Play
  | deduped, [] => deduped
  | deduped, play :: plays =>
    if deduped.any fun kept => kept.uri = play.uri ∧
        (kept.atMs - play.atMs).natAbs ≤ dedupToleranceMs then
      dedupPlays deduped plays
    else dedupPlays (deduped ++ [play]) plays

/-- The plays of both sources, newest first and without near duplicates. -/
def dedupedPlays (limit : Nat) (localPlays recentPlays : List Play) :
    List Play :=
  let scan := scanLimit limit
  let plays := localPlays.take scan ++ recentPlays.take scan
  dedupPlays [] (plays.mergeSort fun first second =>
    second.atMs ≤ first.atMs)

/-- Two neighbours of one session. -/
def withinGap (newer older : Play) : Bool :=
  newer.atMs - older.atMs ≤ sessionGapMs

/-- Add each play to the last session or start a new one, until `limit`
sessions are full. -/
def splitSessions (limit : Nat) : List (List Play) → List Play →
    List (List Play)
  | sessions, [] => sessions
  | sessions, play :: plays =>
    match sessions.getLast? with
    | some current =>
      if current.getLast?.any fun previous => withinGap previous play then
        splitSessions limit
          (sessions.dropLast ++ [current ++ [play]]) plays
      else if limit ≤ sessions.length then sessions
      else splitSessions limit (sessions ++ [[play]]) plays
    | none =>
      if limit ≤ sessions.length then sessions
      else splitSessions limit (sessions ++ [[play]]) plays

/-- Each URI takes its row out of the map. -/
def takeItems : (String → Option MediaItem) → List String → List MediaItem
  | _, [] => []
  | byUri, uri :: uris =>
    match byUri uri with
    | some item => item :: takeItems (Function.update byUri uri none) uris
    | none => takeItems byUri uris

def mediaItemsByUris (media : MediaTable) (uris : List String) :
    List MediaItem :=
  takeItems (fun uri => if uri ∈ uris then media.row uri else none) uris

/-- The album of an item, or else its context. -/
def sessionLabel (item : MediaItem) : Option String :=
  (item.album.filter fun album => album ≠ "").or
    (if item.context ≠ "" then some item.context else none)

/-- The later one of two labels unless it is rarer. -/
def moreFrequent (labels : List String) (best : Option String)
    (label : String) : Option String :=
  match best with
  | some earlier =>
    if labels.count label < labels.count earlier then some earlier
    else some label
  | none => some label

def dominantContext (items : List MediaItem) : Option String :=
  let labels := items.filterMap sessionLabel
  labels.foldl (moreFrequent labels) none

def assembleSession (media : MediaTable) (plays : List Play) :
    ListenSession :=
  let items := mediaItemsByUris media (plays.map Play.uri)
  let startedAtMs := (plays.map Play.atMs).min?.getD 0
  { sessionId := "session-" ++ toString startedAtMs
    startedAtMs := startedAtMs
    endedAtMs := (plays.map Play.atMs).max?.getD 0
    trackCount := items.length % 2 ^ 32
    contextLabel := dominantContext items
    tracks := items }

def listListenSessions (limit : Nat) (localPlays recentPlays : List Play)
    (media : MediaTable) : List ListenSession :=
  if limit = 0 then []
  else
    (splitSessions limit []
      (dedupedPlays limit localPlays recentPlays)).map (assembleSession media)

/-- Two groups of plays that are apart by more than the gap. -/
def Apart (newer older : List Play) : Prop :=
  ∀ first ∈ newer, ∀ second ∈ older,
    sessionGapMs < first.atMs - second.atMs

/-- The groups hold each of the newest plays once and in order, and are cut
exactly at the gaps.  Older plays are left out beyond `limit` groups only. -/
structure Sessionizes (limit : Nat) (plays : List Play)
    (groups : List (List Play)) : Prop where
  atMost : groups.length ≤ limit
  nonempty : [] ∉ groups
  together : ∀ group ∈ groups,
    group.IsChain fun newer older => withinGap newer older = true
  apart : groups.Pairwise Apart
  placed : ∃ older, plays = groups.flatten ++ older ∧
    (older ≠ [] → groups.length = limit) ∧ ∀ group ∈ groups, Apart group older

/-- The session has an item for each of its plays, in their order. -/
structure Shows (media : MediaTable) (plays : List Play)
    (session : ListenSession) : Prop where
  trackCount : session.trackCount = plays.length
  tracks : session.tracks.map some = plays.map fun play => media.row play.uri

/-- The plays of one session are of different tracks with cached rows. -/
def Resolvable (media : MediaTable) (plays : List Play) : Prop :=
  (plays.map Play.uri).Nodup ∧ ∀ play ∈ plays, (media.row play.uri).isSome

theorem dedupPlays_eq_append (deduped plays : List Play) :
    ∃ kept, dedupPlays deduped plays = deduped ++ kept ∧
      kept.Sublist plays := by
  induction plays generalizing deduped with
  | nil => exact ⟨[], (List.append_nil deduped).symm, .slnil⟩
  | cons play plays ih =>
    rw [dedupPlays]
    split
    · obtain ⟨kept, isAppend, sublist⟩ := ih deduped
      exact ⟨kept, isAppend, sublist.cons play⟩
    · obtain ⟨kept, isAppend, sublist⟩ := ih (deduped ++ [play])
      refine ⟨play :: kept, ?_, sublist.cons_cons play⟩
      rw [isAppend, List.append_assoc, List.singleton_append]

section

variable {limit : Nat} {localPlays recentPlays : List Play}

theorem dedupedPlays_sublist :
    (dedupedPlays limit localPlays recentPlays).Sublist
      ((localPlays.take (scanLimit limit) ++
        recentPlays.take (scanLimit limit)).mergeSort fun first second =>
          second.atMs ≤ first.atMs) := by
  obtain ⟨kept, isAppend, sublist⟩ := dedupPlays_eq_append []
    ((localPlays.take (scanLimit limit) ++
      recentPlays.take (scanLimit limit)).mergeSort fun first second =>
        second.atMs ≤ first.atMs)
  rw [List.nil_append] at isAppend
  rw [dedupedPlays, isAppend]
  exact sublist

/-- The plays are listed newest first. -/
theorem dedupedPlays_pairwise :
    (dedupedPlays limit localPlays recentPlays).Pairwise fun newer older =>
      older.atMs ≤ newer.atMs := by
  have sorted := @List.pairwise_mergeSort Play
    (fun first second => decide (second.atMs ≤ first.atMs))
    (fun first second third => by simp; omega)
    (fun first second => by simp; omega)
    (localPlays.take (scanLimit limit) ++ recentPlays.take (scanLimit limit))
  simp only [decide_eq_true_eq] at sorted
  exact sorted.sublist dedupedPlays_sublist

theorem length_dedupedPlays_le :
    (dedupedPlays limit localPlays recentPlays).length ≤ 10000 := by
  have shorter := (@dedupedPlays_sublist limit localPlays
    recentPlays).length_le
  rw [List.length_mergeSort, List.length_append, List.length_take,
    List.length_take] at shorter
  have atMost : scanLimit limit ≤ 5000 := by
    rw [scanLimit]
    omega
  omega

end

section

variable {limit : Nat} {plays : List Play}

/-- A run behind a gap is a group of its own. -/
theorem splitBy_append_run {full : List (List Play)} {current : List Play}
    (isSplit : full.flatten.splitBy withinGap = full)
    (notEmpty : current ≠ [])
    (isRun : current.IsChain fun newer older => withinGap newer older = true)
    (isCut : ∀ newer ∈ full.flatten.getLast?, ∀ older ∈ current.head?,
      withinGap newer older = false) :
    (full.flatten ++ current).splitBy withinGap = full ++ [current] := by
  rw [List.splitBy_append isCut, isSplit,
    List.splitBy_of_isChain notEmpty isRun]

/-- The loop makes the maximal runs of plays within the gap. -/
theorem splitSessions_append {full : List (List Play)} {current : List Play}
    (remaining : List Play)
    (isSplit : full.flatten.splitBy withinGap = full)
    (notEmpty : current ≠ [])
    (isRun : current.IsChain fun newer older => withinGap newer older = true)
    (isCut : ∀ newer ∈ full.flatten.getLast?, ∀ older ∈ current.head?,
      withinGap newer older = false)
    (room : full.length < limit) :
    splitSessions limit (full ++ [current]) remaining =
      ((full.flatten ++ (current ++ remaining)).splitBy withinGap).take
        limit := by
  induction remaining generalizing full current with
  | nil =>
    rw [splitSessions, List.append_nil,
      splitBy_append_run isSplit notEmpty isRun isCut,
      List.take_of_length_le]
    simp
    omega
  | cons play remaining ih =>
    obtain ⟨before, last, rfl⟩ : ∃ before last, current = before ++ [last] :=
      ⟨_, _, (List.dropLast_append_getLast notEmpty).symm⟩
    rw [splitSessions]
    simp only [List.getLast?_concat, Option.any_some, List.dropLast_concat]
    by_cases within : withinGap last play = true
    · rw [if_pos within]
      have longerRun : (before ++ [last] ++ [play]).IsChain
          fun newer older => withinGap newer older = true := by
        rw [List.isChain_append]
        refine ⟨isRun, List.isChain_singleton play, ?_⟩
        simpa using within
      have sameHead : ∀ older ∈ (before ++ [last] ++ [play]).head?,
          older ∈ (before ++ [last]).head? := by
        cases before <;> simp
      have longerCut : ∀ newer ∈ full.flatten.getLast?,
          ∀ older ∈ (before ++ [last] ++ [play]).head?,
            withinGap newer older = false :=
        fun newer isLast older isHead =>
          isCut newer isLast older (sameHead older isHead)
      rw [ih isSplit (by simp) longerRun longerCut room,
        List.append_assoc (before ++ [last]), List.singleton_append]
    · rw [if_neg within]
      have currentSplit := splitBy_append_run isSplit notEmpty isRun isCut
      have flatten : (full ++ [before ++ [last]]).flatten =
          full.flatten ++ (before ++ [last]) := by
        simp
      have nextCut : ∀ newer ∈ (full.flatten ++ (before ++ [last])).getLast?,
          withinGap newer play = false := by
        simpa [← List.append_assoc] using Bool.eq_false_of_not_eq_true within
      by_cases isFull : limit ≤ (full ++ [before ++ [last]]).length
      · have length : (full ++ [before ++ [last]]).length = limit := by
          simp only [List.length_append, List.length_singleton] at isFull ⊢
          omega
        rw [if_pos isFull, ← List.append_assoc,
          List.splitBy_append_cons remaining nextCut, currentSplit, ← length,
          List.take_left' rfl]
      · have next := @ih (full ++ [before ++ [last]]) [play]
          (by rw [flatten, currentSplit]) (List.cons_ne_nil play [])
          (List.isChain_singleton play) (by rw [flatten]; simpa using nextCut)
          (by omega)
        rw [if_neg isFull, next, flatten, List.singleton_append,
          List.append_assoc]

theorem splitSessions_eq (limit : Nat) (plays : List Play) :
    splitSessions limit [] plays = (plays.splitBy withinGap).take limit := by
  cases plays with
  | nil => simp [splitSessions]
  | cons play plays =>
    rw [splitSessions]
    simp only [List.getLast?_nil, List.length_nil, List.nil_append]
    by_cases isFull : limit ≤ 0
    · rw [if_pos isFull, Nat.le_zero.mp isFull, List.take_zero]
    · rw [if_neg isFull]
      have whole := @splitSessions_append limit [] [play] plays rfl
        (List.cons_ne_nil play []) (List.isChain_singleton play) (by simp)
        (Nat.lt_of_not_le isFull)
      simpa using whole

/-- Groups cut at a gap are apart by more than it. -/
theorem pairwise_apart {groups : List (List Play)}
    (descending : groups.flatten.Pairwise fun newer older =>
      older.atMs ≤ newer.atMs)
    (isCut : groups.IsChain fun newer older => ∃ newerNotEmpty olderNotEmpty,
      withinGap (newer.getLast newerNotEmpty) (older.head olderNotEmpty) =
        false) : groups.Pairwise Apart := by
  induction groups with
  | nil => exact .nil
  | cons newest groups ih =>
    rw [List.flatten_cons, List.pairwise_append] at descending
    obtain ⟨newestDescends, olderDescends, -⟩ := descending
    refine List.pairwise_cons.mpr ⟨?_, ih olderDescends isCut.tail⟩
    intro older member first inNewest second inOlder
    cases groups with
    | nil => cases member
    | cons next rest =>
      obtain ⟨newestNotEmpty, nextNotEmpty, gap⟩ :=
        (List.isChain_cons_cons.mp isCut).1
      have lastOldest : (newest.getLast newestNotEmpty).atMs ≤ first.atMs :=
        newestDescends.rel_getLast_of_rel_getLast_getLast inNewest (le_refl _)
      have inRest : second ∈ next ++ rest.flatten :=
        List.mem_flatten.mpr ⟨older, member, inOlder⟩
      have headNewest := olderDescends.rel_head_of_rel_head_head inRest
        (le_refl _)
      simp only [List.flatten_cons, List.head_append_of_ne_nil nextNotEmpty]
        at headNewest
      rw [withinGap, decide_eq_false_iff_not] at gap
      omega

/-- Plays that are apart are not within the gap. -/
theorem Apart.withinGap_eq_false {newer older : List Play}
    (apart : Apart newer older) {first second : Play} (inNewer : first ∈ newer)
    (inOlder : second ∈ older) : withinGap first second = false := by
  have gap := apart first inNewer second inOlder
  rw [withinGap, decide_eq_false_iff_not]
  omega

/-- The sessions are the first maximal runs of plays within the gap. -/
theorem sessionizes_iff {groups : List (List Play)}
    (descending : plays.Pairwise fun newer older =>
      older.atMs ≤ newer.atMs) :
    Sessionizes limit plays groups ↔
      groups = (plays.splitBy withinGap).take limit := by
  constructor
  · intro sessionizes
    obtain ⟨older, rfl, allUsed, olderApart⟩ := sessionizes.placed
    have groupsSplit : groups.flatten.splitBy withinGap = groups := by
      apply List.splitBy_flatten sessionizes.nonempty sessionizes.together
      apply List.IsChain.imp_of_mem_imp _ sessionizes.apart.isChain
      intro newerGroup olderGroup isNewer isOlder apart
      have newerNotEmpty : newerGroup ≠ [] :=
        fun isEmpty => sessionizes.nonempty (isEmpty ▸ isNewer)
      have olderNotEmpty : olderGroup ≠ [] :=
        fun isEmpty => sessionizes.nonempty (isEmpty ▸ isOlder)
      exact ⟨newerNotEmpty, olderNotEmpty,
        apart.withinGap_eq_false (List.getLast_mem _) (List.head_mem _)⟩
    have isCut : ∀ newer ∈ groups.flatten.getLast?, ∀ play ∈ older.head?,
        withinGap newer play = false := by
      intro newer isLast play isHead
      obtain ⟨group, member, inGroup⟩ :=
        List.mem_flatten.mp (List.mem_of_getLast? isLast)
      exact (olderApart group member).withinGap_eq_false inGroup
        (List.mem_of_head? isHead)
    rw [List.splitBy_append isCut, groupsSplit]
    by_cases noneOlder : older = []
    · rw [noneOlder, List.splitBy_nil, List.append_nil,
        List.take_of_length_le sessionizes.atMost]
    · rw [← allUsed noneOlder, List.take_left' rfl]
  · rintro rfl
    have whole := List.flatten_splitBy withinGap plays
    have apart : (plays.splitBy withinGap).Pairwise Apart := by
      apply pairwise_apart
      · rw [whole]
        exact descending
      · exact List.isChain_getLast_head_splitBy withinGap plays
    have parts := List.take_append_drop limit (plays.splitBy withinGap)
    refine ⟨List.length_take_le limit _, ?_, ?_, ?_, ?_⟩
    · exact fun member =>
        List.nil_notMem_splitBy withinGap plays (List.mem_of_mem_take member)
    · exact fun group member =>
        List.isChain_of_mem_splitBy (List.mem_of_mem_take member)
    · exact apart.sublist (List.take_sublist limit _)
    · refine ⟨((plays.splitBy withinGap).drop limit).flatten, ?_, ?_, ?_⟩
      · rw [← List.flatten_append, parts, whole]
      · intro someOlder
        have longer : limit < (plays.splitBy withinGap).length := by
          by_contra short
          rw [List.drop_of_length_le (Nat.le_of_not_lt short)] at someOlder
          exact someOlder rfl
        rw [List.length_take]
        omega
      · intro group member first inGroup second inOlder
        obtain ⟨older, isOlder, inGroupOlder⟩ := List.mem_flatten.mp inOlder
        rw [← parts, List.pairwise_append] at apart
        exact apart.2.2 group member older isOlder first inGroup second
          inGroupOlder

end

theorem takeItems_congr {first second : String → Option MediaItem}
    {uris : List String} (agree : ∀ uri ∈ uris, first uri = second uri) :
    takeItems first uris = takeItems second uris := by
  induction uris generalizing first second with
  | nil => rfl
  | cons uri uris ih =>
    have agreeRest : ∀ later ∈ uris, first later = second later :=
      fun later member => agree later (List.mem_cons_of_mem uri member)
    rw [takeItems, takeItems, agree uri List.mem_cons_self]
    cases second uri with
    | none => exact ih agreeRest
    | some item =>
      simp only [List.cons.injEq, true_and]
      apply ih
      intro later member
      by_cases same : later = uri
      · rw [same, Function.update_self, Function.update_self]
      · rw [Function.update_of_ne same, Function.update_of_ne same]
        exact agreeRest later member

theorem length_takeItems_le (byUri : String → Option MediaItem)
    (uris : List String) : (takeItems byUri uris).length ≤ uris.length := by
  induction uris generalizing byUri with
  | nil => exact le_refl _
  | cons uri uris ih =>
    rw [takeItems]
    cases byUri uri with
    | none => exact (ih byUri).trans (Nat.le_succ _)
    | some item => exact Nat.succ_le_succ (ih _)

/-- A row for every URI means that no URI is asked twice. -/
theorem of_length_takeItems {byUri : String → Option MediaItem}
    {uris : List String}
    (length : (takeItems byUri uris).length = uris.length) :
    uris.Nodup ∧ ∀ uri ∈ uris, (byUri uri).isSome := by
  induction uris generalizing byUri with
  | nil => simp
  | cons uri uris ih =>
    rw [takeItems] at length
    cases found : byUri uri with
    | none =>
      simp only [found, List.length_cons] at length
      have shorter := length_takeItems_le byUri uris
      omega
    | some item =>
      rw [found] at length
      obtain ⟨nodup, allFound⟩ := ih (Nat.succ.inj length)
      have notLater : uri ∉ uris := by
        intro member
        have again := allFound uri member
        rw [Function.update_self] at again
        cases again
      refine ⟨List.nodup_cons.mpr ⟨notLater, nodup⟩, ?_⟩
      intro later member
      rcases List.mem_cons.mp member with rfl | inRest
      · rw [found]
        rfl
      · have laterFound := allFound later inRest
        have differs : later ≠ uri := by
          rintro rfl
          exact notLater inRest
        rwa [Function.update_of_ne differs] at laterFound

theorem map_takeItems {byUri : String → Option MediaItem}
    {uris : List String} (nodup : uris.Nodup)
    (allFound : ∀ uri ∈ uris, (byUri uri).isSome) :
    (takeItems byUri uris).map some = uris.map byUri := by
  induction uris with
  | nil => rfl
  | cons uri uris ih =>
    rw [List.nodup_cons] at nodup
    obtain ⟨item, found⟩ := Option.isSome_iff_exists.mp
      (allFound uri List.mem_cons_self)
    have unchanged : takeItems (Function.update byUri uri none) uris =
        takeItems byUri uris := by
      apply takeItems_congr
      intro later member
      have differs : later ≠ uri := by
        rintro rfl
        exact nodup.1 member
      exact Function.update_of_ne differs none byUri
    rw [takeItems, found]
    simp only [List.map_cons, unchanged, found]
    rw [ih nodup.2 fun later member =>
      allFound later (List.mem_cons_of_mem uri member)]

/-- The looked-up items are those of the plays when each track is cached and
played once. -/
theorem map_mediaItemsByUris_iff (media : MediaTable) (uris : List String) :
    (mediaItemsByUris media uris).map some = uris.map media.row ↔
      uris.Nodup ∧ ∀ uri ∈ uris, (media.row uri).isSome := by
  have asked : ∀ uri ∈ uris,
      (if uri ∈ uris then media.row uri else none) = media.row uri :=
    fun uri member => if_pos member
  rw [mediaItemsByUris, takeItems_congr asked]
  constructor
  · intro same
    have length := congrArg List.length same
    rw [List.length_map, List.length_map] at length
    exact of_length_takeItems length
  · exact fun ⟨nodup, allFound⟩ => map_takeItems nodup allFound

/-- A session shows its plays exactly when they can be resolved. -/
theorem shows_assembleSession_iff {media : MediaTable} {plays : List Play}
    (bounded : plays.length < 2 ^ 32) :
    Shows media plays (assembleSession media plays) ↔
      Resolvable media plays := by
  have resolves := map_mediaItemsByUris_iff media (plays.map Play.uri)
  have cached : (∀ uri ∈ plays.map Play.uri, (media.row uri).isSome) ↔
      ∀ play ∈ plays, (media.row play.uri).isSome := by
    simp
  rw [cached, List.map_map] at resolves
  constructor
  · intro shows'
    exact resolves.mp shows'.tracks
  · intro resolvable
    have tracks := resolves.mpr resolvable
    refine ⟨?_, tracks⟩
    have length := congrArg List.length tracks
    rw [List.length_map, List.length_map] at length
    simp only [assembleSession, length]
    exact Nat.mod_eq_of_lt bounded

theorem length_le_of_mem_splitBy {plays group : List Play}
    (member : group ∈ plays.splitBy withinGap) :
    group.length ≤ plays.length := by
  have sublist := List.sublist_flatten_of_mem member
  rw [List.flatten_splitBy] at sublist
  exact sublist.length_le

/-- The sessions hold the listening history exactly when, in each of them, no
track is played twice and each is cached. -/
theorem listListenSessions_iff (limit : Nat)
    (localPlays recentPlays : List Play) (media : MediaTable) :
    (∃ groups,
      Sessionizes limit (dedupedPlays limit localPlays recentPlays) groups ∧
        List.Forall₂ (Shows media) groups
          (listListenSessions limit localPlays recentPlays media)) ↔
      ∀ group ∈ ((dedupedPlays limit localPlays recentPlays).splitBy
        withinGap).take limit, Resolvable media group := by
  have assembled : listListenSessions limit localPlays recentPlays media =
      (((dedupedPlays limit localPlays recentPlays).splitBy
        withinGap).take limit).map (assembleSession media) := by
    rw [listListenSessions]
    by_cases none : limit = 0
    · rw [if_pos none, none, List.take_zero, List.map_nil]
    · rw [if_neg none, splitSessions_eq]
  have eachShows : ∀ group ∈ ((dedupedPlays limit localPlays
      recentPlays).splitBy withinGap).take limit,
        (Shows media group (assembleSession media group) ↔
          Resolvable media group) := by
    intro group member
    have bound := length_le_of_mem_splitBy (List.mem_of_mem_take member)
    have total := @length_dedupedPlays_le limit localPlays recentPlays
    exact shows_assembleSession_iff (by omega)
  simp only [sessionizes_iff dedupedPlays_pairwise, exists_eq_left, assembled,
    List.forall₂_map_right_iff, List.forall₂_same]
  exact forall₂_congr eachShows

/-- Sessions that show all plays count each of them. -/
theorem sum_trackCount {limit : Nat} {plays : List Play}
    {groups : List (List Play)} {media : MediaTable}
    {sessions : List ListenSession}
    (sessionizes : Sessionizes limit plays groups)
    (shown : List.Forall₂ (Shows media) groups sessions)
    (room : sessions.length < limit) :
    (sessions.map ListenSession.trackCount).sum = plays.length := by
  obtain ⟨older, isAppend, allUsed, -⟩ := sessionizes.placed
  have noneOlder : older = [] := by
    by_contra someOlder
    have sameLength := shown.length_eq
    have full := allUsed someOlder
    omega
  rw [isAppend, noneOlder, List.append_nil, List.length_flatten]
  congr 1
  clear sessionizes isAppend allUsed room
  induction shown with
  | nil => rfl
  | cons head _ ih => rw [List.map_cons, List.map_cons, head.trackCount, ih]

def cachedTracks : MediaTable where
  row uri := some (MediaItem.stub uri)
  keyed := by
    intro uri item found
    cases found
    rfl

def repeatedPlays : List Play :=
  [⟨"a", 240000⟩, ⟨"b", 120000⟩, ⟨"a", 0⟩]

theorem dedupedPlays_repeatedPlays :
    dedupedPlays 10 repeatedPlays [] = repeatedPlays := by
  have descending : (repeatedPlays.take (scanLimit 10) ++
      List.take (scanLimit 10) []).Pairwise fun first second : Play =>
        decide (second.atMs ≤ first.atMs) = true := by
    decide
  rw [dedupedPlays, List.mergeSort_of_pairwise descending]
  decide

/-- A track played again after another one is shown once. -/
theorem repeatedTrack_shown_once :
    (listListenSessions 10 repeatedPlays [] cachedTracks).map
        (fun session =>
          (session.trackCount, session.tracks.map MediaItem.uri)) =
      [(2, ["a", "b"])] ∧
    ¬∃ groups,
      Sessionizes 10 (dedupedPlays 10 repeatedPlays []) groups ∧
        List.Forall₂ (Shows cachedTracks) groups
          (listListenSessions 10 repeatedPlays [] cachedTracks) := by
  rw [listListenSessions, dedupedPlays_repeatedPlays]
  refine ⟨by decide +kernel, ?_⟩
  rintro ⟨groups, sessionizes, shown⟩
  have total := sum_trackCount sessionizes shown (by decide +kernel)
  revert total
  decide +kernel

theorem count_foldl_moreFrequent {labels rest : List String}
    {best : Option String} {label : String}
    (result : rest.foldl (moreFrequent labels) best = some label) :
    (∀ earlier, best = some earlier →
      labels.count earlier ≤ labels.count label) ∧
      ∀ other ∈ rest, labels.count other ≤ labels.count label := by
  induction rest generalizing best with
  | nil =>
    refine ⟨?_, nofun⟩
    rintro earlier rfl
    cases result
    exact le_refl _
  | cons next rest ih =>
    obtain ⟨kept, others⟩ := ih result
    have nextKept : labels.count next ≤ labels.count label ∧
        ∀ earlier, best = some earlier →
          labels.count earlier ≤ labels.count label := by
      cases best with
      | none => exact ⟨kept next rfl, nofun⟩
      | some earlier =>
        rw [moreFrequent] at kept
        by_cases rarer : labels.count next < labels.count earlier
        · have atMost := kept earlier (by rw [if_pos rarer])
          refine ⟨by omega, ?_⟩
          rintro _ ⟨⟩
          exact atMost
        · have atMost := kept next (by rw [if_neg rarer])
          refine ⟨atMost, ?_⟩
          rintro _ ⟨⟩
          omega
    refine ⟨nextKept.2, ?_⟩
    intro other member
    rcases List.mem_cons.mp member with rfl | inRest
    · exact nextKept.1
    · exact others other inRest

/-- No other label of the items is more frequent. -/
theorem dominantContext_count {items : List MediaItem} {label : String}
    (dominant : dominantContext items = some label) :
    ∀ other ∈ items.filterMap sessionLabel,
      (items.filterMap sessionLabel).count other ≤
        (items.filterMap sessionLabel).count label :=
  (count_foldl_moreFrequent dominant).2

end ListeningHistory
end Spotuify
