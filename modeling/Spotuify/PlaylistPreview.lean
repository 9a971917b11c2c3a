import Mathlib.Data.List.Forall2
import Spotuify.ResourceUri

/-!
# Previews of agent playlists

An agent's searches are resolved to candidates one after another, a track that
an earlier search selected being a duplicate.  The candidates travel as text
between two commands, so the preview of the playlist to create reads whatever
list it is given and says which tracks it adds, which candidates were not
resolved and which were removed as duplicates.
-/

namespace Spotuify

namespace AgentPlaylists

structure MediaItem where
  uri : String
  name : String
  subtitle : String
  kind : MediaKind
  isPlayable : Option Bool
  explicit : Option Bool
  source : Option String
  deriving DecidableEq

inductive CandidateStatus where
  | resolved
  | duplicate
  | unresolved
  deriving DecidableEq

/-- A candidate; its confidence is in hundredths. -/
structure ResolvedTrackCandidate where
  position : Nat
  query : String
  status : CandidateStatus
  chosenUri : Option String
  chosen : Option MediaItem
  confidence : Nat
  reason : String
  alternatives : List MediaItem
  duplicateOf : Option String
  explicit : Option Bool
  playable : Option Bool
  source : String
  deriving DecidableEq

structure PlaylistTrackSelection where
  position : Nat
  uri : String
  name : String
  subtitle : String
  explicit : Option Bool
  deriving DecidableEq

structure CandidateIssue where
  query : String
  reason : String
  uri : Option String
  deriving DecidableEq

structure PlaylistCreatePreview where
  action : String
  dryRun : Bool
  name : String
  requestedCandidateCount : Nat
  addedItemCount : Nat
  tracks : List PlaylistTrackSelection
  unresolved : List CandidateIssue
  duplicatesRemoved : List CandidateIssue
  warnings : List String
  createName : String
  createPublic : Bool
  addUris : List String
  deriving DecidableEq

/-- The URI a resolved candidate adds, if it names one. -/
def ResolvedTrackCandidate.trackUri (candidate : ResolvedTrackCandidate) :
    Option String :=
  candidate.chosenUri.or (candidate.chosen.map MediaItem.uri)

def ResolvedTrackCandidate.hasStatus (status : CandidateStatus)
    (candidate : ResolvedTrackCandidate) : Bool :=
  candidate.status = status

@[simp]
theorem ResolvedTrackCandidate.hasStatus_iff {status : CandidateStatus}
    {candidate : ResolvedTrackCandidate} :
    candidate.hasStatus status = true ↔ candidate.status = status :=
  decide_eq_true_iff

def selection (position : Nat) (uri : String)
    (candidate : ResolvedTrackCandidate) : PlaylistTrackSelection where
  position := position
  uri := uri
  name := (candidate.chosen.map MediaItem.name).getD uri
  subtitle := (candidate.chosen.map MediaItem.subtitle).getD ""
  explicit := candidate.explicit.or (candidate.chosen.bind MediaItem.explicit)

/-- The tracks of the remaining candidates, `kept` being how many there are
and `seen` their URIs. -/
def collectTracks (seen : List String) (kept : Nat) :
    List ResolvedTrackCandidate → List PlaylistTrackSelection
  | [] => []
  | candidate :: rest =>
    if candidate.hasStatus .resolved then
      match candidate.trackUri with
      | none => collectTracks seen kept rest
      | some uri =>
        if uri ∈ seen then
          collectTracks seen kept rest
        else
          selection (kept + 1) uri candidate ::
            collectTracks (uri :: seen) (kept + 1) rest
    else
      collectTracks seen kept rest

def playlistTracksFromCandidates (candidates : List ResolvedTrackCandidate) :
    List PlaylistTrackSelection :=
  collectTracks [] 0 candidates

def buildPlaylistPreview (name : String)
    (candidates : List ResolvedTrackCandidate) : PlaylistCreatePreview :=
  let tracks := playlistTracksFromCandidates candidates
  let unresolved :=
    (candidates.filter (·.hasStatus .unresolved)).map fun candidate =>
      CandidateIssue.mk candidate.query candidate.reason none
  let duplicatesRemoved :=
    (candidates.filter (·.hasStatus .duplicate)).map fun candidate =>
      CandidateIssue.mk candidate.query candidate.reason candidate.chosenUri
  let warnings :=
    (if tracks.isEmpty then ["no resolved tracks to add"] else []) ++
    (if unresolved.isEmpty then []
      else [toString unresolved.length ++ " unresolved candidate(s)"]) ++
    (if duplicatesRemoved.isEmpty then []
      else [toString duplicatesRemoved.length ++
        " duplicate candidate(s) removed"])
  { action := "playlist-create"
    dryRun := true
    name := name
    requestedCandidateCount := candidates.length
    addedItemCount := tracks.length
    tracks := tracks
    unresolved := unresolved
    duplicatesRemoved := duplicatesRemoved
    warnings := warnings
    createName := name
    createPublic := false
    addUris := tracks.map PlaylistTrackSelection.uri }

def confidence : Nat → Nat
  | 0 => 90
  | 1 | 2 => 75
  | _ => 60

def alternatives (items : List MediaItem) (chosenIndex : Nat) :
    List MediaItem :=
  (items.zipIdx.filter fun item => item.2 ≠ chosenIndex).map Prod.fst

/-- A candidate for an item that was found. -/
def foundCandidate (position : Nat) (query : String)
    (status : CandidateStatus) (tracks : List MediaItem) (item : MediaItem)
    (index : Nat) (reason : String) (duplicateOf : Option String) :
    ResolvedTrackCandidate where
  position := position
  query := query
  status := status
  chosenUri := some item.uri
  chosen := some item
  confidence := confidence index
  reason := reason
  alternatives := alternatives tracks index
  duplicateOf := duplicateOf
  explicit := item.explicit
  playable := item.isPlayable
  source := item.source.getD "unknown"

def resolveQuery (position : Nat) (query : String) (items : List MediaItem)
    (seen : List String) : ResolvedTrackCandidate × List String :=
  let tracks := items.filter fun item => item.kind = .track
  match tracks.zipIdx.find? fun item =>
      item.1.isPlayable ≠ some false ∧ item.1.uri ∉ seen with
  | some (chosen, index) =>
    let reason :=
      if index = 0 then "selected first playable track result"
      else "selected first playable non-duplicate track result"
    (foundCandidate position query .resolved tracks chosen index reason none,
      chosen.uri :: seen)
  | none =>
    match tracks.zipIdx.find? fun item =>
        item.1.isPlayable ≠ some false ∧ item.1.uri ∈ seen with
    | some (duplicate, index) =>
      (foundCandidate position query .duplicate tracks duplicate index
        "all playable matches were already selected" (some duplicate.uri),
        seen)
    | none =>
      ({ position := position
         query := query
         status := .unresolved
         chosenUri := none
         chosen := none
         confidence := 0
         reason :=
          if tracks.isEmpty then "no track results returned"
          else "no playable track results returned"
         alternatives := tracks
         duplicateOf := none
         explicit := none
         playable := none
         source := "none" }, seen)

def resolveQueries (searchResults : List (List MediaItem))
    (seen : List String) (index : Nat) :
    List String → List ResolvedTrackCandidate
  | [] => []
  | query :: rest =>
    let (candidate, seen) :=
      resolveQuery (index + 1) query (searchResults.getD index []) seen
    candidate :: resolveQueries searchResults seen (index + 1) rest

/-- `resolve_plan_candidates` of a plan's candidate searches. -/
def resolvePlanCandidates (candidateSearches : List String)
    (searchResults : List (List MediaItem)) : List ResolvedTrackCandidate :=
  resolveQueries searchResults [] 0 candidateSearches

/-- Every remaining candidate that is resolved adds a URI of its own. -/
structure AddsOnce (seen : List String)
    (candidates : List ResolvedTrackCandidate) : Prop where
  named : ∀ candidate ∈ candidates, candidate.status = .resolved →
    ∃ uri, candidate.trackUri = some uri ∧ uri ∉ seen
  distinct : ((candidates.filter (·.hasStatus .resolved)).map
    ResolvedTrackCandidate.trackUri).Nodup

theorem addsOnce_cons_of_resolved {seen : List String}
    {candidate : ResolvedTrackCandidate}
    {rest : List ResolvedTrackCandidate}
    (resolved : candidate.hasStatus .resolved = true) {uri : String}
    (named : candidate.trackUri = some uri) :
    AddsOnce seen (candidate :: rest) ↔
      uri ∉ seen ∧ AddsOnce (uri :: seen) rest := by
  constructor
  · rintro ⟨allNamed, distinct⟩
    obtain ⟨⟨own, ownNamed, fresh⟩, others⟩ :
        (∃ own, candidate.trackUri = some own ∧ own ∉ seen) ∧
          ∀ other ∈ rest, other.status = .resolved →
            ∃ uri, other.trackUri = some uri ∧ uri ∉ seen :=
      ⟨allNamed candidate List.mem_cons_self
          (ResolvedTrackCandidate.hasStatus_iff.mp resolved),
        fun other member => allNamed other (List.mem_cons_of_mem _ member)⟩
    obtain rfl : uri = own := Option.some.inj (named.symm.trans ownNamed)
    rw [List.filter_cons_of_pos resolved, List.map_cons, List.nodup_cons,
      named] at distinct
    refine ⟨fresh, ?_, distinct.2⟩
    intro other member otherResolved
    obtain ⟨otherUri, otherNamed, otherFresh⟩ :=
      others other member otherResolved
    refine ⟨otherUri, otherNamed, ?_⟩
    rw [List.mem_cons, not_or]
    refine ⟨?_, otherFresh⟩
    rintro rfl
    refine distinct.1 (List.mem_map.mpr ⟨other, ?_, otherNamed⟩)
    exact List.mem_filter.mpr
      ⟨member, ResolvedTrackCandidate.hasStatus_iff.mpr otherResolved⟩
  · rintro ⟨fresh, allNamed, distinct⟩
    refine ⟨?_, ?_⟩
    · intro other member otherResolved
      rcases List.mem_cons.mp member with rfl | member
      · exact ⟨uri, named, fresh⟩
      · obtain ⟨otherUri, otherNamed, otherFresh⟩ :=
          allNamed other member otherResolved
        exact ⟨otherUri, otherNamed, fun seen =>
          otherFresh (List.mem_cons_of_mem _ seen)⟩
    · rw [List.filter_cons_of_pos resolved, List.map_cons, List.nodup_cons,
        named]
      refine ⟨?_, distinct⟩
      intro repeated
      obtain ⟨other, member, otherNamed⟩ := List.mem_map.mp repeated
      obtain ⟨member, otherResolved⟩ := List.mem_filter.mp member
      obtain ⟨otherUri, again, otherFresh⟩ := allNamed other member
        (ResolvedTrackCandidate.hasStatus_iff.mp otherResolved)
      rw [otherNamed] at again
      cases again
      exact otherFresh List.mem_cons_self

theorem addsOnce_cons_of_not_resolved {seen : List String}
    {candidate : ResolvedTrackCandidate}
    {rest : List ResolvedTrackCandidate}
    (other : candidate.hasStatus .resolved = false) :
    AddsOnce seen (candidate :: rest) ↔ AddsOnce seen rest := by
  have notResolved : candidate.status ≠ .resolved := fun resolved =>
    Bool.eq_false_iff.mp other
      (ResolvedTrackCandidate.hasStatus_iff.mpr resolved)
  constructor
  · rintro ⟨named, distinct⟩
    rw [List.filter_cons_of_neg (by simp [other])] at distinct
    exact ⟨fun next member => named next (List.mem_cons_of_mem _ member),
      distinct⟩
  · rintro ⟨named, distinct⟩
    refine ⟨?_, by rwa [List.filter_cons_of_neg (by simp [other])]⟩
    intro next member resolved
    rcases List.mem_cons.mp member with rfl | member
    · exact absurd resolved notResolved
    · exact named next member resolved

/-- A track was selected for a candidate. -/
def Selects (track : PlaylistTrackSelection)
    (candidate : ResolvedTrackCandidate) : Prop :=
  candidate.trackUri = some track.uri

/-- An issue is about a candidate. -/
def Mentions (issue : CandidateIssue) (candidate : ResolvedTrackCandidate) :
    Prop :=
  issue.query = candidate.query ∧ issue.reason = candidate.reason

/-- The tracks' URIs are the candidates' in their order, none seen before and
none twice. -/
theorem collectTracks_uris (seen : List String) (kept : Nat)
    (candidates : List ResolvedTrackCandidate) :
    ((collectTracks seen kept candidates).map
      PlaylistTrackSelection.uri).Sublist
        (candidates.filterMap ResolvedTrackCandidate.trackUri) ∧
    ((collectTracks seen kept candidates).map
      PlaylistTrackSelection.uri).Nodup ∧
    ∀ track ∈ collectTracks seen kept candidates, track.uri ∉ seen := by
  induction candidates generalizing seen kept with
  | nil => simp [collectTracks]
  | cons candidate rest inductionHypothesis =>
    rw [collectTracks]
    have skipped := inductionHypothesis seen kept
    have sublist : (rest.filterMap ResolvedTrackCandidate.trackUri).Sublist
        ((candidate :: rest).filterMap ResolvedTrackCandidate.trackUri) :=
      (List.sublist_cons_self candidate rest).filterMap _
    by_cases resolved : candidate.hasStatus .resolved = true
    · rw [if_pos resolved]
      cases named : candidate.trackUri with
      | none => exact ⟨skipped.1.trans sublist, skipped.2⟩
      | some uri =>
        dsimp only
        by_cases repeated : uri ∈ seen
        · rw [if_pos repeated]
          exact ⟨skipped.1.trans sublist, skipped.2⟩
        · rw [if_neg repeated]
          obtain ⟨order, nodup, fresh⟩ :=
            inductionHypothesis (uri :: seen) (kept + 1)
          refine ⟨?_, ?_, ?_⟩
          · rw [List.map_cons, List.filterMap_cons_some named]
            exact order.cons_cons uri
          · rw [List.map_cons, List.nodup_cons]
            refine ⟨?_, nodup⟩
            intro again
            obtain ⟨track, member, same⟩ := List.mem_map.mp again
            have other := fresh track member
            rw [same] at other
            exact other List.mem_cons_self
          · intro track member
            rcases List.mem_cons.mp member with rfl | member
            · exact repeated
            · exact fun old =>
                fresh track member (List.mem_cons_of_mem uri old)
    · rw [if_neg resolved]
      exact ⟨skipped.1.trans sublist, skipped.2⟩

theorem collectTracks_length_le (seen : List String) (kept : Nat)
    (candidates : List ResolvedTrackCandidate) :
    (collectTracks seen kept candidates).length ≤
      (candidates.filter (·.hasStatus .resolved)).length := by
  induction candidates generalizing seen kept with
  | nil => exact Nat.le_refl 0
  | cons candidate rest inductionHypothesis =>
    rw [collectTracks]
    by_cases resolved : candidate.hasStatus .resolved = true
    · rw [if_pos resolved, List.filter_cons_of_pos resolved, List.length_cons]
      have skipped := inductionHypothesis seen kept
      cases named : candidate.trackUri with
      | none => exact Nat.le_succ_of_le skipped
      | some uri =>
        dsimp only
        by_cases repeated : uri ∈ seen
        · rw [if_pos repeated]
          exact Nat.le_succ_of_le skipped
        · rw [if_neg repeated, List.length_cons]
          exact Nat.succ_le_succ (inductionHypothesis (uri :: seen) (kept + 1))
    · rw [if_neg resolved, List.filter_cons_of_neg resolved]
      exact inductionHypothesis seen kept

/-- There is a track for each resolved candidate exactly when every one of
them adds a URI of its own. -/
theorem collectTracks_length_eq_iff (seen : List String) (kept : Nat)
    (candidates : List ResolvedTrackCandidate) :
    (collectTracks seen kept candidates).length =
        (candidates.filter (·.hasStatus .resolved)).length ↔
      AddsOnce seen candidates := by
  induction candidates generalizing seen kept with
  | nil =>
    exact ⟨fun _ => ⟨by simp, List.nodup_nil⟩, fun _ => rfl⟩
  | cons candidate rest inductionHypothesis =>
    rw [collectTracks]
    by_cases resolved : candidate.hasStatus .resolved = true
    · rw [if_pos resolved, List.filter_cons_of_pos resolved, List.length_cons]
      have short := collectTracks_length_le seen kept rest
      cases named : candidate.trackUri with
      | none =>
        refine ⟨fun same => ?_, fun adds => ?_⟩
        · exact absurd same (Nat.ne_of_lt (Nat.lt_succ_of_le short))
        · obtain ⟨uri, present, -⟩ := adds.named candidate
            List.mem_cons_self
            (ResolvedTrackCandidate.hasStatus_iff.mp resolved)
          rw [named] at present
          cases present
      | some uri =>
        rw [addsOnce_cons_of_resolved resolved named]
        dsimp only
        by_cases repeated : uri ∈ seen
        · rw [if_pos repeated]
          exact
            ⟨fun same => absurd same (Nat.ne_of_lt (Nat.lt_succ_of_le short)),
              fun adds => absurd repeated adds.1⟩
        · rw [if_neg repeated, List.length_cons, Nat.succ_inj,
            inductionHypothesis]
          exact ⟨fun adds => ⟨repeated, adds⟩, And.right⟩
    · rw [if_neg resolved, List.filter_cons_of_neg resolved,
        addsOnce_cons_of_not_resolved (Bool.eq_false_iff.mpr resolved)]
      exact inductionHypothesis seen kept

/-- Then the tracks are those of the resolved candidates, one for each. -/
theorem collectTracks_selects {seen : List String} (kept : Nat)
    {candidates : List ResolvedTrackCandidate}
    (adds : AddsOnce seen candidates) :
    List.Forall₂ Selects (collectTracks seen kept candidates)
      (candidates.filter (·.hasStatus .resolved)) := by
  induction candidates generalizing seen kept with
  | nil => exact .nil
  | cons candidate rest inductionHypothesis =>
    rw [collectTracks]
    by_cases resolved : candidate.hasStatus .resolved = true
    · obtain ⟨uri, named, fresh⟩ := adds.named candidate List.mem_cons_self
        (ResolvedTrackCandidate.hasStatus_iff.mp resolved)
      rw [addsOnce_cons_of_resolved resolved named] at adds
      simp only [if_pos resolved, named, if_neg fresh,
        List.filter_cons_of_pos resolved]
      exact .cons named (inductionHypothesis (kept + 1) adds.2)
    · rw [if_neg resolved, List.filter_cons_of_neg resolved]
      rw [addsOnce_cons_of_not_resolved (Bool.eq_false_iff.mpr resolved)]
        at adds
      exact inductionHypothesis kept adds

/-- Every candidate is behind exactly one entry of the preview. -/
def Accounts (preview : PlaylistCreatePreview)
    (candidates : List ResolvedTrackCandidate) : Prop :=
  ∃ added unresolved removed : List ResolvedTrackCandidate,
    (added ++ unresolved ++ removed).Perm candidates ∧
    List.Forall₂ Selects preview.tracks added ∧
    List.Forall₂ Mentions preview.unresolved unresolved ∧
    List.Forall₂ Mentions preview.duplicatesRemoved removed

/-- The URIs to add are the previewed tracks', each once and in the order of
the candidates. -/
structure AddsTracks (preview : PlaylistCreatePreview)
    (candidates : List ResolvedTrackCandidate) : Prop where
  tracks : preview.addUris = preview.tracks.map PlaylistTrackSelection.uri
  nodup : preview.addUris.Nodup
  order : preview.addUris.Sublist
    (candidates.filterMap ResolvedTrackCandidate.trackUri)

theorem buildPlaylistPreview_addsTracks (name : String)
    (candidates : List ResolvedTrackCandidate) :
    AddsTracks (buildPlaylistPreview name candidates) candidates := by
  obtain ⟨order, nodup, -⟩ := collectTracks_uris [] 0 candidates
  exact
    { tracks := rfl
      nodup := nodup
      order := order }

theorem filter_status_perm (candidates : List ResolvedTrackCandidate) :
    (candidates.filter (·.hasStatus .resolved) ++
      candidates.filter (·.hasStatus .unresolved) ++
      candidates.filter (·.hasStatus .duplicate)).Perm candidates := by
  induction candidates with
  | nil => exact .nil
  | cons candidate rest inductionHypothesis =>
    have status (status : CandidateStatus) :
        (candidate :: rest).filter (·.hasStatus status) =
          if candidate.status = status then
            candidate :: rest.filter (·.hasStatus status)
          else rest.filter (·.hasStatus status) := by
      simp [List.filter_cons]
    rw [status, status, status]
    cases candidate.status with
    | resolved => exact inductionHypothesis.cons candidate
    | unresolved =>
      rw [List.append_assoc] at inductionHypothesis ⊢
      exact List.perm_middle.trans (inductionHypothesis.cons candidate)
    | duplicate =>
      exact List.perm_middle.trans (inductionHypothesis.cons candidate)

/-- The preview accounts for every candidate exactly when each resolved one
adds a URI that no other resolved one adds. -/
theorem buildPlaylistPreview_accounts_iff (name : String)
    (candidates : List ResolvedTrackCandidate) :
    Accounts (buildPlaylistPreview name candidates) candidates ↔
      AddsOnce [] candidates := by
  constructor
  · rintro ⟨added, unresolved, removed, permuted, selects, mentions, others⟩
    rw [← collectTracks_length_eq_iff [] 0]
    have total := permuted.length_eq
    have split := (filter_status_perm candidates).length_eq
    have tracks := selects.length_eq
    have unresolvedLength := mentions.length_eq
    have removedLength := others.length_eq
    simp only [buildPlaylistPreview, List.length_map,
      playlistTracksFromCandidates, List.length_append] at *
    omega
  · intro adds
    refine ⟨_, _, _, filter_status_perm candidates,
      collectTracks_selects 0 adds, ?_, ?_⟩
    · exact List.forall₂_map_left_iff.mpr
        (List.forall₂_same.mpr fun _ _ => ⟨rfl, rfl⟩)
    · exact List.forall₂_map_left_iff.mpr
        (List.forall₂_same.mpr fun _ _ => ⟨rfl, rfl⟩)

/-- A query is resolved to a new track, which is then seen, or selects
nothing. -/
theorem resolveQuery_cases (position : Nat) (query : String)
    (items : List MediaItem) (seen : List String) :
    let (candidate, seen') := resolveQuery position query items seen
    (candidate.status = .resolved ∧
      ∃ uri, candidate.trackUri = some uri ∧ uri ∉ seen ∧
        seen' = uri :: seen) ∨
    (candidate.status ≠ .resolved ∧ seen' = seen) := by
  unfold resolveQuery
  dsimp only
  split
  · rename_i chosen index found
    have fresh := List.find?_some found
    simp only [decide_eq_true_eq] at fresh
    exact .inl ⟨rfl, chosen.uri, rfl, fresh.2, rfl⟩
  · split
    · exact .inr ⟨nofun, rfl⟩
    · exact .inr ⟨nofun, rfl⟩

theorem resolveQueries_addsOnce (searchResults : List (List MediaItem))
    (seen : List String) (index : Nat) (searches : List String) :
    AddsOnce seen (resolveQueries searchResults seen index searches) := by
  induction searches generalizing seen index with
  | nil => exact ⟨by simp [resolveQueries], List.nodup_nil⟩
  | cons query rest inductionHypothesis =>
    rw [resolveQueries]
    have cases := resolveQuery_cases (index + 1) query
      (searchResults.getD index []) seen
    dsimp only at cases ⊢
    rcases cases with ⟨resolved, uri, named, fresh, later⟩ | ⟨other, same⟩
    · rw [addsOnce_cons_of_resolved
        (ResolvedTrackCandidate.hasStatus_iff.mpr resolved) named, later]
      exact ⟨fresh, inductionHypothesis _ _⟩
    · rw [addsOnce_cons_of_not_resolved (Bool.eq_false_iff.mpr fun resolved =>
        other (ResolvedTrackCandidate.hasStatus_iff.mp resolved)), same]
      exact inductionHypothesis _ _

/-- The preview of what the resolver made of a plan accounts for every
search. -/
theorem preview_of_resolved_plan_accounts (name : String)
    (searches : List String) (searchResults : List (List MediaItem)) :
    Accounts
      (buildPlaylistPreview name
        (resolvePlanCandidates searches searchResults))
      (resolvePlanCandidates searches searchResults) :=
  (buildPlaylistPreview_accounts_iff name _).mpr
    (resolveQueries_addsOnce searchResults [] 0 searches)

/-- The preview of any candidates adds its tracks once and in order, and it
accounts for every candidate exactly when each resolved one has a URI that no
other resolved one has. -/
theorem preview_accounts_iff (name : String)
    (candidates : List ResolvedTrackCandidate) :
    (Accounts (buildPlaylistPreview name candidates) candidates ∧
      AddsTracks (buildPlaylistPreview name candidates) candidates) ↔
      (∀ candidate ∈ candidates, candidate.status = .resolved →
        candidate.trackUri.isSome) ∧
      ((candidates.filter (·.hasStatus .resolved)).map
        ResolvedTrackCandidate.trackUri).Nodup := by
  rw [and_iff_left (buildPlaylistPreview_addsTracks name candidates),
    buildPlaylistPreview_accounts_iff]
  constructor
  · rintro ⟨named, distinct⟩
    refine ⟨fun candidate member resolved => ?_, distinct⟩
    obtain ⟨uri, present, -⟩ := named candidate member resolved
    rw [present]
    rfl
  · rintro ⟨named, distinct⟩
    refine ⟨fun candidate member resolved => ?_, distinct⟩
    obtain ⟨uri, present⟩ :=
      Option.isSome_iff_exists.mp (named candidate member resolved)
    exact ⟨uri, present, List.not_mem_nil⟩

/-- A resolved candidate that was chosen by hand. -/
def chosenByHand (query uri : String) : ResolvedTrackCandidate where
  position := 1
  query := query
  status := .resolved
  chosenUri := some uri
  chosen := none
  confidence := 90
  reason := "selected"
  alternatives := []
  duplicateOf := none
  explicit := none
  playable := none
  source := "spotify"

/-- Of two resolved candidates with one URI the second is nowhere in the
preview. -/
theorem repeated_uri_unaccounted :
    ¬ Accounts
      (buildPlaylistPreview "Mix"
        [chosenByHand "one" "spotify:track:1",
          chosenByHand "two" "spotify:track:1"])
      [chosenByHand "one" "spotify:track:1",
        chosenByHand "two" "spotify:track:1"] := by
  rintro ⟨added, unresolved, removed, permuted, selects, mentions, others⟩
  have total := permuted.length_eq
  rw [List.length_append, List.length_append, ← selects.length_eq,
    ← mentions.length_eq, ← others.length_eq] at total
  revert total
  decide +kernel

end AgentPlaylists

end Spotuify
