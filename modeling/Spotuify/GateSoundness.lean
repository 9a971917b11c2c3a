import Spotuify.PlaylistGate
import Mathlib.Data.List.Nodup

/-!
# When the playlist gate is sound

A row's token names a version the provider has had, and a row whose tracks are
accessible holds the items of that version, unless the version is past and the
running pass will not compare it any more.  The pass keeps this by fetching
after it listed; a foreground read keeps it when it files its items under
their own token.
-/

namespace Spotuify

namespace PlaylistSync

variable {playlists : VersionedPlaylists} {state later : PlaylistSync}
  {pass : SyncPass}

theorem versionChanged_eq_false {playlist : Playlist} :
    pass.versionChanged playlist = false ↔
      ∃ token, pass.localTokens playlist.id = some token ∧
        playlist.versionToken = some token := by
  unfold SyncPass.versionChanged
  cases localToken : pass.localTokens playlist.id with
  | none =>
    cases playlist.versionToken <;>
      simp [shouldRefetchPlaylistTracksForProvider,
        shouldRefetchPlaylistTracks]
  | some token =>
    cases playlist.versionToken with
    | none =>
      simp [shouldRefetchPlaylistTracksForProvider,
        shouldRefetchPlaylistTracks]
    | some remote =>
      simp only [shouldRefetchPlaylistTracksForProvider, playlistVersionChanged,
        bne_eq_false_iff_eq, Option.some.injEq, exists_eq_left']
      exact eq_comm

/-- The tokens agree and the tracks are accessible, as far as an unforced pass
is concerned. -/
def Unchanged (state : PlaylistSync) (pass : SyncPass) (playlist : Playlist) :
    Prop :=
  (∃ token, pass.localTokens playlist.id = some token ∧
    playlist.versionToken = some token) ∧
  (pass.forceFull = false →
    state.playlistTracksAccessible playlist.id = true)

theorem unchanged_of_decideAccess {playlist : Playlist}
    (notInaccessible : ¬(!pass.forceFull &&
      !state.playlistTracksAccessible playlist.id &&
        pass.localTokens playlist.id == playlist.versionToken) = true)
    (same : pass.versionChanged playlist = false) :
    state.Unchanged pass playlist := by
  obtain ⟨token, localToken, remoteToken⟩ := versionChanged_eq_false.mp same
  refine ⟨⟨token, localToken, remoteToken⟩, ?_⟩
  intro notForced
  rw [localToken, remoteToken, notForced] at notInaccessible
  simpa using notInaccessible

theorem decideAccess_eq_countItems {playlist : Playlist}
    (decides : pass.decideAccess playlist
      (state.playlistTracksAccessible playlist.id) = .countItems) :
    state.Unchanged pass playlist := by
  unfold SyncPass.decideAccess at decides
  split at decides
  · cases decides
  · rename_i notInaccessible
    split at decides
    · rename_i counts
      have same : pass.versionChanged playlist = false := by
        simp only [Bool.and_eq_true, Bool.not_eq_true'] at counts
        exact counts.1
      exact unchanged_of_decideAccess notInaccessible same
    · split at decides <;> cases decides

theorem decideAccess_eq_skipUnchanged {playlist : Playlist}
    (decides : pass.decideAccess playlist
      (state.playlistTracksAccessible playlist.id) = .skipUnchanged) :
    pass.forceFull = false ∧ state.Unchanged pass playlist := by
  unfold SyncPass.decideAccess at decides
  split at decides
  · cases decides
  · rename_i notInaccessible
    split at decides
    · cases decides
    · split at decides
      · cases decides
      · rename_i notRefetched
        simp only [Bool.or_eq_true, not_or, Bool.not_eq_true] at notRefetched
        obtain ⟨notForced, same⟩ := notRefetched
        exact ⟨notForced, unchanged_of_decideAccess notInaccessible same⟩

theorem decideCount_eq_skipUnchanged {itemsCount : Nat}
    (decides : pass.decideCount itemsCount = .skipUnchanged) :
    pass.forceFull = false := by
  unfold SyncPass.decideCount at decides
  split at decides
  · cases decides
  · rename_i notRefetched
    simp only [Bool.or_eq_true, not_or, Bool.not_eq_true] at notRefetched
    exact notRefetched.1

/-- The provider listed the playlist at its present version or before. -/
def Listed (playlists : VersionedPlaylists) (state : PlaylistSync)
    (playlist : Playlist) : Prop :=
  ∃ version ≤ state.version playlist.id,
    playlist.versionToken = some (playlists.token playlist.id version)

/-- What the token of a row says about its items. -/
def RowSound (playlists : VersionedPlaylists) (state : PlaylistSync)
    (id : String) (row : CachedPlaylist) : Prop :=
  ∀ token, row.snapshotId = some token →
    ∃ version ≤ state.version id, token = playlists.token id version ∧
      (row.tracksAccessible = true →
        row.items = playlists.itemsAt id version ∨
          (version < state.version id ∧ ¬state.Awaits id token))

/-- The playlists a pass has still to gate are listed once each, and the
tokens it read for them are the stored ones. -/
structure Pending (playlists : VersionedPlaylists) (state : PlaylistSync)
    (localTokens : String → Option String) (remaining : List Playlist) :
    Prop where
  listed : ∀ playlist ∈ remaining, state.Listed playlists playlist
  distinct : (remaining.map Playlist.id).Nodup
  tokensRead : ∀ playlist ∈ remaining,
    localTokens playlist.id = state.playlistVersionToken playlist.id

/-- What holds of a pass in each of its phases. -/
def PhaseSound (playlists : VersionedPlaylists) (state : PlaylistSync)
    (pass : SyncPass) : PassPhase → Prop
  | .readingTokens unread =>
    (∀ playlist ∈ pass.listed, state.Listed playlists playlist) ∧
      (pass.listed.map Playlist.id).Nodup ∧
      ∀ playlist ∈ pass.listed, playlist ∈ unread ∨
        pass.localTokens playlist.id = state.playlistVersionToken playlist.id
  | .gating remaining => state.Pending playlists pass.localTokens remaining
  | .counting playlist remaining =>
    state.Pending playlists pass.localTokens (playlist :: remaining) ∧
      state.Unchanged pass playlist
  | .fetching playlist remaining | .marking playlist remaining =>
    state.Pending playlists pass.localTokens remaining ∧
      playlist.id ∉ remaining.map Playlist.id ∧
      state.Listed playlists playlist
  | .persisting playlist items remaining =>
    state.Pending playlists pass.localTokens remaining ∧
      playlist.id ∉ remaining.map Playlist.id ∧
      ∃ version fetched, version ≤ fetched ∧
        fetched ≤ state.version playlist.id ∧
        playlist.versionToken = some (playlists.token playlist.id version) ∧
        items = playlists.itemsAt playlist.id fetched

/-- The invariant of the cache and of the running pass. -/
structure Sound (playlists : VersionedPlaylists) (state : PlaylistSync) :
    Prop where
  rows : ∀ id row, state.cache id = some row → state.RowSound playlists id row
  pass : ∀ pass, state.pass = some pass →
    state.PhaseSound playlists pass pass.phase

theorem started_sound (version : String → Nat) :
    (started version).Sound playlists := by
  constructor
  · intro id row cached
    cases cached
  · intro pass running
    cases running

theorem Sound.row_of_unchanged (sound : state.Sound playlists)
    {playlist : Playlist} (running : state.pass = some pass)
    (notForced : pass.forceFull = false) (ungated : playlist ∈ pass.ungated)
    (stored : pass.localTokens playlist.id =
      state.playlistVersionToken playlist.id)
    (unchanged : state.Unchanged pass playlist) :
    ∃ version row,
      playlist.versionToken = some (playlists.token playlist.id version) ∧
        state.cache playlist.id = some row ∧
        row.snapshotId = playlist.versionToken ∧
        row.items = playlists.itemsAt playlist.id version := by
  obtain ⟨⟨token, localToken, remoteToken⟩, accessible⟩ := unchanged
  rw [localToken] at stored
  obtain ⟨row, cached, rowToken⟩ := Option.bind_eq_some_iff.mp stored.symm
  obtain ⟨version, _, named, items⟩ := sound.rows _ _ cached token rowToken
  have rowAccessible : row.tracksAccessible = true := by
    have read := accessible notForced
    simpa [playlistTracksAccessible, cached] using read
  have awaits : state.Awaits playlist.id token :=
    ⟨pass, running, notForced, playlist, ungated, rfl, remoteToken⟩
  refine ⟨version, row, by rw [remoteToken, named], cached,
    by rw [rowToken, remoteToken], ?_⟩
  rcases items rowAccessible with same | ⟨_, notAwaited⟩
  · exact same
  · exact absurd awaits notAwaited

theorem Sound.gateSound (sound : state.Sound playlists) :
    state.GateSound playlists := by
  intro playlist decides
  unfold decision at decides
  cases running : state.pass with
  | none => simp [running] at decides
  | some pass =>
    have phaseSound := sound.pass pass running
    rw [running] at decides
    dsimp only at decides
    cases phase : pass.phase with
    | gating remaining =>
      rw [phase] at decides phaseSound
      cases remaining with
      | nil => simp at decides
      | cons next rest =>
        simp only [Option.some.injEq, Prod.mk.injEq] at decides
        obtain ⟨rfl, skips⟩ := decides
        obtain ⟨notForced, unchanged⟩ := decideAccess_eq_skipUnchanged skips
        have member := List.mem_cons_self (a := next) (l := rest)
        apply sound.row_of_unchanged running notForced _
          (phaseSound.tokensRead _ member) unchanged
        rw [SyncPass.ungated, phase]
        exact member
    | counting next rest =>
      rw [phase] at decides phaseSound
      simp only [Option.some.injEq, Prod.mk.injEq] at decides
      obtain ⟨rfl, skips⟩ := decides
      obtain ⟨pending, unchanged⟩ := phaseSound
      have notForced := decideCount_eq_skipUnchanged skips
      have member := List.mem_cons_self (a := next) (l := rest)
      apply sound.row_of_unchanged running notForced _
        (pending.tokensRead _ member) unchanged
      rw [SyncPass.ungated, phase]
      exact member
    | _ => simp [phase] at decides

/-- A change that the running pass does not notice: no playlist goes back to
an older version, no stored token changes and no tracks become
inaccessible. -/
structure Unnoticed (state later : PlaylistSync) : Prop where
  version : ∀ id, state.version id ≤ later.version id
  tokens : ∀ id, later.playlistVersionToken id = state.playlistVersionToken id
  accessible : ∀ id, state.playlistTracksAccessible id = true →
    later.playlistTracksAccessible id = true

theorem Listed.mono {playlist : Playlist}
    (listed : state.Listed playlists playlist)
    (grows : ∀ id, state.version id ≤ later.version id) :
    later.Listed playlists playlist := by
  obtain ⟨version, past, named⟩ := listed
  exact ⟨version, past.trans (grows _), named⟩

theorem Pending.mono {localTokens : String → Option String}
    {remaining : List Playlist}
    (pending : state.Pending playlists localTokens remaining)
    (grows : ∀ id, state.version id ≤ later.version id)
    (tokens : ∀ playlist ∈ remaining,
      later.playlistVersionToken playlist.id =
        state.playlistVersionToken playlist.id) :
    later.Pending playlists localTokens remaining := by
  refine ⟨fun playlist member => (pending.listed playlist member).mono grows,
    pending.distinct, ?_⟩
  intro playlist member
  rw [tokens playlist member]
  exact pending.tokensRead playlist member

theorem Pending.tail {localTokens : String → Option String}
    {playlist : Playlist} {remaining : List Playlist}
    (pending : state.Pending playlists localTokens (playlist :: remaining)) :
    state.Pending playlists localTokens remaining ∧
      playlist.id ∉ remaining.map Playlist.id ∧
      state.Listed playlists playlist := by
  obtain ⟨notAgain, distinct⟩ := List.nodup_cons.mp pending.distinct
  refine ⟨⟨?_, distinct, ?_⟩, notAgain, pending.listed _ (by simp)⟩
  · intro other member
    exact pending.listed other (List.mem_cons_of_mem _ member)
  · intro other member
    exact pending.tokensRead other (List.mem_cons_of_mem _ member)

theorem PhaseSound.mono {phase : PassPhase}
    (holds : state.PhaseSound playlists pass phase)
    (unnoticed : Unnoticed state later) :
    later.PhaseSound playlists pass phase := by
  have grows := unnoticed.version
  have tokens : ∀ {remaining : List Playlist},
      state.Pending playlists pass.localTokens remaining →
        later.Pending playlists pass.localTokens remaining :=
    fun pending => pending.mono grows fun playlist _ =>
      unnoticed.tokens playlist.id
  cases phase with
  | readingTokens unread =>
    obtain ⟨listed, distinct, read⟩ := holds
    refine ⟨fun playlist member => (listed playlist member).mono grows,
      distinct, ?_⟩
    intro playlist member
    rw [unnoticed.tokens]
    exact read playlist member
  | gating remaining => exact tokens holds
  | counting playlist remaining =>
    obtain ⟨pending, sameToken, accessible⟩ := holds
    exact ⟨tokens pending, sameToken, fun notForced =>
      unnoticed.accessible _ (accessible notForced)⟩
  | fetching playlist remaining =>
    obtain ⟨pending, notAgain, listed⟩ := holds
    exact ⟨tokens pending, notAgain, listed.mono grows⟩
  | marking playlist remaining =>
    obtain ⟨pending, notAgain, listed⟩ := holds
    exact ⟨tokens pending, notAgain, listed.mono grows⟩
  | persisting playlist items remaining =>
    obtain ⟨pending, notAgain, version, fetched, before, past, named, same⟩ :=
      holds
    exact ⟨tokens pending, notAgain, version, fetched, before,
      past.trans (grows _), named, same⟩

/-- A row stays sound as long as no token of a past version is awaited
anew. -/
theorem RowSound.mono {id : String} {row : CachedPlaylist}
    (holds : state.RowSound playlists id row)
    (grows : ∀ id, state.version id ≤ later.version id)
    (awaits : ∀ version < state.version id,
      later.Awaits id (playlists.token id version) →
        state.Awaits id (playlists.token id version)) :
    later.RowSound playlists id row := by
  intro token rowToken
  obtain ⟨version, past, rfl, items⟩ := holds token rowToken
  refine ⟨version, past.trans (grows id), rfl, ?_⟩
  intro accessible
  rcases items accessible with same | ⟨older, notAwaited⟩
  · exact .inl same
  · exact .inr ⟨older.trans_le (grows id),
      fun awaited => notAwaited (awaits version older awaited)⟩

theorem rowSound_inserted (id : String) :
    state.RowSound playlists id .inserted := by
  intro token rowToken
  cases rowToken

theorem Awaits.of_pass {id token : String} {next : SyncPass}
    (running : state.pass = some pass) (goesOn : later.pass = some next)
    (force : next.forceFull = pass.forceFull)
    (ungated : ∀ playlist ∈ next.ungated, playlist ∈ pass.ungated)
    (awaits : later.Awaits id token) : state.Awaits id token := by
  obtain ⟨other, running', notForced, playlist, member, named⟩ := awaits
  rw [goesOn] at running'
  cases running'
  exact ⟨pass, running, force ▸ notForced, playlist,
    ungated playlist member, named⟩

theorem not_awaits_of_pass_none {id token : String}
    (stopped : later.pass = none) : ¬later.Awaits id token := by
  rintro ⟨pass, running, _⟩
  rw [stopped] at running
  cases running

theorem Sound.endPass (sound : state.Sound playlists) :
    state.endPass.Sound playlists := by
  constructor
  · intro id row cached
    refine (sound.rows id row cached).mono (fun _ => Nat.le_refl _) ?_
    intro version _ awaits
    exact absurd awaits (not_awaits_of_pass_none rfl)
  · intro pass running
    cases running

theorem Sound.setPhase (sound : state.Sound playlists)
    (running : state.pass = some pass) {next : SyncPass} {phase : PassPhase}
    (force : next.forceFull = pass.forceFull)
    (ungated : ∀ playlist ∈ { next with phase := phase }.ungated,
      playlist ∈ pass.ungated)
    (holds : state.PhaseSound playlists { next with phase := phase } phase) :
    (state.setPhase next phase).Sound playlists := by
  constructor
  · intro id row cached
    refine (sound.rows id row cached).mono (fun _ => Nat.le_refl _) ?_
    intro version _ awaits
    have goesOn : (state.setPhase next phase).pass =
        some { next with phase := phase } := rfl
    exact awaits.of_pass running goesOn force ungated
  · intro other running'
    cases running'
    exact holds.mono ⟨fun _ => Nat.le_refl _, fun _ => rfl, fun _ same => same⟩

theorem not_awaits_gating {id token : String} {remaining : List Playlist}
    (notAgain : id ∉ remaining.map Playlist.id) :
    ¬(state.setPhase pass (.gating remaining)).Awaits id token := by
  rintro ⟨other, running, _, playlist, member, same, _⟩
  cases running
  exact notAgain (List.mem_map.mpr ⟨playlist, member, same⟩)

/-- The pass stores a row and goes on to the next playlist. -/
theorem Sound.store (sound : state.Sound playlists)
    (running : state.pass = some pass) {id : String} {row : CachedPlaylist}
    {remaining : List Playlist}
    (ungated : ∀ playlist ∈ remaining, playlist ∈ pass.ungated)
    (pending : state.Pending playlists pass.localTokens remaining)
    (notAgain : id ∉ remaining.map Playlist.id)
    (rowSound : ((state.setRow id row).setPhase pass
      (.gating remaining)).RowSound playlists id row) :
    ((state.setRow id row).setPhase pass (.gating remaining)).Sound
      playlists := by
  constructor
  · intro other stored cached
    by_cases same : other = id
    · subst same
      change (state.setRow other row).cache other = some stored at cached
      rw [setRow_cache_self] at cached
      cases cached
      exact rowSound
    · have before : state.cache other = some stored :=
        (setRow_cache_of_ne state same row).symm.trans cached
      refine (sound.rows other stored before).mono (fun _ => Nat.le_refl _) ?_
      intro version _ awaits
      have goesOn : ((state.setRow id row).setPhase pass
          (.gating remaining)).pass =
            some { pass with phase := .gating remaining } := rfl
      exact awaits.of_pass running goesOn rfl ungated
  · intro other running'
    cases running'
    refine pending.mono (fun _ => Nat.le_refl _) ?_
    intro playlist member
    have different : playlist.id ≠ id := by
      rintro rfl
      exact notAgain (List.mem_map_of_mem member)
    exact congrArg (·.bind (·.snapshotId))
      (setRow_cache_of_ne state different row)

theorem Sound.follow (sound : state.Sound playlists)
    (running : state.pass = some pass) {playlist : Playlist}
    {remaining : List Playlist} {decision : GateDecision}
    (ungated : pass.ungated = playlist :: remaining)
    (pending : state.Pending playlists pass.localTokens (playlist :: remaining))
    (counts : decision = .countItems → state.Unchanged pass playlist) :
    (state.follow pass playlist remaining decision).Sound playlists := by
  obtain ⟨rest, notAgain, listed⟩ := pending.tail
  have tail : ∀ other ∈ remaining, other ∈ pass.ungated := by
    intro other member
    rw [ungated]
    exact List.mem_cons_of_mem _ member
  cases decision with
  | skipInaccessible => exact sound.setPhase running rfl tail rest
  | skipUnchanged => exact sound.setPhase running rfl tail rest
  | countItems =>
    apply sound.setPhase running rfl
    · intro other member
      rw [ungated]
      exact member
    · exact ⟨pending, counts rfl⟩
  | refetch =>
    exact sound.setPhase running rfl tail ⟨rest, notAgain, listed⟩

theorem Sound.readToken (sound : state.Sound playlists)
    (running : state.pass = some pass) {playlist : Playlist}
    {unread : List Playlist}
    (phase : pass.phase = .readingTokens (playlist :: unread)) :
    (state.setPhase
      { pass with
        localTokens := Function.update pass.localTokens playlist.id
          (state.playlistVersionToken playlist.id) }
      (.readingTokens unread)).Sound playlists := by
  have holds := sound.pass pass running
  rw [phase] at holds
  obtain ⟨listed, distinct, read⟩ := holds
  refine sound.setPhase running rfl ?_ ⟨listed, distinct, ?_⟩
  · intro other member
    rw [SyncPass.ungated, phase]
    exact member
  · intro other member
    by_cases same : other.id = playlist.id
    · right
      dsimp only
      rw [same, Function.update_self]
    · dsimp only
      rw [Function.update_of_ne same]
      rcases read other member with unreadStill | alreadyRead
      · rcases List.mem_cons.mp unreadStill with rfl | later
        · exact absurd rfl same
        · exact .inl later
      · exact .inr alreadyRead

/-- Replacing the rows keeps every stored token and inserts sound rows. -/
theorem Sound.replace (sound : state.Sound playlists)
    (running : state.pass = some pass) (phase : pass.phase = .readingTokens []) :
    ((state.replaceProviderPlaylists pass.listed).setPhase pass
      (.gating pass.listed)).Sound playlists := by
  have holds := sound.pass pass running
  rw [phase] at holds
  obtain ⟨listed, distinct, read⟩ := holds
  constructor
  · intro id row cached
    change (if id ∈ pass.listed.map Playlist.id then
      some ((state.cache id).getD .inserted) else none) = some row at cached
    split at cached
    · have before : state.RowSound playlists id row := by
        cases stored : state.cache id with
        | none =>
          rw [stored] at cached
          cases cached
          exact rowSound_inserted id
        | some old =>
          rw [stored] at cached
          cases cached
          exact sound.rows id old stored
      refine before.mono (fun _ => Nat.le_refl _) ?_
      intro version _ awaits
      have goesOn : ((state.replaceProviderPlaylists pass.listed).setPhase pass
          (.gating pass.listed)).pass =
            some { pass with phase := .gating pass.listed } := rfl
      apply awaits.of_pass running goesOn rfl
      intro playlist member
      rw [SyncPass.ungated, phase]
      exact member
    · cases cached
  · intro other running'
    cases running'
    refine ⟨listed, distinct, ?_⟩
    intro playlist member
    have readAlready : pass.localTokens playlist.id =
        state.playlistVersionToken playlist.id := by
      rcases read playlist member with unread | readAlready
      · cases unread
      · exact readAlready
    have listedId := List.mem_map_of_mem (f := Playlist.id) member
    change pass.localTokens playlist.id = Option.bind (if playlist.id ∈ _ then
      some ((state.cache playlist.id).getD .inserted) else none) _
    rw [if_pos listedId, readAlready]
    unfold playlistVersionToken
    cases state.cache playlist.id <;> rfl

theorem Sound.advance (sound : state.Sound playlists)
    (running : state.pass = some pass) (outcome : FetchOutcome) :
    (state.advance playlists pass outcome).Sound playlists := by
  have holds := sound.pass pass running
  unfold PlaylistSync.advance
  cases phase : pass.phase with
  | readingTokens unread =>
    cases unread with
    | cons playlist unread => exact sound.readToken running phase
    | nil =>
      have replaced := sound.replace running phase
      dsimp only
      split
      · exact replaced
      · exact replaced.endPass
  | gating remaining =>
    rw [phase] at holds
    cases remaining with
    | nil => exact sound.endPass
    | cons playlist remaining =>
      apply sound.follow running _ holds decideAccess_eq_countItems
      rw [SyncPass.ungated, phase]
  | counting playlist remaining =>
    rw [phase] at holds
    apply sound.follow running _ holds.1 fun _ => holds.2
    rw [SyncPass.ungated, phase]
  | fetching playlist remaining =>
    rw [phase] at holds
    have ungated : ∀ other ∈ remaining, other ∈ pass.ungated := by
      rw [SyncPass.ungated, phase]
      exact fun _ member => member
    obtain ⟨pending, notAgain, version, past, named⟩ := holds
    cases outcome with
    | available =>
      exact sound.setPhase running rfl ungated
        ⟨pending, notAgain, version, _, past, Nat.le_refl _, named, rfl⟩
    | temporarilyUnavailable =>
      exact sound.setPhase running rfl ungated pending
    | unavailable =>
      exact sound.setPhase running rfl ungated
        ⟨pending, notAgain, version, past, named⟩
    | forbidden =>
      exact sound.setPhase running rfl ungated
        ⟨pending, notAgain, version, past, named⟩
    | failed => exact sound.endPass
  | persisting playlist items remaining =>
    rw [phase] at holds
    have ungated : ∀ other ∈ remaining, other ∈ pass.ungated := by
      rw [SyncPass.ungated, phase]
      exact fun _ member => member
    obtain ⟨pending, notAgain, version, fetched, before, past, named, same⟩ :=
      holds
    dsimp only
    cases state.cache playlist.id with
    | none => exact sound.endPass
    | some row =>
      apply sound.store running ungated pending notAgain
      intro token rowToken
      have listedToken : token = playlists.token playlist.id version := by
        rw [CachedPlaylist.persistItems, named] at rowToken
        exact (Option.some.inj rowToken).symm
      refine ⟨version, before.trans past, listedToken, fun _ => ?_⟩
      rcases before.eq_or_lt with rfl | older
      · exact .inl same
      · exact .inr ⟨older.trans_le past, not_awaits_gating notAgain⟩
  | marking playlist remaining =>
    rw [phase] at holds
    have ungated : ∀ other ∈ remaining, other ∈ pass.ungated := by
      rw [SyncPass.ungated, phase]
      exact fun _ member => member
    obtain ⟨pending, notAgain, version, past, named⟩ := holds
    dsimp only
    cases state.cache playlist.id with
    | none => exact sound.setPhase running rfl ungated pending
    | some row =>
      apply sound.store running ungated pending notAgain
      intro token rowToken
      have listedToken : token = playlists.token playlist.id version := by
        rw [CachedPlaylist.markInaccessible, named] at rowToken
        exact (Option.some.inj rowToken).symm
      refine ⟨version, past, listedToken, ?_⟩
      intro accessible
      cases accessible

/-- A change that the pass does not notice only has to keep the rows sound. -/
theorem Sound.unnoticed (sound : state.Sound playlists)
    (unnoticed : Unnoticed state later) (samePass : later.pass = state.pass)
    (rows : ∀ id row, later.cache id = some row →
      later.RowSound playlists id row) : later.Sound playlists := by
  refine ⟨rows, ?_⟩
  intro pass running
  rw [samePass] at running
  exact (sound.pass pass running).mono unnoticed

theorem Sound.setRead (sound : state.Sound playlists) (read : Nat)
    (phase : Option ForegroundRead) :
    (state.setRead read phase).Sound playlists := by
  refine sound.unnoticed
    ⟨fun _ => Nat.le_refl _, fun _ => rfl, fun _ same => same⟩ rfl ?_
  intro id row cached
  exact (sound.rows id row cached).mono (fun _ => Nat.le_refl _)
    fun _ _ awaits => awaits

/-- A foreground read stores a row under the token that was stored. -/
theorem Sound.setRow (sound : state.Sound playlists) {id : String}
    {row : CachedPlaylist}
    (sameToken : row.snapshotId = state.playlistVersionToken id)
    (accessible : state.playlistTracksAccessible id = true →
      row.tracksAccessible = true)
    (rowSound : state.RowSound playlists id row) :
    (state.setRow id row).Sound playlists := by
  refine sound.unnoticed ⟨fun _ => Nat.le_refl _, ?_, ?_⟩ rfl ?_
  · intro other
    unfold playlistVersionToken
    by_cases same : other = id
    · subst same
      rw [setRow_cache_self, ← playlistVersionToken, ← sameToken]
      rfl
    · rw [setRow_cache_of_ne state same]
  · intro other
    unfold playlistTracksAccessible
    by_cases same : other = id
    · subst same
      rw [setRow_cache_self]
      exact accessible
    · rw [setRow_cache_of_ne state same]
      exact fun before => before
  · intro other stored cached
    have holds : state.RowSound playlists other stored := by
      by_cases same : other = id
      · subst same
        rw [setRow_cache_self] at cached
        cases cached
        exact rowSound
      · rw [setRow_cache_of_ne state same] at cached
        exact sound.rows other stored cached
    exact holds.mono (fun _ => Nat.le_refl _) fun _ _ awaits => awaits

theorem Sound.edit (sound : state.Sound playlists) (id : String) :
    PlaylistSync.Sound playlists
      { state with
        version := Function.update state.version id (state.version id + 1) } := by
  have grows : ∀ other, state.version other ≤
      Function.update state.version id (state.version id + 1) other := by
    intro other
    by_cases same : other = id
    · subst same
      rw [Function.update_self]
      omega
    · rw [Function.update_of_ne same]
  refine sound.unnoticed ⟨grows, fun _ => rfl, fun _ same => same⟩ rfl ?_
  intro other row cached
  exact (sound.rows other row cached).mono grows fun _ _ awaits => awaits

/-- A pass that starts awaits the present tokens only. -/
theorem Sound.list (sound : state.Sound playlists) (forceFull : Bool)
    {ids : List String} (distinct : ids.Nodup) :
    PlaylistSync.Sound playlists
      { state with
        pass := some
          { forceFull := forceFull,
            listed := ids.map (state.listing playlists),
            localTokens := fun _ => none,
            phase := .readingTokens (ids.map (state.listing playlists)) } } := by
  constructor
  · intro id row cached
    refine (sound.rows id row cached).mono (fun _ => Nat.le_refl _) ?_
    rintro version older ⟨pass, running, _, playlist, member, rfl, named⟩
    cases running
    obtain ⟨listedId, _, rfl⟩ := List.mem_map.mp member
    have present := playlists.token_injective _ (Option.some.inj named)
    dsimp only [listing] at older present
    omega
  · intro pass running
    cases running
    refine ⟨?_, ?_, fun playlist member => .inl member⟩
    · intro playlist member
      obtain ⟨id, _, rfl⟩ := List.mem_map.mp member
      exact ⟨_, Nat.le_refl _, rfl⟩
    · have sameIds : (ids.map (state.listing playlists)).map Playlist.id = ids := by
        rw [List.map_map]
        exact List.map_id ids
      rw [sameIds]
      exact distinct

theorem Sound.cachePlaylistItems (sound : state.Sound playlists) {id : String}
    {row : CachedPlaylist} {items : List String}
    (cached : state.cache id = some row)
    (ownToken : ∀ version, state.playlistVersionToken id =
        some (playlists.token id version) →
      (version = state.version id ∨
        state.Awaits id (playlists.token id version)) →
      items = playlists.itemsAt id version) :
    (state.setRow id (row.persistItems items none)).Sound playlists := by
  have stored : state.playlistVersionToken id = row.snapshotId := by
    rw [playlistVersionToken, cached]
    rfl
  refine sound.setRow stored.symm (fun _ => rfl) ?_
  intro token rowToken
  change row.snapshotId = some token at rowToken
  obtain ⟨version, past, rfl, _⟩ := sound.rows id row cached token rowToken
  refine ⟨version, past, rfl, fun _ => ?_⟩
  have same := ownToken version (stored.trans rowToken)
  by_cases compared : version = state.version id ∨
      state.Awaits id (playlists.token id version)
  · exact .inl (same compared)
  · rw [not_or] at compared
    exact .inr ⟨by omega, compared.2⟩

/-- A step keeps the cache sound, unless it files a foreground read's items
under a token that is not theirs. -/
theorem step_sound {next : PlaylistSync} {action : GateAction}
    (sound : state.Sound playlists)
    (ownToken : state.FilesUnderOwnToken playlists action)
    (steps : step playlists state action = some next) :
    next.Sound playlists := by
  cases action with
  | edit id =>
    cases steps
    exact sound.edit id
  | list forceFull ids =>
    simp only [step] at steps
    split at steps
    · cases steps
    · split at steps
      · rename_i distinct
        cases steps
        exact sound.list forceFull distinct
      · cases steps
  | advance outcome =>
    obtain ⟨pass, running, rfl⟩ := Option.map_eq_some_iff.mp steps
    exact sound.advance running outcome
  | cancel =>
    cases steps
    exact sound.endPass
  | resolve read id =>
    simp only [step] at steps
    split at steps
    · cases steps
    · cases steps
      exact sound.setRead read _
  | cachePlaylist read =>
    simp only [step] at steps
    split at steps
    · rename_i id _
      cases steps
      refine (sound.setRow ?_ ?_ ?_).setRead read _
      · unfold playlistVersionToken
        cases state.cache id <;> rfl
      · unfold playlistTracksAccessible
        cases state.cache id <;> exact fun same => same
      · cases cached : state.cache id with
        | none => exact rowSound_inserted id
        | some row => exact sound.rows id row cached
    · cases steps
  | collect read =>
    simp only [step] at steps
    split at steps
    · cases steps
      exact sound.setRead read _
    · cases steps
  | cachePlaylistItems read =>
    simp only [step] at steps
    split at steps
    · rename_i id items reading
      split at steps
      · cases steps
        exact sound.setRead read _
      · rename_i row cached
        cases steps
        exact (sound.cachePlaylistItems cached
          (ownToken id items reading)).setRead read _
    · cases steps
  | drop read =>
    cases steps
    exact sound.setRead read _

/-- In every run of sync passes, foreground reads and remote edits in which no
foreground read files its items under a token that is not theirs, a playlist
that a pass skips as unchanged is cached with the provider's items at that
token. -/
theorem gate_sound_of_own_tokens (playlists : VersionedPlaylists)
    (version : String → Nat) {actions : List GateAction}
    {final : PlaylistSync}
    (ownTokens : (machine playlists).StepsMeet
      (fun state action => state.FilesUnderOwnToken playlists action)
      (started version) actions)
    (runs : (machine playlists).run (started version) actions = some final) :
    final.GateSound playlists := by
  have sound : final.Sound playlists :=
    (machine playlists).run_preserves_of_stepsMeet
      (fun _ _ _ sound ownToken steps => step_sound sound ownToken steps)
      (started_sound version) ownTokens runs
  exact sound.gateSound

/-- A foreground read files the present items, under the present token or
under none. -/
def FilesPresentItems (playlists : VersionedPlaylists) (state : PlaylistSync) :
    GateAction → Prop
  | .cachePlaylistItems read =>
    match state.reads read with
    | some ⟨id, .collected items⟩ =>
      items = playlists.itemsAt id (state.version id) ∧
        (state.playlistVersionToken id = none ∨
          state.playlistVersionToken id =
            some (playlists.token id (state.version id)))
    | _ => True
  | _ => True

instance (action : GateAction) :
    Decidable (state.FilesPresentItems playlists action) := by
  unfold FilesPresentItems
  split
  · split <;> infer_instance
  · infer_instance

theorem FilesPresentItems.filesUnderOwnToken {action : GateAction}
    (present : state.FilesPresentItems playlists action) :
    state.FilesUnderOwnToken playlists action := by
  cases action with
  | cachePlaylistItems read =>
    intro id items reading version stored _
    simp only [FilesPresentItems, reading, stored] at present
    obtain ⟨rfl, missing | same⟩ := present
    · cases missing
    · rw [playlists.token_injective id (Option.some.inj same)]
  | _ => trivial

/-- `v`, `v'`, `v''` and so on. -/
def tickedToken : Nat → String
  | 0 => "v"
  | version + 1 => tickedToken version ++ "'"

theorem tickedToken_injective : Function.Injective tickedToken := by
  have length : ∀ version, (tickedToken version).length = version + 1 := by
    intro version
    induction version with
    | zero => rfl
    | succ version inductionHypothesis =>
      rw [tickedToken, String.length_append, inductionHypothesis]
      rfl
  intro first second same
  have sameLength := congrArg String.length same
  rw [length, length] at sameLength
  omega

/-- A provider whose playlists start with one track and get a second one. -/
def growingPlaylists : VersionedPlaylists where
  itemRead := true
  itemsAt := fun _ version =>
    if version = 0 then ["fake:track:a"] else ["fake:track:a", "fake:track:b"]
  tracksTotal := fun _ version => if version = 0 then 1 else 2
  token := fun _ => tickedToken
  token_injective := fun _ => tickedToken_injective

/-- A pass over one playlist up to its gate. -/
def passToGate : List GateAction :=
  [.list false ["fake:playlist:mix"], .advance .available, .advance .available]

/-- A pass that fetches and stores the items of one playlist. -/
def fetchingPass : List GateAction :=
  passToGate ++
    [.advance .available, .advance .available, .advance .available,
      .advance .available]

/-- A foreground read until it has collected the items. -/
def foregroundRead : List GateAction :=
  [.resolve 0 "fake:playlist:mix", .cachePlaylist 0, .collect 0]

theorem gate_sound_after_present_read :
    ∃ final, (machine growingPlaylists).run (started fun _ => 0)
        (fetchingPass ++ foregroundRead ++ [.cachePlaylistItems 0] ++
          passToGate ++ [.advance .available]) = some final ∧
      final.decision = some
        (⟨"fake:playlist:mix", some "v", 1⟩, .skipUnchanged) ∧
      final.GateSound growingPlaylists := by
  have decides : ((machine growingPlaylists).run (started fun _ => 0)
      (fetchingPass ++ foregroundRead ++ [.cachePlaylistItems 0] ++
        passToGate ++ [.advance .available])).bind decision =
      some (⟨"fake:playlist:mix", some "v", 1⟩, .skipUnchanged) := by
    decide +kernel
  obtain ⟨final, runs, skips⟩ := Option.bind_eq_some_iff.mp decides
  have present : (machine growingPlaylists).StepsMeet
      (fun state action => state.FilesPresentItems growingPlaylists action)
      (started fun _ => 0)
      (fetchingPass ++ foregroundRead ++ [.cachePlaylistItems 0] ++
        passToGate ++ [.advance .available]) := by
    decide +kernel
  have ownTokens := present.mono (machine growingPlaylists)
    fun _ _ => FilesPresentItems.filesUnderOwnToken
  exact ⟨final, runs, skips,
    gate_sound_of_own_tokens growingPlaylists (fun _ => 0) ownTokens runs⟩

/-- The read collects the first version, the playlist is edited, a pass stores
the second version, and the read files its items under the second token: the
next pass skips the playlist. -/
theorem gate_unsound_after_late_read :
    ¬∀ (playlists : VersionedPlaylists) (version : String → Nat)
      (actions : List GateAction) (final : PlaylistSync),
      (machine playlists).run (started version) actions = some final →
        final.GateSound playlists := by
  intro alwaysSound
  have observed : ((machine growingPlaylists).run (started fun _ => 0)
      (fetchingPass ++ foregroundRead ++ [.edit "fake:playlist:mix"] ++
        fetchingPass ++ [.cachePlaylistItems 0] ++ passToGate ++
          [.advance .available])).map
        (fun final => (final.decision, final.cache "fake:playlist:mix")) =
      some (some (⟨"fake:playlist:mix", some "v'", 2⟩, .skipUnchanged),
        some ⟨some "v'", true, ["fake:track:a"]⟩) := by
    decide +kernel
  obtain ⟨final, runs, read⟩ := Option.map_eq_some_iff.mp observed
  obtain ⟨skips, cached⟩ := Prod.mk.inj read
  obtain ⟨version, row, named, stored, -, items⟩ :=
    alwaysSound _ _ _ _ runs _ skips
  have sameToken : tickedToken 1 = tickedToken version :=
    Option.some.inj named
  have second : version = 1 := (tickedToken_injective sameToken).symm
  rw [second] at items
  rw [cached] at stored
  cases stored
  cases items

end PlaylistSync

end Spotuify
