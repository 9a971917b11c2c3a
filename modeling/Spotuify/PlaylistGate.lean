import Spotuify.GuardedMachine
import Mathlib.Data.Finset.Basic
import Mathlib.Logic.Function.Basic

/-!
# The playlist refetch gate

One provider's playlists are edited remotely while the daemon caches them.  A
sync pass lists the playlists, reads the tokens it stored for them, replaces
the cached rows and then fetches the items of each playlist its gate does not
skip.  A foreground read caches the row of one playlist, collects its items
and stores them.  Each provider read and each store access is one step, and
the passes of one provider run one after the other.
-/

namespace Spotuify

/-- One provider's playlists through all their edits: the item URIs, the
reported total and the token of every version of every playlist.  No two
versions of a playlist share a token. -/
structure VersionedPlaylists where
  itemRead : Bool
  itemsAt : String → Nat → List String
  tracksTotal : String → Nat → Nat
  token : String → Nat → String
  token_injective : ∀ id, Function.Injective (token id)

structure Playlist where
  id : String
  versionToken : Option String
  tracksTotal : Nat
  deriving DecidableEq

/-- A `playlists` row with its `playlist_items`. -/
structure CachedPlaylist where
  snapshotId : Option String
  tracksAccessible : Bool
  items : List String
  deriving DecidableEq

namespace CachedPlaylist

/-- The row inserted for a playlist that was not cached. -/
def inserted : CachedPlaylist where
  snapshotId := none
  tracksAccessible := true
  items := []

variable (row : CachedPlaylist)

/-- `persist_playlist_items_with`. -/
def persistItems (items : List String) (versionToken : Option String) :
    CachedPlaylist where
  snapshotId := versionToken.or row.snapshotId
  tracksAccessible := true
  items := items

/-- `mark_playlist_tracks_inaccessible_at_version`. -/
def markInaccessible (versionToken : Option String) : CachedPlaylist :=
  { row with
    snapshotId := versionToken.or row.snapshotId,
    tracksAccessible := false }

end CachedPlaylist

/-- The trait's `playlist_version_changed`. -/
def playlistVersionChanged : Option String → Option String → Bool
  | some previous, some current => previous != current
  | _, _ => true

def shouldRefetchPlaylistTracks : Option String → Option String → Bool
  | none, _ => true
  | _, none => true
  | some localToken, some remoteToken => localToken != remoteToken

def shouldRefetchPlaylistTracksForProvider
    (localToken remoteToken : Option String) : Bool :=
  match localToken, remoteToken with
  | some _, some _ => playlistVersionChanged localToken remoteToken
  | _, _ => shouldRefetchPlaylistTracks localToken remoteToken

inductive FetchOutcome where
  | available
  | temporarilyUnavailable
  | unavailable
  | forbidden
  | failed
  deriving DecidableEq

inductive PassPhase where
  | readingTokens (unread : List Playlist)
  | gating (remaining : List Playlist)
  | counting (playlist : Playlist) (remaining : List Playlist)
  | fetching (playlist : Playlist) (remaining : List Playlist)
  | persisting (playlist : Playlist) (items : List String)
      (remaining : List Playlist)
  | marking (playlist : Playlist) (remaining : List Playlist)

/-- A running `sync_playlists`. -/
structure SyncPass where
  forceFull : Bool
  listed : List Playlist
  localTokens : String → Option String
  phase : PassPhase

/-- What the gate does with a playlist after one of its reads. -/
inductive GateDecision where
  | skipInaccessible
  | skipUnchanged
  | countItems
  | refetch
  deriving DecidableEq

namespace SyncPass

variable (pass : SyncPass) (playlist : Playlist)

def versionChanged : Bool :=
  shouldRefetchPlaylistTracksForProvider (pass.localTokens playlist.id)
    playlist.versionToken

/-- The gate once it has read whether the tracks are accessible. -/
def decideAccess (tracksAccessible : Bool) : GateDecision :=
  if !pass.forceFull && !tracksAccessible
      && pass.localTokens playlist.id == playlist.versionToken then
    .skipInaccessible
  else if !pass.versionChanged playlist && 0 < playlist.tracksTotal then
    .countItems
  else if pass.forceFull || pass.versionChanged playlist then .refetch
  else .skipUnchanged

/-- The gate once it has counted the cached items of an unchanged playlist. -/
def decideCount (itemsCount : Nat) : GateDecision :=
  if pass.forceFull || itemsCount == 0 then .refetch else .skipUnchanged

/-- The playlists whose gate is still to come. -/
def ungated : List Playlist :=
  match pass.phase with
  | .readingTokens _ => pass.listed
  | .gating remaining => remaining
  | .counting playlist remaining => playlist :: remaining
  | .fetching _ remaining | .persisting _ _ remaining
  | .marking _ remaining => remaining

end SyncPass

inductive ReadPhase where
  | resolved
  | cached
  | collected (items : List String)

/-- A `PlaylistTracks` read that waits for the provider. -/
structure ForegroundRead where
  playlist : String
  phase : ReadPhase

/-- The provider's present versions, the cache, the running pass and the
foreground reads in flight. -/
structure PlaylistSync where
  version : String → Nat
  cache : String → Option CachedPlaylist
  pass : Option SyncPass
  reads : Nat → Option ForegroundRead

inductive GateAction where
  | edit (id : String)
  | list (forceFull : Bool) (ids : List String)
  | advance (outcome : FetchOutcome)
  | cancel
  | resolve (read : Nat) (id : String)
  | cachePlaylist (read : Nat)
  | collect (read : Nat)
  | cachePlaylistItems (read : Nat)
  | drop (read : Nat)

namespace PlaylistSync

/-- Nothing cached and nothing running. -/
def started (version : String → Nat) : PlaylistSync where
  version := version
  cache := fun _ => none
  pass := none
  reads := fun _ => none

variable (playlists : VersionedPlaylists) (state : PlaylistSync)

/-- How the provider lists a playlist now. -/
def listing (id : String) : Playlist where
  id := id
  versionToken := some (playlists.token id (state.version id))
  tracksTotal := playlists.tracksTotal id (state.version id)

def playlistVersionToken (id : String) : Option String :=
  (state.cache id).bind (·.snapshotId)

def playlistTracksAccessible (id : String) : Bool :=
  ((state.cache id).map (·.tracksAccessible)).getD true

def playlistItemsCount (id : String) : Nat :=
  ((state.cache id).map (·.items.length)).getD 0

def setRow (id : String) (row : CachedPlaylist) : PlaylistSync :=
  { state with cache := Function.update state.cache id (some row) }

@[simp]
theorem setRow_cache_self (id : String) (row : CachedPlaylist) :
    (state.setRow id row).cache id = some row :=
  Function.update_self ..

theorem setRow_cache_of_ne {id other : String} (different : other ≠ id)
    (row : CachedPlaylist) :
    (state.setRow id row).cache other = state.cache other :=
  Function.update_of_ne different ..

def setPhase (pass : SyncPass) (phase : PassPhase) : PlaylistSync :=
  { state with pass := some { pass with phase := phase } }

def endPass : PlaylistSync := { state with pass := none }

def setRead (read : Nat) (phase : Option ForegroundRead) : PlaylistSync :=
  { state with reads := Function.update state.reads read phase }

/-- `replace_provider_playlists_bulk` leaves a row for each listed playlist,
the one it had where there was one, and no other. -/
def replaceProviderPlaylists (listed : List Playlist) : PlaylistSync :=
  { state with
    cache := fun id =>
      if id ∈ listed.map Playlist.id then
        some ((state.cache id).getD .inserted)
      else none }

/-- What the pass decides at its next step. -/
def decision : Option (Playlist × GateDecision) :=
  match state.pass with
  | some pass =>
    match pass.phase with
    | .gating (playlist :: _) =>
      some (playlist, pass.decideAccess playlist
        (state.playlistTracksAccessible playlist.id))
    | .counting playlist _ =>
      some (playlist, pass.decideCount (state.playlistItemsCount playlist.id))
    | _ => none
  | none => none

/-- The pass goes on after a decision. -/
def follow (pass : SyncPass) (playlist : Playlist) (remaining : List Playlist) :
    GateDecision → PlaylistSync
  | .skipInaccessible | .skipUnchanged =>
    state.setPhase pass (.gating remaining)
  | .countItems => state.setPhase pass (.counting playlist remaining)
  | .refetch => state.setPhase pass (.fetching playlist remaining)

/-- The pass's next step; the outcome is the one of an item fetch. -/
def advance (pass : SyncPass) (outcome : FetchOutcome) : PlaylistSync :=
  match pass.phase with
  | .readingTokens (playlist :: unread) =>
    state.setPhase
      { pass with
        localTokens := Function.update pass.localTokens playlist.id
          (state.playlistVersionToken playlist.id) }
      (.readingTokens unread)
  | .readingTokens [] =>
    if playlists.itemRead then
      (state.replaceProviderPlaylists pass.listed).setPhase pass
        (.gating pass.listed)
    else (state.replaceProviderPlaylists pass.listed).endPass
  | .gating [] => state.endPass
  | .gating (playlist :: remaining) =>
    state.follow pass playlist remaining
      (pass.decideAccess playlist (state.playlistTracksAccessible playlist.id))
  | .counting playlist remaining =>
    state.follow pass playlist remaining
      (pass.decideCount (state.playlistItemsCount playlist.id))
  | .fetching playlist remaining =>
    match outcome with
    | .available =>
      state.setPhase pass (.persisting playlist
        (playlists.itemsAt playlist.id (state.version playlist.id)) remaining)
    | .temporarilyUnavailable => state.setPhase pass (.gating remaining)
    | .unavailable | .forbidden =>
      state.setPhase pass (.marking playlist remaining)
    | .failed => state.endPass
  | .persisting playlist items remaining =>
    match state.cache playlist.id with
    | none => state.endPass
    | some row =>
      (state.setRow playlist.id
        (row.persistItems items playlist.versionToken)).setPhase pass
          (.gating remaining)
  | .marking playlist remaining =>
    match state.cache playlist.id with
    | none => state.setPhase pass (.gating remaining)
    | some row =>
      (state.setRow playlist.id
        (row.markInaccessible playlist.versionToken)).setPhase pass
          (.gating remaining)

def step (state : PlaylistSync) : GateAction → Option PlaylistSync
  | .edit id =>
    some
      { state with
        version := Function.update state.version id (state.version id + 1) }
  | .list forceFull ids =>
    match state.pass with
    | some _ => none
    | none =>
      if ids.Nodup then
        let listed := ids.map (state.listing playlists)
        some
          { state with
            pass := some
              { forceFull := forceFull,
                listed := listed,
                localTokens := fun _ => none,
                phase := .readingTokens listed } }
      else none
  | .advance outcome =>
    state.pass.map fun pass => state.advance playlists pass outcome
  | .cancel => some state.endPass
  | .resolve read id =>
    match state.reads read with
    | some _ => none
    | none => some (state.setRead read (some ⟨id, .resolved⟩))
  | .cachePlaylist read =>
    match state.reads read with
    | some ⟨id, .resolved⟩ =>
      some ((state.setRow id ((state.cache id).getD .inserted)).setRead read
        (some ⟨id, .cached⟩))
    | _ => none
  | .collect read =>
    match state.reads read with
    | some ⟨id, .cached⟩ =>
      some (state.setRead read
        (some ⟨id, .collected (playlists.itemsAt id (state.version id))⟩))
    | _ => none
  | .cachePlaylistItems read =>
    match state.reads read with
    | some ⟨id, .collected items⟩ =>
      match state.cache id with
      | none => some (state.setRead read none)
      | some row =>
        some ((state.setRow id (row.persistItems items none)).setRead read
          none)
    | _ => none
  | .drop read => some (state.setRead read none)

def machine : GuardedMachine PlaylistSync GateAction where
  step := step playlists

/-- When the pass is about to skip a playlist as unchanged, the cache holds
the provider's items at the token both sides have. -/
def GateSound : Prop :=
  ∀ playlist, state.decision = some (playlist, .skipUnchanged) →
    ∃ version row,
      playlist.versionToken = some (playlists.token playlist.id version) ∧
        state.cache playlist.id = some row ∧
        row.snapshotId = playlist.versionToken ∧
        row.items = playlists.itemsAt playlist.id version

/-- The running pass may still skip a playlist because of a token. -/
def Awaits (id token : String) : Prop :=
  ∃ pass, state.pass = some pass ∧ pass.forceFull = false ∧
    ∃ playlist ∈ pass.ungated,
      playlist.id = id ∧ playlist.versionToken = some token

/-- A foreground read does not file its items under a token that they are not
the items of, as long as that token is the provider's present one or one the
running pass has still to compare. -/
def FilesUnderOwnToken : GateAction → Prop
  | .cachePlaylistItems read =>
    ∀ id items, state.reads read = some ⟨id, .collected items⟩ →
      ∀ version, state.playlistVersionToken id =
          some (playlists.token id version) →
        (version = state.version id ∨
          state.Awaits id (playlists.token id version)) →
        items = playlists.itemsAt id version
  | _ => True

end PlaylistSync

end Spotuify
