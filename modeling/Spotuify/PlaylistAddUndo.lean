import Spotuify.UndoPlan

/-!
# Undoing a playlist add

`PlaylistAddItems` captures the playlist's version token before it writes,
stores a removal plan guarded by that token, and appends the items.  Undo
compares the stored token with the current one and removes every occurrence of
the added URIs.  The two halves meet here, for every playlist and every list
of added items.
-/

namespace Spotuify

/-- A playlist as `resolve_provider_playlist` returns it: it is stored by the
provider, it is a playlist of the provider's namespace, and the registry routes
that namespace. -/
structure ResolvedPlaylist (provider : VersionedProvider)
    (topology : ProviderTopology) (playlists : PlaylistTable) where
  playlist : ProviderPlaylist
  stored : playlists.get? playlist.uri = some playlist
  isPlaylist : playlist.uri.kind = .playlist
  ownScheme : playlist.uri.scheme = provider.scheme
  routed : (topology.providerForUri playlist.uri).isSome = true

/-- Why adding items or undoing the addition stops. -/
inductive PlaylistUndoFailure where
  | noTrackUris
  | notPlaylistItem (uri : ResourceUri)
  | undo (error : UndoError)
  | reversal (error : ReversalError)
  | provider (error : ProviderError)
  | notAPlaylistMutation (call : ReversalCall)

def liftFailure {Failure Result : Type}
    (wrap : Failure → PlaylistUndoFailure) :
    Except Failure Result → Except PlaylistUndoFailure Result
  | .ok result => .ok result
  | .error failure => .error (wrap failure)

section

variable (provider : VersionedProvider) (topology : ProviderTopology)

/-- `preflight_playlist_item_uri`. -/
def preflightPlaylistItemUri (value : String) :
    Except PlaylistUndoFailure ResourceUri := do
  let resource ← liftFailure .reversal (parseUri value)
  if resource.kind ≠ .track ∧ resource.kind ≠ .episode then
    .error (.notPlaylistItem resource)
  else if resource.scheme ≠ provider.scheme then
    .error (.notPlaylistItem resource)
  else
    .ok resource

/-- `preflight_playlist_add_items`, without the capability probe. -/
def preflightPlaylistAddItems :
    List String → Except PlaylistUndoFailure (List ResourceUri)
  | [] => .ok []
  | value :: rest => do
    let uri ← preflightPlaylistItemUri provider value
    return uri :: (← preflightPlaylistAddItems rest)

/-- Apply a playlist mutation as the daemon does. -/
def applyProviderMutation (playlists : PlaylistTable) (mutation : Mutation) :
    Except PlaylistUndoFailure PlaylistTable :=
  match provider.applyPlaylistMutation playlists mutation with
  | none => .error (.notAPlaylistMutation (.mutation mutation))
  | some (.ok (written, _)) => .ok written
  | some (.error error) => .error (.provider error)

/-- `PlaylistAddItems`: the plan is stored with the token read before the
write.  The result is the provider after the write and the finalized row. -/
def playlistAddItems {playlists : PlaylistTable}
    (resolved : ResolvedPlaylist provider topology playlists)
    (uris : List String) (row : Operation) :
    Except PlaylistUndoFailure (PlaylistTable × Operation) :=
  if uris.isEmpty then
    .error .noTrackUris
  else do
    let items ← preflightPlaylistAddItems provider uris
    let playlistId := resolved.playlist.uri.asUri
    let versionToken := resolved.playlist.versionToken
    let planned : Operation :=
      { row with
        kind := .playlistAdd,
        subjectUris := uris,
        reversible := true,
        preState := some (.playlistAdd playlistId versionToken uris),
        reversalPlan :=
          some (.playlistRemoveTracks playlistId uris versionToken) }
    let written ← applyProviderMutation provider playlists
      (.playlistAdd resolved.playlist.uri
        (items.map fun uri => { uri := uri, position := none })
        versionToken)
    return (written, { planned with status := .succeeded })

/-- The token `undo_single` compares with: the provider's current one. -/
def currentVersionToken (playlists : PlaylistTable) (plan : ReversalPlan) :
    Option String :=
  match versionTokenCheckTarget plan with
  | none => none
  | some (playlistId, _) =>
    match providerPlaylistResource topology playlistId with
    | .error _ => none
    | .ok resource =>
      (playlists.get? resource).bind ProviderPlaylist.versionToken

/-- `undo_single` on a playlist plan: validate, compare tokens, execute. -/
def undoSingle (playlists : PlaylistTable) (operation : Operation)
    (force : Bool) : Except PlaylistUndoFailure PlaylistTable := do
  liftFailure .undo (validateUndoable operation)
  match operation.reversalPlan with
  | none => .error (.undo (.missingReversalPlan operation.operationId))
  | some plan => do
    liftFailure .undo (checkVersionToken plan
      (fun _ => currentVersionToken topology playlists plan) force)
    match ← liftFailure .reversal (reversalCall topology plan) with
    | .mutation mutation =>
      applyProviderMutation provider playlists mutation
    | .transfer deviceId target =>
      .error (.notAPlaylistMutation (.transfer deviceId target))

end

/-- Appending insertions carry no position. -/
theorem addedItems_append (items added : List ResourceUri) :
    addedItems items
        (added.map fun uri => { uri := uri, position := none }) =
      .ok (items ++ added) := by
  have noPositions : positionedInsertions
      (added.map fun uri => { uri := uri, position := none }) = [] := by
    simp [positionedInsertions, List.filterMap_map]
  have allAppended :
      ((added.map fun uri : ResourceUri =>
        ({ uri := uri, position := none } : PlaylistInsertion)).filter
          fun item => item.position.isNone).map PlaylistInsertion.uri =
        added := by
    rw [List.filter_map]
    simp [Function.comp_def]
  rw [addedItems, noPositions, allAppended]
  rfl

/-- Unpositioned references remove every occurrence. -/
theorem removedItems_everywhere (items removed : List ResourceUri) :
    removedItems items
        (removed.map fun uri => { uri := uri, positions := [] }) =
      .ok (items.filter fun uri => uri ∉ removed) := by
  have noPositions :
      ((removed.map fun uri : ResourceUri =>
        ({ uri := uri, positions := [] } : PlaylistItemRef)).flatMap
          fun reference => reference.positions.map fun position =>
            (position, reference.uri)) = [] := by
    simp [List.flatMap_map]
  have allRemoved :
      ((removed.map fun uri : ResourceUri =>
        ({ uri := uri, positions := [] } : PlaylistItemRef)).filter
          fun reference => reference.positions.isEmpty).map
            PlaylistItemRef.uri = removed := by
    rw [List.filter_map]
    simp [Function.comp_def]
  simp only [removedItems, noPositions, allRemoved]
  rfl

/-- Removing what was appended gives the list back when it held none of it. -/
theorem filter_append_eq_iff (items added : List ResourceUri) :
    (items ++ added).filter (fun uri => decide (uri ∉ added)) = items ↔
      ∀ uri ∈ added, uri ∉ items := by
  have addedGone :
      added.filter (fun uri => decide (uri ∉ added)) = [] := by
    simp [List.filter_eq_nil_iff]
  rw [List.filter_append, addedGone, List.append_nil, List.filter_eq_self]
  constructor
  · intro untouched uri inAdded inItems
    simpa [inAdded] using untouched uri inItems
  · intro apart uri inItems
    simpa using fun inAdded => apart uri inAdded inItems

section

variable {provider : VersionedProvider} {topology : ProviderTopology}
  {playlists : PlaylistTable}

/-- The items preflight accepts are the parsed URIs, in the provider's
namespace. -/
theorem preflightPlaylistAddItems_eq_ok {uris : List String}
    {items : List ResourceUri}
    (accepted : preflightPlaylistAddItems provider uris = .ok items) :
    parseUris uris = .ok items ∧
      ∀ uri ∈ items, uri.scheme = provider.scheme := by
  induction uris generalizing items with
  | nil =>
    cases accepted
    exact ⟨rfl, by simp⟩
  | cons value rest inductionHypothesis =>
    obtain ⟨uri, acceptedFirst, acceptedTail⟩ :=
      Except.bind_eq_ok.mp accepted
    obtain ⟨restItems, acceptedRest, result⟩ :=
      Except.bind_eq_ok.mp acceptedTail
    cases result
    obtain ⟨parsedRest, ownRest⟩ := inductionHypothesis acceptedRest
    obtain ⟨parsed, parsedFirst, checked⟩ :=
      Except.bind_eq_ok.mp acceptedFirst
    have parsedUri : parseUri value = .ok parsed := by
      cases result : parseUri value with
      | error failure => simp [result, liftFailure] at parsedFirst
      | ok found =>
        rw [result] at parsedFirst
        cases parsedFirst
        rfl
    split at checked
    · cases checked
    · split at checked
      · cases checked
      · rename_i ownScheme
        cases checked
        refine ⟨?_, ?_⟩
        · simp only [parseUris, parsedUri, parsedRest]
          rfl
        · intro other member
          rcases List.mem_cons.mp member with rfl | inRest
          · simpa using ownScheme
          · exact ownRest other inRest

/-- The row a write leaves is the written playlist. -/
theorem get?_writeItems {playlist : ProviderPlaylist}
    (stored : playlists.get? playlist.uri = some playlist)
    (items : List ResourceUri) :
    (provider.writeItems playlists playlist items).get? playlist.uri =
      some (provider.writtenPlaylist playlist items) := by
  simp only [VersionedProvider.writeItems, SqlTable.get?_updateKey, stored,
    and_self, if_true, Option.map_some]
  rfl

/-- A successful append wrote exactly the appended list, within the batch
size. -/
theorem applyProviderMutation_add {playlist : ProviderPlaylist}
    {added : List ResourceUri} {expectedVersion : Option String}
    {written : PlaylistTable}
    (stored : playlists.get? playlist.uri = some playlist)
    (applied : applyProviderMutation provider playlists
      (.playlistAdd playlist.uri
        (added.map fun uri => { uri := uri, position := none })
        expectedVersion) = .ok written) :
    added.length ≤ maximumBatch ∧
      written = provider.writeItems playlists playlist
        (playlist.items ++ added) := by
  simp only [applyProviderMutation, VersionedProvider.applyPlaylistMutation]
    at applied
  split at applied
  · cases applied
  · rename_i result
    cases applied
    simp only [Option.some.injEq] at result
    obtain ⟨_, batch, result⟩ := Except.bind_eq_ok.mp result
    obtain ⟨_, _, result⟩ := Except.bind_eq_ok.mp result
    obtain ⟨_, _, result⟩ := Except.bind_eq_ok.mp result
    obtain ⟨selected, selects, result⟩ := Except.bind_eq_ok.mp result
    obtain ⟨items, itemsEq, result⟩ := Except.bind_eq_ok.mp result
    have selectedEq : selected = playlist := by
      simp only [VersionedProvider.playlistMut, stored] at selects
      split at selects
      · cases selects
      · cases selects
        rfl
    subst selectedEq
    rw [addedItems_append] at itemsEq
    cases itemsEq
    cases result
    refine ⟨?_, rfl⟩
    simp only [VersionedProvider.ensureBatch, List.length_map] at batch
    split at batch
    · cases batch
    · rename_i within
      omega
  · cases applied

/-- An unguarded removal of a batch of own URIs succeeds and removes every
occurrence. -/
theorem applyProviderMutation_removeEverywhere {playlist : ProviderPlaylist}
    {removed : List ResourceUri}
    (stored : playlists.get? playlist.uri = some playlist)
    (ownPlaylist : playlist.uri.scheme = provider.scheme)
    (ownItems : ∀ uri ∈ removed, uri.scheme = provider.scheme)
    (batch : removed.length ≤ maximumBatch) :
    applyProviderMutation provider playlists
        (.playlistRemove playlist.uri
          (removed.map fun uri => { uri := uri, positions := [] }) none) =
      .ok (provider.writeItems playlists playlist
        (playlist.items.filter fun uri => uri ∉ removed)) := by
  have batchOk : VersionedProvider.ensureBatch
      (removed.map fun uri : ResourceUri =>
        ({ uri := uri, positions := [] } : PlaylistItemRef)).length =
          .ok () := by
    rw [List.length_map, VersionedProvider.ensureBatch, if_neg (by omega)]
  have ownPlaylistOk : provider.ensureOwnUri playlist.uri = .ok () := by
    simp [VersionedProvider.ensureOwnUri, ownPlaylist]
  have ownItemsOk : provider.ensureOwnUris
      ((removed.map fun uri : ResourceUri =>
        ({ uri := uri, positions := [] } : PlaylistItemRef)).map
          PlaylistItemRef.uri) = .ok () := by
    apply provider.ensureOwnUris_eq_ok.mpr
    simpa [List.map_map, Function.comp_def] using ownItems
  have selected : VersionedProvider.playlistMut playlists playlist.uri none =
      .ok playlist := by
    simp [VersionedProvider.playlistMut, stored]
  simp only [applyProviderMutation, VersionedProvider.applyPlaylistMutation,
    batchOk, ownPlaylistOk, ownItemsOk, selected, removedItems_everywhere]
  rfl

/-- A playlist's own text resolves to it. -/
theorem providerPlaylistResource_asUri
    (resolved : ResolvedPlaylist provider topology playlists) :
    providerPlaylistResource topology resolved.playlist.uri.asUri =
      .ok resolved.playlist.uri := by
  simp only [providerPlaylistResource, ResourceUri.parse_asUri,
    resolved.isPlaylist, ne_eq, not_true_eq_false, if_false, requireRouted,
    resolved.routed, if_true]
  rfl

/-- A successful add appended the parsed URIs, all of them the provider's own,
and finalized a row that carries the token read before the write. -/
theorem playlistAddItems_eq_ok
    {resolved : ResolvedPlaylist provider topology playlists}
    {uris : List String} {row added : Operation} {after : PlaylistTable}
    (succeeded : playlistAddItems provider topology resolved uris row =
      .ok (after, added)) :
    ∃ items, parseUris uris = .ok items ∧ items ≠ [] ∧
      (∀ uri ∈ items, uri.scheme = provider.scheme) ∧
      items.length ≤ maximumBatch ∧
      after = provider.writeItems playlists resolved.playlist
        (resolved.playlist.items ++ items) ∧
      added.reversible = true ∧ added.status = .succeeded ∧
      added.preState.isSome = true ∧
      added.reversalPlan = some (.playlistRemoveTracks
        resolved.playlist.uri.asUri uris resolved.playlist.versionToken) := by
  unfold playlistAddItems at succeeded
  split at succeeded
  · cases succeeded
  · rename_i nonempty
    obtain ⟨items, accepted, writes⟩ := Except.bind_eq_ok.mp succeeded
    obtain ⟨written, applied, result⟩ := Except.bind_eq_ok.mp writes
    obtain ⟨parsed, own⟩ := preflightPlaylistAddItems_eq_ok accepted
    obtain ⟨batch, writtenEq⟩ :=
      applyProviderMutation_add resolved.stored applied
    have itemsNonempty : items ≠ [] := by
      rintro rfl
      cases uris with
      | nil => exact nonempty rfl
      | cons value rest =>
        obtain ⟨first, _, parsedRest⟩ := Except.bind_eq_ok.mp parsed
        obtain ⟨others, _, impossible⟩ := Except.bind_eq_ok.mp parsedRest
        cases impossible
    cases result
    exact ⟨items, parsed, itemsNonempty, own, batch, writtenEq, rfl, rfl, rfl,
      rfl⟩

/-- The token of a written playlist differs from the one before when the
items changed. -/
theorem writtenPlaylist_versionToken_ne {playlist : ProviderPlaylist}
    {items : List ResourceUri} (changed : items ≠ playlist.items) :
    (provider.writtenPlaylist playlist items).versionToken ≠
      playlist.versionToken := by
  simp only [VersionedProvider.writtenPlaylist, if_neg changed]
  exact provider.advance_changes playlist.versionToken

/-- A guarded removal is refused when the playlist has another token. -/
theorem applyProviderMutation_conflict {playlist : ProviderPlaylist}
    {references : List PlaylistItemRef} {token : String}
    (stored : playlists.get? playlist.uri = some playlist)
    (moved : playlist.versionToken ≠ some token) (written : PlaylistTable) :
    applyProviderMutation provider playlists
        (.playlistRemove playlist.uri references (some token)) ≠
      .ok written := by
  intro applied
  simp only [applyProviderMutation, VersionedProvider.applyPlaylistMutation]
    at applied
  split at applied
  · cases applied
  · rename_i result
    simp only [Option.some.injEq] at result
    obtain ⟨_, _, result⟩ := Except.bind_eq_ok.mp result
    obtain ⟨_, _, result⟩ := Except.bind_eq_ok.mp result
    obtain ⟨_, _, result⟩ := Except.bind_eq_ok.mp result
    obtain ⟨selected, selects, _⟩ := Except.bind_eq_ok.mp result
    simp [VersionedProvider.playlistMut, stored, moved.symm] at selects
  · cases applied

/-- With a captured token the undo of an add is refused, forced or not: the
add itself moved the token. -/
theorem undoSingle_refused_of_token
    {resolved : ResolvedPlaylist provider topology playlists}
    {uris : List String} {row added : Operation} {after : PlaylistTable}
    {token : String}
    (succeeded : playlistAddItems provider topology resolved uris row =
      .ok (after, added))
    (captured : resolved.playlist.versionToken = some token) (force : Bool)
    (final : PlaylistTable) :
    undoSingle provider topology after added force ≠ .ok final := by
  obtain ⟨items, parsed, nonempty, _, _, afterEq, reversible, status,
    preState, plan⟩ := playlistAddItems_eq_ok succeeded
  have valid : validateUndoable added = .ok () := by
    rw [validateUndoable_eq_ok, Operation.isOffered_eq_true]
    exact ⟨⟨reversible, status⟩, preState, by simp [plan]⟩
  have changed :
      resolved.playlist.items ++ items ≠ resolved.playlist.items := by
    simpa using nonempty
  have moved : (provider.writtenPlaylist resolved.playlist
      (resolved.playlist.items ++ items)).versionToken ≠
        resolved.playlist.versionToken :=
    writtenPlaylist_versionToken_ne changed
  have stored : after.get? resolved.playlist.uri =
      some (provider.writtenPlaylist resolved.playlist
        (resolved.playlist.items ++ items)) := by
    rw [afterEq]
    exact get?_writeItems resolved.stored _
  have call : reversalCall topology (.playlistRemoveTracks
      resolved.playlist.uri.asUri uris (some token)) =
        .ok (.mutation (.playlistRemove resolved.playlist.uri
          (items.map fun uri => { uri := uri, positions := [] })
            (some token))) := by
    simp only [reversalCall, providerPlaylistResource_asUri resolved, parsed]
    rfl
  rw [captured] at plan moved
  intro undone
  simp only [undoSingle, valid, plan, call] at undone
  obtain ⟨_, _, undone⟩ := Except.bind_eq_ok.mp undone
  obtain ⟨_, _, undone⟩ := Except.bind_eq_ok.mp undone
  obtain ⟨_, called, applied⟩ := Except.bind_eq_ok.mp undone
  cases called
  have storedAtUri : after.get? (provider.writtenPlaylist resolved.playlist
      (resolved.playlist.items ++ items)).uri = _ := stored
  exact applyProviderMutation_conflict storedAtUri moved final applied

/-- Without a captured token the undo of an add runs, and removes every
occurrence of the added URIs. -/
theorem undoSingle_of_no_token
    {resolved : ResolvedPlaylist provider topology playlists}
    {uris : List String} {row added : Operation} {after : PlaylistTable}
    {items : List ResourceUri}
    (succeeded : playlistAddItems provider topology resolved uris row =
      .ok (after, added))
    (noToken : resolved.playlist.versionToken = none)
    (parsed : parseUris uris = .ok items) :
    ∃ grown, grown.uri = resolved.playlist.uri ∧
      grown.items = resolved.playlist.items ++ items ∧
      after.get? grown.uri = some grown ∧
      ∀ force, undoSingle provider topology after added force =
        .ok (provider.writeItems after grown
          (grown.items.filter fun uri => uri ∉ items)) := by
  obtain ⟨_, parsed', _, own, batch, afterEq, reversible, status, preState,
    plan⟩ := playlistAddItems_eq_ok succeeded
  rw [parsed] at parsed'
  cases parsed'
  have valid : validateUndoable added = .ok () := by
    rw [validateUndoable_eq_ok, Operation.isOffered_eq_true]
    exact ⟨⟨reversible, status⟩, preState, by simp [plan]⟩
  rw [noToken] at plan
  have stored : after.get? resolved.playlist.uri =
      some (provider.writtenPlaylist resolved.playlist
        (resolved.playlist.items ++ items)) := by
    rw [afterEq]
    exact get?_writeItems resolved.stored _
  have call : reversalCall topology
      (.playlistRemoveTracks resolved.playlist.uri.asUri uris none) =
        .ok (.mutation (.playlistRemove resolved.playlist.uri
          (items.map fun uri => { uri := uri, positions := [] }) none)) := by
    simp only [reversalCall, providerPlaylistResource_asUri resolved, parsed]
    rfl
  have ownGrown : (provider.writtenPlaylist resolved.playlist
      (resolved.playlist.items ++ items)).uri.scheme = provider.scheme :=
    resolved.ownScheme
  have storedGrown : after.get? (provider.writtenPlaylist resolved.playlist
      (resolved.playlist.items ++ items)).uri = _ := stored
  have removes := applyProviderMutation_removeEverywhere storedGrown ownGrown
    own batch
  refine ⟨provider.writtenPlaylist resolved.playlist
    (resolved.playlist.items ++ items), rfl, rfl, stored, ?_⟩
  intro force
  simp only [undoSingle, valid, plan, checkVersionToken,
    versionTokenCheckTarget, call, liftFailure]
  exact removes

/-- Undoing a playlist add restores the item list exactly when the playlist
had no version token and held none of the added URIs. -/
theorem undo_playlistAdd_restores_iff
    (resolved : ResolvedPlaylist provider topology playlists)
    (uris : List String) (items : List ResourceUri)
    (parsed : parseUris uris = .ok items) (row added : Operation)
    (after : PlaylistTable)
    (succeeded : playlistAddItems provider topology resolved uris row =
      .ok (after, added)) :
    (∃ final, undoSingle provider topology after added false = .ok final ∧
      (final.get? resolved.playlist.uri).map ProviderPlaylist.items =
        some resolved.playlist.items) ↔
      resolved.playlist.versionToken = none ∧
        ∀ uri ∈ items, uri ∉ resolved.playlist.items := by
  cases captured : resolved.playlist.versionToken with
  | some token =>
    constructor
    · rintro ⟨final, undone, _⟩
      exact absurd undone
        (undoSingle_refused_of_token succeeded captured false final)
    · rintro ⟨impossible, _⟩
      cases impossible
  | none =>
    obtain ⟨grown, grownUri, grownItems, stored, undone⟩ :=
      undoSingle_of_no_token succeeded captured parsed
    have restored_iff :
        ((provider.writeItems after grown
          (grown.items.filter fun uri => uri ∉ items)).get?
            resolved.playlist.uri).map ProviderPlaylist.items =
            some resolved.playlist.items ↔
          ∀ uri ∈ items, uri ∉ resolved.playlist.items := by
      rw [← grownUri, get?_writeItems stored, Option.map_some,
        Option.some.injEq, ← filter_append_eq_iff, ← grownItems]
      rfl
    constructor
    · rintro ⟨other, undoneOther, restored⟩
      rw [undone] at undoneOther
      cases undoneOther
      exact ⟨rfl, restored_iff.mp restored⟩
    · rintro ⟨_, apart⟩
      exact ⟨_, undone false, restored_iff.mpr apart⟩

end

/-- A provider that renames a playlist's version on every change. -/
def fakeProvider : VersionedProvider where
  scheme := ⟨"fake", by decide⟩
  knowsMedia _ := true
  advance token := token.getD "v" ++ "1"
  advance_changes token := by
    cases token with
    | none => nofun
    | some token =>
      intro same
      have sameLength := congrArg String.length (Option.some.inj same)
      simp at sameLength

def fakeTopology : ProviderTopology where
  schemes := [(fakeProvider.scheme, ⟨"fake"⟩)]
  defaultProvider := ⟨"fake"⟩
  defaultScheme := fakeProvider.scheme

def fakePlaylist (items : List ResourceUri) (versionToken : Option String) :
    ProviderPlaylist where
  uri := ⟨fakeProvider.scheme, .playlist, "mix", by decide⟩
  items := items
  versionToken := versionToken

def resolvedFakePlaylist (items : List ResourceUri)
    (versionToken : Option String) :
    ResolvedPlaylist fakeProvider fakeTopology
      ⟨[fakePlaylist items versionToken], by simp⟩ where
  playlist := fakePlaylist items versionToken
  stored := SqlTable.get?_eq_some.mpr ⟨by simp, rfl⟩
  isPlaylist := rfl
  ownScheme := rfl
  routed := rfl

def fakeTrack (id : String) (idValid : validateBareId id = .ok ()) :
    ResourceUri :=
  ⟨fakeProvider.scheme, .track, id, idValid⟩

def fakeAddRow : Operation where
  operationId := ⟨1⟩
  kind := .playlistAdd
  occurredAtMs := 0
  finishedAtMs := none
  source := .cli
  requester := none
  subjectUris := []
  reversible := true
  reversalPlan := none
  preState := none
  status := .pending
  receiptId := none
  subjectOpId := none
  undoneByOpId := none
  redoneByOpId := none
  errorMessage := none

/-- A playlist without a token and without the added track is restored. -/
theorem undo_playlistAdd_restores_disjoint :
    ∃ after added, playlistAddItems fakeProvider fakeTopology
        (resolvedFakePlaylist [fakeTrack "one" (by decide)] none)
        ["fake:track:two"] fakeAddRow = .ok (after, added) ∧
      ∃ final,
        undoSingle fakeProvider fakeTopology after added false = .ok final ∧
        (final.get? (fakePlaylist [] none).uri).map ProviderPlaylist.items =
          some [fakeTrack "one" (by decide)] := by
  refine ⟨_, _, rfl, ?_⟩
  exact (undo_playlistAdd_restores_iff
    (resolvedFakePlaylist [fakeTrack "one" (by decide)] none)
    ["fake:track:two"] [fakeTrack "two" (by decide)] rfl fakeAddRow _ _
    rfl).mpr ⟨rfl, by decide⟩

/-- An add to a playlist with a token succeeds and its undo is refused. -/
theorem undo_playlistAdd_refused_by_own_token :
    ∃ after added, playlistAddItems fakeProvider fakeTopology
        (resolvedFakePlaylist [fakeTrack "one" (by decide)] (some "v1"))
        ["fake:track:two"] fakeAddRow = .ok (after, added) ∧
      undoSingle fakeProvider fakeTopology after added false =
        .error (.undo
          (.versionTokenMismatch "fake:playlist:mix" "v1" "v11")) :=
  ⟨_, _, rfl, rfl⟩

end Spotuify
