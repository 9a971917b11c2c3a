import Spotuify.LibraryUndo
import Spotuify.PlaylistRemoveUndo

/-!
# Mutations that are undone and replayed

The library and playlist requests whose operations can be undone act on one
content: the saved set and the provider's playlists.  Undo executes the
recorded plan, and redo hands the recorded request to its handler once more.
For each kind of request this file says when the replay brings back the
content that the undo took away.
-/

namespace Spotuify

/-- The saved set and the playlists of a provider. -/
structure ServiceContent where
  library : Finset ResourceUri
  playlists : PlaylistTable
  nextPlaylist : Nat

/-- One configured provider.  `resolvePlaylist` is `resolve_playlist`, which
finds a playlist by URI, id or name; `createdUri` is the URI of the n-th
playlist the provider creates. -/
structure MusicService where
  versioned : VersionedProvider
  libraryProvider : LibraryProvider
  topology : ProviderTopology
  media : ResourceUri → MediaItem
  named : ∀ uri, (media uri).uri = uri.asUri
  resolvePlaylist : List ResourceUri → String → Option ResourceUri
  acceptsName : String → Bool
  createdUri : Nat → ResourceUri
  createdUri_injective : Function.Injective createdUri
  initialToken : Option String

/-- The library and playlist requests whose operations can be undone. -/
inductive RedoableRequest where
  | library (request : LibraryRequest)
  | playlistAdd (playlist : String) (uris : List String)
  | playlistRemove (playlist : String) (request : PlaylistRemoveRequest)
  | playlistCreate (name : String) (uris : List String)

/-- The wire request of a removal. -/
def PlaylistRemoveRequest.request (playlist : String) :
    PlaylistRemoveRequest → Request
  | .items uris => .playlistRemoveItems playlist uris none
  | .occurrences references =>
    .playlistRemoveOccurrences playlist references none

namespace MusicService

variable (service : MusicService)

/-- `resolve_provider_playlist`. -/
def resolve (playlists : PlaylistTable) (text : String) :
    Option (ResolvedPlaylist service.versioned service.topology playlists) :=
  match service.resolvePlaylist
      (playlists.rows.map ProviderPlaylist.uri) text with
  | none => none
  | some uri =>
    match found : playlists.get? uri with
    | none => none
    | some playlist =>
      if valid : playlist.uri.kind = .playlist ∧
          playlist.uri.scheme = service.versioned.scheme ∧
          (service.topology.providerForUri playlist.uri).isSome = true then
        some
          { playlist := playlist
            stored := by rw [SqlTable.key_of_get? found]; exact found
            isPlaylist := valid.1
            ownScheme := valid.2.1
            routed := valid.2.2 }
      else none

/-- `collect_playlist_items`. -/
def entries (playlist : ProviderPlaylist) :
    Option (PlaylistEntries service.versioned playlist) :=
  if known : ∀ uri ∈ playlist.items,
      service.versioned.knowsMedia uri = true then
    some ⟨service.media, service.named, known⟩
  else none

/-- Create a playlist and add its first items, as the handler does. -/
def createPlaylist (content : ServiceContent) (name : String)
    (uris : List String) : Option (ServiceContent × ProviderPlaylist) :=
  let created : ProviderPlaylist :=
    { uri := service.createdUri content.nextPlaylist, items := [],
      versionToken := service.initialToken }
  match preflightPlaylistAddItems service.versioned uris with
  | .error _ => none
  | .ok items =>
    if uris.isEmpty ∨ service.acceptsName name = false then none
    else do
      let playlists ← content.playlists.insert? created
      let written ← (applyProviderMutation service.versioned playlists
        (.playlistAdd created.uri
          (items.map fun uri => { uri := uri, position := none })
          created.versionToken)).toOption
      return ({ content with
        playlists := written, nextPlaylist := content.nextPlaylist + 1 },
        created)

/-- The row a playlist handler starts from. -/
def pendingRow (context : RecordingContext) (recorded : RecordedMutation) :
    Operation :=
  { recorded.pendingOperation context.operationId context.receiptId
      context.source context.occurredAtMs with
    finishedAtMs := some context.finishedAtMs }

/-- Dispatch a request: the content and the row a success leaves. -/
def apply (reads : HandlerReads) (context : RecordingContext)
    (content : ServiceContent) :
    RedoableRequest → Option (ServiceContent × Operation)
  | .library request =>
    match request.apply service.libraryProvider service.topology reads
        content.library with
    | .error _ => none
    | .ok library =>
      some ({ content with library := library },
        (request.recorded reads).succeededOperation context)
  | .playlistAdd playlist uris => do
    let resolved ← service.resolve content.playlists playlist
    let (written, row) ← (playlistAddItems service.versioned service.topology
      resolved uris (pendingRow context
        (reads.playlistAdd (.playlistAddItems playlist uris none)
          uris))).toOption
    return ({ content with playlists := written }, row)
  | .playlistRemove playlist request => do
    let resolved ← service.resolve content.playlists playlist
    let entries ← service.entries resolved.playlist
    let (written, row) ← (playlistRemove service.versioned service.topology
      resolved entries request (pendingRow context
        (reads.playlistRemove (request.request playlist) []))).toOption
    return ({ content with playlists := written }, row)
  | .playlistCreate name uris => do
    let (created, playlist) ← service.createPlaylist content name uris
    return (created,
      ({ reads with createdUri := playlist.uri }.playlistCreate
        (.playlistCreate name none uris none) uris).succeededOperation
          context)

/-- Execute the remote call of a plan. -/
def execute (content : ServiceContent) : Mutation → Option ServiceContent
  | .playlistUnfollow uri =>
    if uri.scheme = service.versioned.scheme ∧
        (content.playlists.get? uri).isSome = true then
      some { content with
        playlists := content.playlists.deleteWhere fun row => row.uri = uri }
    else none
  | .librarySave uris =>
    (applyLibraryCall service.libraryProvider content.library
      (.librarySave uris)).toOption.map
        fun library => { content with library := library }
  | .libraryUnsave uris =>
    (applyLibraryCall service.libraryProvider content.library
      (.libraryUnsave uris)).toOption.map
        fun library => { content with library := library }
  | mutation =>
    (applyProviderMutation service.versioned content.playlists
      mutation).toOption.map
        fun playlists => { content with playlists := playlists }

/-- `undo_single`: validate, compare tokens, execute. -/
def undo (content : ServiceContent) (operation : Operation) (force : Bool) :
    Option ServiceContent := do
  (validateUndoable operation).toOption
  let plan ← operation.reversalPlan
  (checkVersionToken plan (fun _ => currentVersionToken service.topology
    content.playlists plan) force).toOption
  match ← (reversalCall service.topology plan).toOption with
  | .mutation mutation => service.execute content mutation
  | .transfer _ _ => none

end MusicService

namespace ServiceContent

/-- The items of a playlist, if it exists. -/
def itemsOf (content : ServiceContent) (uri : ResourceUri) :
    Option (List ResourceUri) :=
  (content.playlists.get? uri).map ProviderPlaylist.items

/-- The same saved set and the same playlists with the same items. -/
def Same (first second : ServiceContent) : Prop :=
  first.library = second.library ∧ ∀ uri, first.itemsOf uri = second.itemsOf uri

end ServiceContent

theorem Except.toOption_eq_some {Failure Result : Type}
    {outcome : Except Failure Result} {result : Result} :
    outcome.toOption = some result ↔ outcome = .ok result := by
  cases outcome with
  | error failure => simp [Except.toOption]
  | ok found => simp [Except.toOption]

section

variable {provider : VersionedProvider} {topology : ProviderTopology}
  {playlists : PlaylistTable}

theorem get?_writeItems_of_ne {playlist : ProviderPlaylist}
    {uri : ResourceUri} (other : uri ≠ playlist.uri)
    (items : List ResourceUri) :
    (provider.writeItems playlists playlist items).get? uri =
      playlists.get? uri := by
  rw [VersionedProvider.writeItems, SqlTable.get?_updateKey]
  simp [other]

theorem uris_writeItems (playlist : ProviderPlaylist)
    (items : List ResourceUri) :
    (provider.writeItems playlists playlist items).rows.map
        ProviderPlaylist.uri = playlists.rows.map ProviderPlaylist.uri := by
  simp only [VersionedProvider.writeItems, SqlTable.updateKey, List.map_map]
  apply List.map_congr_left
  intro row _
  simp only [Function.comp_apply]
  split <;> rfl

/-- The playlist a mutation writes. -/
def Mutation.writtenPlaylist? : Mutation → Option ResourceUri
  | .playlistAdd uri _ _ | .playlistRemove uri _ _
  | .playlistReorder uri _ _ _ _ => some uri
  | _ => none

theorem playlistMut_eq_ok {uri : ResourceUri}
    {expectedVersion : Option String} {playlist : ProviderPlaylist}
    (selected : VersionedProvider.playlistMut playlists uri expectedVersion =
      .ok playlist) : playlists.get? uri = some playlist := by
  unfold VersionedProvider.playlistMut at selected
  split at selected
  · cases selected
  · rename_i found stored
    split at selected
    · cases selected
    · cases selected
      exact stored

/-- A playlist mutation that succeeded wrote the items of one playlist. -/
theorem applyPlaylistMutation_eq_ok {mutation : Mutation}
    {written : PlaylistTable} {token : Option String}
    (applied : provider.applyPlaylistMutation playlists mutation =
      some (.ok (written, token))) :
    ∃ playlist items, mutation.writtenPlaylist? = some playlist.uri ∧
      playlists.get? playlist.uri = some playlist ∧
      written = provider.writeItems playlists playlist items := by
  have writes : ∀ {uri expectedVersion}
      {edit : ProviderPlaylist → Except ProviderError (List ResourceUri)},
      (do
        let playlist ← VersionedProvider.playlistMut playlists uri
          expectedVersion
        let items ← edit playlist
        return (provider.writeItems playlists playlist items,
          (provider.writtenPlaylist playlist items).versionToken)) =
        Except.ok (written, token) →
      ∃ playlist items, some uri = some playlist.uri ∧
        playlists.get? playlist.uri = some playlist ∧
        written = provider.writeItems playlists playlist items := by
    intro uri expectedVersion edit succeeded
    obtain ⟨playlist, selected, edits⟩ := Except.bind_eq_ok.mp succeeded
    obtain ⟨items, _, result⟩ := Except.bind_eq_ok.mp edits
    cases result
    have stored := playlistMut_eq_ok selected
    have sameUri := SqlTable.key_of_get? stored
    exact ⟨playlist, items, congrArg some sameUri.symm, sameUri.symm ▸ stored,
      rfl⟩
  cases mutation with
  | playlistAdd uri insertions expectedVersion =>
    simp only [VersionedProvider.applyPlaylistMutation, Option.some.injEq]
      at applied
    obtain ⟨_, _, applied⟩ := Except.bind_eq_ok.mp applied
    obtain ⟨_, _, applied⟩ := Except.bind_eq_ok.mp applied
    obtain ⟨_, _, applied⟩ := Except.bind_eq_ok.mp applied
    exact writes applied
  | playlistRemove uri references expectedVersion =>
    simp only [VersionedProvider.applyPlaylistMutation, Option.some.injEq]
      at applied
    obtain ⟨_, _, applied⟩ := Except.bind_eq_ok.mp applied
    obtain ⟨_, _, applied⟩ := Except.bind_eq_ok.mp applied
    obtain ⟨_, _, applied⟩ := Except.bind_eq_ok.mp applied
    exact writes applied
  | playlistReorder uri rangeStart insertBefore rangeLength expectedVersion =>
    simp only [VersionedProvider.applyPlaylistMutation, Option.some.injEq]
      at applied
    obtain ⟨_, _, applied⟩ := Except.bind_eq_ok.mp applied
    exact writes applied
  | _ => cases applied

theorem applyProviderMutation_eq_ok {mutation : Mutation}
    {written : PlaylistTable}
    (applied : applyProviderMutation provider playlists mutation =
      .ok written) :
    ∃ playlist items, mutation.writtenPlaylist? = some playlist.uri ∧
      playlists.get? playlist.uri = some playlist ∧
      written = provider.writeItems playlists playlist items := by
  unfold applyProviderMutation at applied
  split at applied
  · cases applied
  · rename_i table token result
    cases applied
    exact applyPlaylistMutation_eq_ok result
  · cases applied

end

namespace MusicService

variable {service : MusicService}

/-- A text resolves again while the provider has the same playlists. -/
theorem resolve_again {playlists written : PlaylistTable} {text : String}
    {resolved : ResolvedPlaylist service.versioned service.topology playlists}
    (resolves : service.resolve playlists text = some resolved)
    (sameUris : written.rows.map ProviderPlaylist.uri =
      playlists.rows.map ProviderPlaylist.uri)
    {playlist : ProviderPlaylist}
    (stored : written.get? resolved.playlist.uri = some playlist) :
    ∃ again, service.resolve written text = some again ∧
      again.playlist = playlist := by
  unfold resolve at resolves
  split at resolves
  · cases resolves
  · rename_i uri textResolves
    split at resolves
    · cases resolves
    · rename_i found storedBefore
      split at resolves
      · rename_i valid
        cases resolves
        have foundUri := SqlTable.key_of_get? storedBefore
        have playlistUri := SqlTable.key_of_get? stored
        simp only [foundUri] at stored playlistUri valid
        unfold resolve
        rw [sameUris]
        split
        · rename_i unresolved
          rw [textResolves] at unresolved
          cases unresolved
        · rename_i otherUri otherResolves
          rw [textResolves] at otherResolves
          cases otherResolves
          split
          · rename_i missing
            rw [stored] at missing
            cases missing
          · rename_i other storedOther
            rw [stored] at storedOther
            cases storedOther
            rw [dif_pos (by rw [playlistUri]; exact valid)]
            exact ⟨_, rfl, rfl⟩
      · cases resolves

/-- The call of a plan that edits a playlist's items writes a playlist. -/
theorem reversalCall_edits {topology : ProviderTopology}
    {plan : ReversalPlan} {call : ReversalCall}
    (edits : (∃ playlistId uris token,
        plan = .playlistRemoveTracks playlistId uris token) ∨
      ∃ playlistId items token,
        plan = .playlistAddAtPositions playlistId items token)
    (calls : reversalCall topology plan = .ok call) :
    ∃ mutation, call = .mutation mutation ∧
      mutation.writtenPlaylist?.isSome = true := by
  rcases edits with ⟨playlistId, uris, token, rfl⟩ |
    ⟨playlistId, items, token, rfl⟩
  · obtain ⟨_, _, calls⟩ := Except.bind_eq_ok.mp calls
    obtain ⟨_, _, calls⟩ := Except.bind_eq_ok.mp calls
    cases calls
    exact ⟨_, rfl, rfl⟩
  · obtain ⟨_, _, calls⟩ := Except.bind_eq_ok.mp calls
    obtain ⟨_, _, calls⟩ := Except.bind_eq_ok.mp calls
    cases calls
    exact ⟨_, rfl, rfl⟩

theorem execute_playlist {content : ServiceContent} {mutation : Mutation}
    (edits : mutation.writtenPlaylist?.isSome = true) :
    service.execute content mutation =
      (applyProviderMutation service.versioned content.playlists
        mutation).toOption.map
          fun playlists => { content with playlists := playlists } := by
  cases mutation <;> first | rfl | cases edits

/-- On a playlist plan the undo is `undoSingle`. -/
theorem undo_eq_undoSingle {content : ServiceContent} {operation : Operation}
    {plan : ReversalPlan} (planned : operation.reversalPlan = some plan)
    (edits : (∃ playlistId uris token,
        plan = .playlistRemoveTracks playlistId uris token) ∨
      ∃ playlistId items token,
        plan = .playlistAddAtPositions playlistId items token)
    (force : Bool) :
    service.undo content operation force =
      (undoSingle service.versioned service.topology content.playlists
        operation force).toOption.map
          fun playlists => { content with playlists := playlists } := by
  unfold undo undoSingle
  cases validateUndoable operation with
  | error failure => rfl
  | ok _ =>
    rw [planned]
    cases compared : checkVersionToken plan
        (fun _ => currentVersionToken service.topology content.playlists plan)
        force with
    | error failure =>
      simp [compared, liftFailure, Except.toOption, bind, Except.bind]
    | ok _ =>
      cases calls : reversalCall service.topology plan with
      | error failure =>
        simp [compared, calls, liftFailure, Except.toOption, bind, Except.bind]
      | ok call =>
        obtain ⟨mutation, rfl, writes⟩ := reversalCall_edits edits calls
        simp [compared, calls, liftFailure, Except.toOption, bind, Except.bind,
          execute_playlist writes]

/-- On a library plan the undo is the opposite write. -/
theorem undo_eq_opposite {content : ServiceContent} {operation : Operation}
    {write : LibraryWrite} {value : String}
    (valid : validateUndoable operation = .ok ())
    (planned : operation.reversalPlan = some (write.reversalPlan value))
    (force : Bool) :
    service.undo content operation force =
      (applyUriMutation service.libraryProvider service.topology
        content.library value
          fun uri => write.opposite.mutation uri).toOption.map
            fun library => { content with library := library } := by
  have unchecked (token : Option String) :
      checkVersionToken (write.reversalPlan value) (fun _ => token) force =
        .ok () := by
    cases write <;> rfl
  have call : reversalCall service.topology (write.reversalPlan value) = do
      let uri ← parseUri value
      requireRouted service.topology uri
      return .mutation (write.opposite.mutation uri) := by
    cases write <;> rfl
  have executes (uri : ResourceUri) :
      service.execute content (write.opposite.mutation uri) =
        (applyLibraryCall service.libraryProvider content.library
          (write.opposite.mutation uri)).toOption.map
            fun library => { content with library := library } := by
    cases write <;> rfl
  have afterChecks : service.undo content operation force =
      (reversalCall service.topology (write.reversalPlan value)).toOption.bind
        fun
          | .mutation mutation => service.execute content mutation
          | .transfer _ _ => none := by
    simp only [undo, valid, planned, bind, Except.toOption, Option.bind_some,
      unchecked]
  rw [afterChecks, call]
  unfold applyUriMutation
  cases parsed : parseUri value with
  | error failure => rfl
  | ok uri =>
    cases routed : requireRouted service.topology uri with
    | error failure =>
      simp [routed, Except.mapError, Except.toOption, bind, Except.bind]
    | ok _ =>
      simp [routed, executes, Except.mapError, Except.toOption, bind,
        Except.bind, pure, Except.pure]

end MusicService

namespace RedoableRequest

/-- Whether replaying a request after its undo brings back what the request
had made of a content. -/
def ReplaysAfterUndo (service : MusicService) (before : ServiceContent) :
    RedoableRequest → Prop
  | .library (.save uri _) => uri.isSome = true
  | .library (.unsave _) => True
  | .playlistAdd playlist uris =>
    ∀ resolved items, service.resolve before.playlists playlist =
        some resolved → parseUris uris = .ok items →
      ∀ uri ∈ items, uri ∉ resolved.playlist.items
  | .playlistRemove .. => True
  | .playlistCreate .. => False

end RedoableRequest

/-- Whatever its handler reads, the request succeeds again and makes the same
content. -/
def MusicService.Replays (service : MusicService) (context : RecordingContext)
    (undone before : ServiceContent) (request : RedoableRequest) : Prop :=
  ∀ reads, ∃ again row,
    service.apply reads context undone request = some (again, row) ∧
      again.Same before

section

variable {service : MusicService} {reads : HandlerReads}
  {context replayContext : RecordingContext}
  {before changed undone : ServiceContent} {row : Operation} {force : Bool}

/-- A write, its opposite and the write again make what the first one made. -/
theorem LibraryWrite.write_opposite_write (write : LibraryWrite)
    (saved : Finset ResourceUri) (uri : ResourceUri) :
    write.write (write.opposite.write (write.write saved uri) uri) uri =
      write.write saved uri := by
  cases write with
  | save => exact Finset.insert_erase (Finset.mem_insert_self uri saved)
  | unsave => exact Finset.erase_insert (Finset.notMem_erase uri saved)

theorem apply_library_eq_some {request : LibraryRequest} :
    service.apply reads context before (.library request) =
        some (changed, row) ↔
      ∃ library, request.apply service.libraryProvider service.topology reads
          before.library = .ok library ∧
        changed = { before with library := library } ∧
        row = (request.recorded reads).succeededOperation context := by
  simp only [MusicService.apply]
  cases request.apply service.libraryProvider service.topology reads
      before.library with
  | error failure => simp
  | ok library =>
    simp only [Option.some.injEq, Prod.mk.injEq, Except.ok.injEq,
      exists_eq_left']
    constructor
    · rintro ⟨rfl, rfl⟩
      exact ⟨rfl, rfl⟩
    · rintro ⟨rfl, rfl⟩
      exact ⟨rfl, rfl⟩

/-- A library request replays when it names its URI whatever is playing. -/
theorem replays_library_of_target {request : LibraryRequest} {value : String}
    (targets : ∀ reads, request.target reads = some value)
    (applied : service.apply reads context before (.library request) =
      some (changed, row))
    (undoes : service.undo changed row force = some undone) :
    service.Replays replayContext undone changed (.library request) := by
  obtain ⟨library, applies, rfl, rfl⟩ := apply_library_eq_some.mp applied
  obtain ⟨valid, planned, _⟩ :=
    request.succeededOperation_recorded (targets reads) context
  rw [MusicService.undo_eq_opposite valid planned] at undoes
  obtain ⟨restored, reverses, rfl⟩ := Option.map_eq_some_iff.mp undoes
  obtain ⟨_, sameTarget, applies⟩ := LibraryRequest.apply_eq_ok.mp applies
  rw [targets reads] at sameTarget
  cases sameTarget
  obtain ⟨uri, parsed, routed, written⟩ := applyUriMutation_eq_ok.mp applies
  obtain ⟨accepted, rfl⟩ := applyLibraryCall_eq_ok.mp written
  obtain ⟨_, parsed', _, reversed⟩ :=
    applyUriMutation_eq_ok.mp (Except.toOption_eq_some.mp reverses)
  rw [parsed] at parsed'
  cases parsed'
  obtain ⟨_, rfl⟩ := applyLibraryCall_eq_ok.mp reversed
  intro otherReads
  have again : request.apply service.libraryProvider service.topology
      otherReads (request.libraryWrite.opposite.write
        (request.libraryWrite.write before.library uri) uri) =
      .ok (request.libraryWrite.write before.library uri) := by
    refine LibraryRequest.apply_eq_ok.mpr ⟨value, targets otherReads, ?_⟩
    refine applyUriMutation_eq_ok.mpr ⟨uri, parsed, routed, ?_⟩
    exact applyLibraryCall_eq_ok.mpr
      ⟨accepted, request.libraryWrite.write_opposite_write before.library uri⟩
  refine ⟨_, _, apply_library_eq_some.mpr ⟨_, again, rfl, rfl⟩, rfl, ?_⟩
  exact fun _ => rfl

theorem replays_library_iff {request : LibraryRequest}
    (applied : service.apply reads context before (.library request) =
      some (changed, row))
    (undoes : service.undo changed row force = some undone) :
    service.Replays replayContext undone changed (.library request) ↔
      RedoableRequest.ReplaysAfterUndo service before (.library request) := by
  cases request with
  | save uri current =>
    cases uri with
    | some value =>
      exact iff_of_true (replays_library_of_target (fun _ => rfl) applied
        undoes) rfl
    | none =>
      refine iff_of_false ?_ (by simp [RedoableRequest.ReplaysAfterUndo])
      intro replays
      -- Nothing may be playing when the request is replayed.
      obtain ⟨again, _, applies, _⟩ :=
        replays { reads with currentItem := none }
      obtain ⟨_, applies, _⟩ := apply_library_eq_some.mp applies
      obtain ⟨_, targets, _⟩ := LibraryRequest.apply_eq_ok.mp applies
      cases current <;> cases targets
  | unsave uri =>
    exact iff_of_true (replays_library_of_target (fun _ => rfl) applied undoes)
      trivial

/-- An add that succeeded on one playlist succeeds on every playlist of the
provider. -/
theorem playlistAddItems_again {provider : VersionedProvider}
    {topology : ProviderTopology} {playlists written : PlaylistTable}
    {resolved : ResolvedPlaylist provider topology playlists}
    {uris : List String} {items : List ResourceUri} {row added : Operation}
    (succeeded : playlistAddItems provider topology resolved uris row =
      .ok (written, added))
    (parsed : parseUris uris = .ok items) {others : PlaylistTable}
    (again : ResolvedPlaylist provider topology others)
    (otherRow : Operation) :
    ∃ addedAgain, playlistAddItems provider topology again uris otherRow =
      .ok (provider.writeItems others again.playlist
        (again.playlist.items ++ items), addedAgain) := by
  unfold playlistAddItems at succeeded ⊢
  split at succeeded
  · cases succeeded
  · rename_i nonempty
    obtain ⟨found, accepted, writes⟩ := Except.bind_eq_ok.mp succeeded
    obtain ⟨_, applied, _⟩ := Except.bind_eq_ok.mp writes
    have parsed' := (preflightPlaylistAddItems_eq_ok accepted).1
    rw [parsed] at parsed'
    cases parsed'
    unfold applyProviderMutation at applied
    split at applied
    · cases applied
    · rename_i result
      simp only [VersionedProvider.applyPlaylistMutation, Option.some.injEq]
        at result
      obtain ⟨_, batch, result⟩ := Except.bind_eq_ok.mp result
      obtain ⟨_, _, result⟩ := Except.bind_eq_ok.mp result
      obtain ⟨_, known, _⟩ := Except.bind_eq_ok.mp result
      have ownPlaylist :
          provider.ensureOwnUri again.playlist.uri = .ok () := by
        simp [VersionedProvider.ensureOwnUri, again.ownScheme]
      have selected : VersionedProvider.playlistMut others
          again.playlist.uri again.playlist.versionToken =
            .ok again.playlist := by
        simp [VersionedProvider.playlistMut, again.stored]
      rw [if_neg nonempty]
      simp only [accepted, applyProviderMutation,
        VersionedProvider.applyPlaylistMutation, batch, ownPlaylist, known,
        selected, addedItems_append, bind, Except.bind]
      exact ⟨_, rfl⟩
    · cases applied

theorem apply_playlistAdd_eq_some {playlist : String} {uris : List String} :
    service.apply reads context before (.playlistAdd playlist uris) =
        some (changed, row) ↔
      ∃ resolved written,
        service.resolve before.playlists playlist = some resolved ∧
        playlistAddItems service.versioned service.topology resolved uris
          (MusicService.pendingRow context
            (reads.playlistAdd (.playlistAddItems playlist uris none) uris)) =
          .ok (written, row) ∧
        changed = { before with playlists := written } := by
  simp only [MusicService.apply, Option.bind_eq_bind, Option.bind_eq_some_iff,
    Except.toOption_eq_some, Prod.exists]
  constructor
  · rintro ⟨resolved, resolves, written, added, applies, result⟩
    cases result
    exact ⟨resolved, written, resolves, applies, rfl⟩
  · rintro ⟨resolved, written, resolves, applies, rfl⟩
    exact ⟨resolved, resolves, written, row, applies, rfl⟩

/-- Two contents that differ in one playlist at most are the same when its
items are. -/
theorem ServiceContent.same_iff_itemsOf {library : Finset ResourceUri}
    {first second : PlaylistTable} {nextPlaylist : Nat} {uri : ResourceUri}
    (elsewhere : ∀ other, other ≠ uri → first.get? other = second.get? other) :
    ServiceContent.Same ⟨library, first, nextPlaylist⟩
        ⟨library, second, nextPlaylist⟩ ↔
      (first.get? uri).map ProviderPlaylist.items =
        (second.get? uri).map ProviderPlaylist.items := by
  constructor
  · rintro ⟨_, sameItems⟩
    exact sameItems uri
  · intro sameHere
    refine ⟨rfl, fun other => ?_⟩
    by_cases here : other = uri
    · subst here
      exact sameHere
    · exact congrArg (Option.map ProviderPlaylist.items) (elsewhere other here)

/-- When the replay always makes one content, it replays exactly if that is
the content from before. -/
theorem replays_iff_same {request : RedoableRequest}
    {replayed : ServiceContent}
    (applies : ∀ reads, ∃ row,
      service.apply reads replayContext undone request = some (replayed, row))
    (someReads : HandlerReads) :
    service.Replays replayContext undone changed request ↔ replayed.Same changed := by
  constructor
  · intro replays
    obtain ⟨again, _, appliesAgain, same⟩ := replays someReads
    obtain ⟨_, appliesHere⟩ := applies someReads
    rw [appliesHere] at appliesAgain
    cases appliesAgain
    exact same
  · intro same otherReads
    obtain ⟨row, appliesHere⟩ := applies otherReads
    exact ⟨replayed, row, appliesHere, same⟩

/-- After an add, its undo and the add again, the list is the one the first
add made exactly when it held none of the added items. -/
theorem append_filter_append_eq_iff (items added : List ResourceUri) :
    (items ++ added).filter (fun uri => decide (uri ∉ added)) ++ added =
        items ++ added ↔
      ∀ uri ∈ added, uri ∉ items := by
  rw [← filter_append_eq_iff, List.append_cancel_right_eq]

theorem replays_playlistAdd_iff {playlist : String} {uris : List String}
    (applied : service.apply reads context before
      (.playlistAdd playlist uris) = some (changed, row))
    (undoes : service.undo changed row force = some undone) :
    service.Replays replayContext undone changed (.playlistAdd playlist uris) ↔
      RedoableRequest.ReplaysAfterUndo service before
        (.playlistAdd playlist uris) := by
  obtain ⟨resolved, written, resolves, adds, rfl⟩ :=
    apply_playlistAdd_eq_some.mp applied
  obtain ⟨items, parsed, _, _, _, writtenEq, _, _, _, planned⟩ :=
    playlistAddItems_eq_ok adds
  rw [MusicService.undo_eq_undoSingle planned (.inl ⟨_, _, _, rfl⟩)] at undoes
  obtain ⟨final, undoneTable, rfl⟩ := Option.map_eq_some_iff.mp undoes
  rw [Except.toOption_eq_some] at undoneTable
  have noToken : resolved.playlist.versionToken = none := by
    cases captured : resolved.playlist.versionToken with
    | none => rfl
    | some token =>
      exact absurd undoneTable
        (undoSingle_refused_of_token adds captured force final)
  obtain ⟨grown, grownUri, grownItems, stored, runs⟩ :=
    undoSingle_of_no_token adds noToken parsed
  rw [runs force] at undoneTable
  cases undoneTable
  generalize finalEq : service.versioned.writeItems written grown
    (grown.items.filter fun uri => uri ∉ items) = final
  -- The playlist resolves again, now without the added items.
  have sameUris : final.rows.map ProviderPlaylist.uri =
      before.playlists.rows.map ProviderPlaylist.uri := by
    rw [← finalEq, uris_writeItems, writtenEq, uris_writeItems]
  have finalStored : final.get? resolved.playlist.uri =
      some (service.versioned.writtenPlaylist grown
        (grown.items.filter fun uri => uri ∉ items)) := by
    rw [← finalEq, ← grownUri]
    exact get?_writeItems stored _
  obtain ⟨again, resolvesAgain, againPlaylist⟩ :=
    MusicService.resolve_again resolves sameUris finalStored
  have againUri : again.playlist.uri = resolved.playlist.uri := by
    rw [againPlaylist]
    exact grownUri
  have againItems : again.playlist.items =
      (resolved.playlist.items ++ items).filter fun uri => uri ∉ items := by
    rw [againPlaylist, ← grownItems]
    rfl
  have applies : ∀ reads, ∃ row,
      service.apply reads replayContext { before with playlists := final }
          (.playlistAdd playlist uris) =
        some ({ before with
          playlists := service.versioned.writeItems final again.playlist
            (again.playlist.items ++ items) }, row) := by
    intro reads
    obtain ⟨addedAgain, addsAgain⟩ := playlistAddItems_again adds parsed again
      (MusicService.pendingRow replayContext
        (reads.playlistAdd (.playlistAddItems playlist uris none) uris))
    exact ⟨addedAgain, apply_playlistAdd_eq_some.mpr
      ⟨again, _, resolvesAgain, addsAgain, rfl⟩⟩
  have elsewhere : ∀ uri, uri ≠ resolved.playlist.uri →
      (service.versioned.writeItems final again.playlist
        (again.playlist.items ++ items)).get? uri = written.get? uri := by
    intro uri other
    rw [get?_writeItems_of_ne (againUri ▸ other), ← finalEq,
      get?_writeItems_of_ne (grownUri ▸ other)]
  rw [replays_iff_same applies reads,
    ServiceContent.same_iff_itemsOf elsewhere, ← againUri,
    get?_writeItems again.stored, againUri, ← grownUri, stored]
  have itemsEq : (service.versioned.writtenPlaylist again.playlist
      (again.playlist.items ++ items)).items = grown.items ↔
      ∀ uri ∈ items, uri ∉ resolved.playlist.items := by
    rw [grownItems, ← append_filter_append_eq_iff, ← againItems]
    rfl
  rw [Option.map_some, Option.map_some, Option.some.injEq, itemsEq]
  constructor
  · intro apart other otherItems resolvesOther parsedOther
    rw [resolves] at resolvesOther
    rw [parsed] at parsedOther
    cases resolvesOther
    cases parsedOther
    exact apart
  · intro apart
    exact apart resolved items resolves parsed

section

variable {provider : VersionedProvider} {topology : ProviderTopology}
  {playlists others : PlaylistTable}
  {resolved : ResolvedPlaylist provider topology playlists}
  {entries : PlaylistEntries provider resolved.playlist}
  {again : ResolvedPlaylist provider topology others}
  {entriesAgain : PlaylistEntries provider again.playlist}

/-- A removal plans the same on a playlist with the same entries. -/
theorem buildRemovePlan_again {request : PlaylistRemoveRequest}
    {plan : PlaylistRemovePlan}
    (built : buildRemovePlan provider topology resolved entries request =
      .ok plan)
    (sameEntries : entriesAgain.items = entries.items)
    (token : again.playlist.versionToken.isSome = true) :
    buildRemovePlan provider topology again entriesAgain request =
      .ok plan := by
  have tokenOk : requireVersionToken provider topology again = .ok () := by
    rw [requireVersionToken, if_pos token]
  cases request with
  | items uris =>
    simp only [buildRemovePlan, buildPlaylistRemovePlan] at built ⊢
    split at built
    · cases built
    · rename_i nonempty
      obtain ⟨itemUris, preflight, built⟩ := Except.bind_eq_ok.mp built
      obtain ⟨_, _, built⟩ := Except.bind_eq_ok.mp built
      rw [if_neg nonempty]
      simp only [preflight, tokenOk, sameEntries, bind, Except.bind]
      exact built
  | occurrences references =>
    simp only [buildRemovePlan, buildPlaylistRemoveOccurrencesPlan]
      at built ⊢
    split at built
    · cases built
    · rename_i nonempty
      obtain ⟨_, distinct, built⟩ := Except.bind_eq_ok.mp built
      obtain ⟨mutationItems, preflight, built⟩ := Except.bind_eq_ok.mp built
      obtain ⟨_, _, built⟩ := Except.bind_eq_ok.mp built
      rw [if_neg nonempty]
      simp only [distinct, preflight, tokenOk, sameEntries, bind, Except.bind]
      exact built

/-- A written playlist keeps having a token. -/
theorem writtenPlaylist_versionToken_isSome {playlist : ProviderPlaylist}
    (token : playlist.versionToken.isSome = true) (items : List ResourceUri) :
    (provider.writtenPlaylist playlist items).versionToken.isSome = true := by
  simp only [VersionedProvider.writtenPlaylist]
  split
  · exact token
  · rfl

/-- A provider that accepted a removal accepts it on a playlist with the same
items. -/
theorem applyPlaylistMutation_remove_again {references : List PlaylistItemRef}
    {written : PlaylistTable} {token : Option String}
    (applied : provider.applyPlaylistMutation playlists
      (.playlistRemove resolved.playlist.uri references
        resolved.playlist.versionToken) = some (.ok (written, token)))
    (sameItems : again.playlist.items = resolved.playlist.items) :
    ∃ items, written = provider.writeItems playlists resolved.playlist items ∧
      provider.applyPlaylistMutation others
          (.playlistRemove again.playlist.uri references
            again.playlist.versionToken) =
        some (.ok (provider.writeItems others again.playlist items,
          (provider.writtenPlaylist again.playlist items).versionToken)) := by
  obtain ⟨_, items, itemsEq, writtenEq, _⟩ :=
    applyPlaylistMutation_remove resolved.stored applied
  simp only [VersionedProvider.applyPlaylistMutation, Option.some.injEq]
    at applied
  obtain ⟨_, batch, applied⟩ := Except.bind_eq_ok.mp applied
  obtain ⟨_, _, applied⟩ := Except.bind_eq_ok.mp applied
  obtain ⟨_, own, _⟩ := Except.bind_eq_ok.mp applied
  have ownPlaylist : provider.ensureOwnUri again.playlist.uri = .ok () := by
    simp [VersionedProvider.ensureOwnUri, again.ownScheme]
  have selected : VersionedProvider.playlistMut others again.playlist.uri
      again.playlist.versionToken = .ok again.playlist := by
    simp [VersionedProvider.playlistMut, again.stored]
  refine ⟨items, writtenEq, ?_⟩
  rw [← sameItems] at itemsEq
  simp only [VersionedProvider.applyPlaylistMutation, batch, ownPlaylist, own,
    selected, itemsEq, bind, Except.bind]
  rfl

/-- A removal that succeeded succeeds on a playlist with the same items and a
token, and leaves the same items. -/
theorem playlistRemove_again {request : PlaylistRemoveRequest}
    {written : PlaylistTable} {row removed : Operation}
    (succeeded : playlistRemove provider topology resolved entries request
      row = .ok (written, removed))
    (sameItems : again.playlist.items = resolved.playlist.items)
    (sameMedia : entriesAgain.media = entries.media)
    (token : again.playlist.versionToken.isSome = true)
    (otherRow : Operation) :
    ∃ items removedAgain,
      written = provider.writeItems playlists resolved.playlist items ∧
      playlistRemove provider topology again entriesAgain request otherRow =
        .ok (provider.writeItems others again.playlist items,
          removedAgain) := by
  obtain ⟨plan, built, executed⟩ := Except.bind_eq_ok.mp succeeded
  have sameEntries : entriesAgain.items = entries.items := by
    rw [PlaylistEntries.items, PlaylistEntries.items, sameItems, sameMedia]
  unfold executePlaylistRemovePlan at executed
  dsimp only at executed
  split at executed
  · cases executed
  · cases executed
  · cases executed
  · rename_i table postVersion applied
    cases executed
    obtain ⟨items, writtenEq, appliesAgain⟩ :=
      applyPlaylistMutation_remove_again applied sameItems
    obtain ⟨tokenAgain, tokenEq⟩ := Option.isSome_iff_exists.mp
      (@writtenPlaylist_versionToken_isSome provider _ token items)
    rw [tokenEq] at appliesAgain
    have removes : ∃ removedAgain, playlistRemove provider topology again
        entriesAgain request otherRow =
          .ok (provider.writeItems others again.playlist items,
            removedAgain) := by
      unfold playlistRemove
      rw [buildRemovePlan_again built sameEntries token]
      simp only [bind, Except.bind, executePlaylistRemovePlan, appliesAgain]
      exact ⟨_, rfl⟩
    obtain ⟨removedAgain, removesAgain⟩ := removes
    exact ⟨items, removedAgain, writtenEq, removesAgain⟩

end

theorem apply_playlistRemove_eq_some {playlist : String}
    {request : PlaylistRemoveRequest} :
    service.apply reads context before (.playlistRemove playlist request) =
        some (changed, row) ↔
      ∃ resolved entries written,
        service.resolve before.playlists playlist = some resolved ∧
        service.entries resolved.playlist = some entries ∧
        playlistRemove service.versioned service.topology resolved entries
          request (MusicService.pendingRow context
            (reads.playlistRemove (request.request playlist) [])) =
          .ok (written, row) ∧
        changed = { before with playlists := written } := by
  simp only [MusicService.apply, Option.bind_eq_bind, Option.bind_eq_some_iff,
    Except.toOption_eq_some, Prod.exists]
  constructor
  · rintro ⟨resolved, resolves, entries, collects, written, removed, applies,
      result⟩
    cases result
    exact ⟨resolved, entries, written, resolves, collects, applies, rfl⟩
  · rintro ⟨resolved, entries, written, resolves, collects, applies, rfl⟩
    exact ⟨resolved, resolves, entries, collects, written, row, applies, rfl⟩

theorem MusicService.entries_eq_some {playlist : ProviderPlaylist}
    {entries : PlaylistEntries service.versioned playlist}
    (collects : service.entries playlist = some entries) :
    entries.media = service.media := by
  unfold MusicService.entries at collects
  split at collects
  · cases collects
    rfl
  · cases collects

theorem replays_playlistRemove {playlist : String}
    {request : PlaylistRemoveRequest}
    (applied : service.apply reads context before
      (.playlistRemove playlist request) = some (changed, row))
    (undoes : service.undo changed row force = some undone) :
    service.Replays replayContext undone changed (.playlistRemove playlist request) := by
  obtain ⟨resolved, entries, written, resolves, collects, removes, rfl⟩ :=
    apply_playlistRemove_eq_some.mp applied
  obtain ⟨plan, shrunk, token, sound, sameUri, shrunkItems, current, writtenEq,
    stored, known, planned, runs⟩ := playlistRemove_eq_ok removes
  rw [MusicService.undo_eq_undoSingle planned (.inr ⟨_, _, _, rfl⟩)] at undoes
  obtain ⟨final, undoneTable, rfl⟩ := Option.map_eq_some_iff.mp undoes
  rw [Except.toOption_eq_some, runs force] at undoneTable
  have inserts := applyProviderMutation_insertions sound stored shrunkItems
    current (sameUri ▸ resolved.ownScheme) known
  have batch : request.selectedCount ≤ maximumBatch := by
    by_contra tooMany
    exact inserts.2 tooMany final undoneTable
  rw [inserts.1 batch] at undoneTable
  cases undoneTable
  generalize finalEq : service.versioned.writeItems written shrunk
    resolved.playlist.items = final
  -- The playlist resolves again, with its items from before the removal.
  have sameUris : final.rows.map ProviderPlaylist.uri =
      before.playlists.rows.map ProviderPlaylist.uri := by
    rw [← finalEq, uris_writeItems, writtenEq, uris_writeItems]
  have finalStored : final.get? resolved.playlist.uri =
      some (service.versioned.writtenPlaylist shrunk
        resolved.playlist.items) := by
    rw [← finalEq, ← sameUri]
    exact get?_writeItems stored _
  obtain ⟨again, resolvesAgain, againPlaylist⟩ :=
    MusicService.resolve_again resolves sameUris finalStored
  have againItems : again.playlist.items = resolved.playlist.items := by
    rw [againPlaylist]
    rfl
  have againToken : again.playlist.versionToken.isSome = true := by
    rw [againPlaylist]
    exact writtenPlaylist_versionToken_isSome (by rw [current]; rfl) _
  have knownAgain : ∀ uri ∈ again.playlist.items,
      service.versioned.knowsMedia uri = true := by
    rw [againItems]
    exact entries.known
  obtain ⟨entriesAgain, collectsAgain⟩ :
      ∃ entries, service.entries again.playlist = some entries :=
    ⟨_, dif_pos knownAgain⟩
  have sameMedia : entriesAgain.media = entries.media :=
    (MusicService.entries_eq_some collectsAgain).trans
      (MusicService.entries_eq_some collects).symm
  have againUri : again.playlist.uri = resolved.playlist.uri := by
    rw [againPlaylist]
    exact sameUri
  intro reads
  obtain ⟨items, removedAgain, writtenAs, removesAgain⟩ :=
    playlistRemove_again removes againItems sameMedia againToken
      (MusicService.pendingRow replayContext
        (reads.playlistRemove (request.request playlist) []))
  refine ⟨_, removedAgain, apply_playlistRemove_eq_some.mpr
    ⟨again, entriesAgain, _, resolvesAgain, collectsAgain, removesAgain, rfl⟩,
    ?_⟩
  have elsewhere : ∀ uri, uri ≠ resolved.playlist.uri →
      (service.versioned.writeItems final again.playlist items).get? uri =
        written.get? uri := by
    intro uri other
    rw [get?_writeItems_of_ne (againUri ▸ other), ← finalEq,
      get?_writeItems_of_ne (sameUri ▸ other)]
  rw [ServiceContent.same_iff_itemsOf elsewhere, ← againUri,
    get?_writeItems again.stored, againUri, writtenAs,
    get?_writeItems resolved.stored]
  rfl

/-- A creation that succeeded added the next playlist. -/
theorem createPlaylist_eq_some {name : String} {uris : List String}
    {playlist : ProviderPlaylist}
    (created : service.createPlaylist before name uris =
      some (changed, playlist)) :
    playlist.uri = service.createdUri before.nextPlaylist ∧
      changed.nextPlaylist = before.nextPlaylist + 1 ∧
      before.itemsOf playlist.uri = none ∧
      (changed.itemsOf playlist.uri).isSome = true ∧
      ∀ uri, uri ≠ playlist.uri → changed.itemsOf uri = before.itemsOf uri := by
  unfold MusicService.createPlaylist at created
  dsimp only at created
  split at created
  · cases created
  · rename_i items preflight
    split at created
    · cases created
    · simp only [Option.bind_eq_bind, Option.bind_eq_some_iff,
        Except.toOption_eq_some] at created
      obtain ⟨inserted, inserts, written, populates, result⟩ := created
      cases result
      obtain ⟨free, _⟩ := SqlTable.insert?_eq_some.mp inserts
      obtain ⟨grown, grownItems, writes, stored, rfl⟩ :=
        applyProviderMutation_eq_ok populates
      have grownUri : grown.uri = service.createdUri before.nextPlaylist :=
        (Option.some.inj writes).symm
      refine ⟨rfl, rfl, ?_, ?_, ?_⟩
      · simp only [ServiceContent.itemsOf, free, Option.map_none]
      · simp only [ServiceContent.itemsOf]
        rw [← grownUri, get?_writeItems stored]
        rfl
      · intro uri other
        simp only [ServiceContent.itemsOf]
        rw [get?_writeItems_of_ne (grownUri ▸ other),
          SqlTable.get?_insert inserts, if_neg other]

/-- The row of a creation is undone by deleting the playlist. -/
theorem createdOperation_eq {reads : HandlerReads} {name : String}
    {uris : List String} (context : RecordingContext) :
    (reads.playlistCreate (.playlistCreate name none uris none)
        uris).succeededOperation context =
      { (reads.playlistCreate (.playlistCreate name none uris none)
          uris).pendingOperation context.operationId context.receiptId
            context.source context.occurredAtMs with
        preState := some reads.creationRecovery.preState
        reversalPlan := some (.playlistDelete reads.createdUri.asUri)
        subjectUris := [reads.createdUri.asUri]
        status := .succeeded
        finishedAtMs := some context.finishedAtMs } := by
  have populated : (if uris.isEmpty then [] else
      [BodyStep.populatePlaylist]).flatMap BodyStep.updates = [] := by
    split <;> rfl
  simp only [HandlerReads.playlistCreate, RecordedMutation.succeededOperation,
    populated, List.append_nil, List.flatMap_cons, BodyStep.updates,
    List.nil_append, List.cons_append]
  rw [LogUpdate.rowAfterAll_cons_own rfl rfl,
    LogUpdate.rowAfterAll_cons_own rfl rfl,
    LogUpdate.rowAfterAll_cons_own rfl rfl]
  rfl

/-- The undo of a deletion plan removes the playlist. -/
theorem undo_playlistDelete {operation : Operation} {uri : ResourceUri}
    (planned : operation.reversalPlan = some (.playlistDelete uri.asUri))
    (undoes : service.undo changed operation force = some undone) :
    undone.nextPlaylist = changed.nextPlaylist ∧
      undone.itemsOf uri = none := by
  simp only [MusicService.undo, planned, Option.bind_eq_bind,
    Option.bind_eq_some_iff, Except.toOption_eq_some] at undoes
  obtain ⟨_, _, _, ⟨⟩, _, _, call, calls, executes⟩ := undoes
  obtain ⟨resource, resolves, result⟩ := Except.bind_eq_ok.mp calls
  cases result
  have resourceEq : resource = uri := by
    simp only [providerPlaylistResource, ResourceUri.parse_asUri] at resolves
    split at resolves
    · cases resolves
    · obtain ⟨_, _, result⟩ := Except.bind_eq_ok.mp resolves
      cases result
      rfl
  subst resourceEq
  simp only [MusicService.execute] at executes
  split at executes
  · cases executes
    refine ⟨rfl, ?_⟩
    simp only [ServiceContent.itemsOf, SqlTable.get?_deleteWhere,
      Option.map_eq_none_iff, Option.filter_eq_none_iff]
    intro row stored
    simpa using SqlTable.key_of_get? stored
  · cases executes

theorem replays_playlistCreate {name : String} {uris : List String}
    (applied : service.apply reads context before
      (.playlistCreate name uris) = some (changed, row))
    (undoes : service.undo changed row force = some undone) :
    ¬ service.Replays replayContext undone changed (.playlistCreate name uris) := by
  simp only [MusicService.apply, Option.bind_eq_bind, Option.bind_eq_some_iff,
    Prod.exists] at applied
  obtain ⟨created, playlist, creates, result⟩ := applied
  cases result
  obtain ⟨uriEq, nextEq, _, present, _⟩ := createPlaylist_eq_some creates
  obtain ⟨undoneNext, gone⟩ :=
    undo_playlistDelete (by rw [createdOperation_eq]) undoes
  intro replays
  obtain ⟨again, _, appliedAgain, _, sameItems⟩ := replays reads
  simp only [MusicService.apply, Option.bind_eq_bind, Option.bind_eq_some_iff,
    Prod.exists] at appliedAgain
  obtain ⟨createdAgain, playlistAgain, createsAgain, result⟩ := appliedAgain
  cases result
  obtain ⟨uriAgain, _, _, _, elsewhere⟩ := createPlaylist_eq_some createsAgain
  have different : playlist.uri ≠ playlistAgain.uri := by
    rw [uriEq, uriAgain, undoneNext, nextEq]
    intro same
    exact absurd (service.createdUri_injective same) (by omega)
  have missing := sameItems playlist.uri
  rw [elsewhere _ different, gone] at missing
  rw [← missing] at present
  cases present

/-- A mutation that was undone brings its content back when it is replayed
exactly under `ReplaysAfterUndo`. -/
theorem replays_iff {request : RedoableRequest}
    (applied : service.apply reads context before request =
      some (changed, row))
    (undoes : service.undo changed row force = some undone) :
    service.Replays replayContext undone changed request ↔
      request.ReplaysAfterUndo service before := by
  cases request with
  | library request => exact replays_library_iff applied undoes
  | playlistAdd playlist uris => exact replays_playlistAdd_iff applied undoes
  | playlistRemove playlist request =>
    exact iff_of_true (replays_playlistRemove applied undoes) trivial
  | playlistCreate name uris =>
    exact iff_of_false (replays_playlistCreate applied undoes) id

end

end Spotuify
