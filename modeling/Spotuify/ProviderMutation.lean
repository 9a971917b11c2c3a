import Spotuify.OperationLog
import Spotuify.ResourceUri

/-!
# Provider mutations of versioned playlists

The mutations a provider accepts and what a provider with playlist version
tokens does with the ones that edit a playlist's items.  A provider is
described by the scheme it owns, the media it knows and how it advances a
version token; that an advanced token differs from the one before is part of
the description.
-/

namespace Spotuify

structure PlaylistInsertion where
  uri : ResourceUri
  position : Option Nat
  deriving DecidableEq

/-- Empty `positions` means every occurrence of the URI. -/
structure PlaylistItemRef where
  uri : ResourceUri
  positions : List Nat
  deriving DecidableEq

inductive Mutation where
  | playlistCreate (name : String) (isPublic : Option Bool)
      (description : Option String)
  | playlistAdd (playlistUri : ResourceUri) (items : List PlaylistInsertion)
      (expectedVersion : Option String)
  | playlistRemove (playlistUri : ResourceUri) (items : List PlaylistItemRef)
      (expectedVersion : Option String)
  | playlistReorder (playlistUri : ResourceUri)
      (rangeStart insertBefore rangeLength : Nat)
      (expectedVersion : Option String)
  | playlistSetImage (playlistUri : ResourceUri) (jpeg : List UInt8)
  | playlistUnfollow (playlistUri : ResourceUri)
  | librarySave (uris : List ResourceUri)
  | libraryUnsave (uris : List ResourceUri)
  | follow (uris : List ResourceUri)
  | unfollow (uris : List ResourceUri)
  deriving DecidableEq

inductive ProviderError where
  | notFound (resource : String)
  | invalidInput (field message : String)
  | versionConflict (expected actual : Option String)
  deriving DecidableEq

def invalidPosition (position length : Nat) : ProviderError :=
  .invalidInput "position"
    ("position " ++ toString position ++ " is outside playlist length " ++
      toString length)

/-- A playlist as its provider holds it. -/
structure ProviderPlaylist where
  uri : ResourceUri
  items : List ResourceUri
  versionToken : Option String
  deriving DecidableEq

abbrev PlaylistTable := SqlTable ProviderPlaylist.uri

/-- What distinguishes one provider with playlist version tokens. -/
structure VersionedProvider where
  scheme : UriScheme
  knowsMedia : ResourceUri → Bool
  advance : Option String → String
  advance_changes : ∀ token, some (advance token) ≠ token

/-- The batch size a provider accepts for the items of one mutation. -/
def maximumBatch : Nat := 100

/-- Positioned insertions by position, then by the order they were given. -/
def positionedInsertions (items : List PlaylistInsertion) :
    List (Nat × ResourceUri) :=
  (items.filterMap fun item =>
    item.position.map fun position => (position, item.uri)).insertionSort
      fun first second => first.1 ≤ second.1

/-- Insert sorted positioned items; `group` is the position of the running
group and how many of its items were inserted. -/
def insertPositioned (items : List ResourceUri)
    (group : Option (Nat × Nat)) :
    List (Nat × ResourceUri) → Except ProviderError (List ResourceUri)
  | [] => .ok items
  | (position, uri) :: rest =>
    let offset :=
      match group with
      | some (current, inserted) => if current = position then inserted else 0
      | none => 0
    -- The bound is checked once a group, before its first insertion.
    if offset = 0 ∧ position > items.length then
      .error (invalidPosition position items.length)
    else
      insertPositioned (items.insertIdx (position + offset) uri)
        (some (position, offset + 1)) rest

/-- Remove positioned items, the highest position first. -/
def removePositioned (items : List ResourceUri) :
    List (Nat × ResourceUri) → Except ProviderError (List ResourceUri)
  | [] => .ok items
  | (position, uri) :: rest =>
    if items[position]? ≠ some uri then
      .error (invalidPosition position items.length)
    else
      removePositioned (items.eraseIdx position) rest

/-- The item list a `PlaylistAdd` leaves. -/
def addedItems (items : List ResourceUri)
    (insertions : List PlaylistInsertion) :
    Except ProviderError (List ResourceUri) := do
  let updated ← insertPositioned items none (positionedInsertions insertions)
  return updated ++
    (insertions.filter fun item => item.position.isNone).map
      PlaylistInsertion.uri

/-- The item list a `PlaylistRemove` leaves. -/
def removedItems (items : List ResourceUri)
    (references : List PlaylistItemRef) :
    Except ProviderError (List ResourceUri) := do
  let positioned := references.flatMap fun reference =>
    reference.positions.map fun position => (position, reference.uri)
  let updated ← removePositioned items
    (positioned.insertionSort fun first second => second.1 ≤ first.1)
  let removeAll :=
    (references.filter fun reference => reference.positions.isEmpty).map
      PlaylistItemRef.uri
  return updated.filter fun uri => uri ∉ removeAll

/-- The item list a `PlaylistReorder` leaves. -/
def reorderedItems (items : List ResourceUri)
    (rangeStart insertBefore rangeLength : Nat) :
    Except ProviderError (List ResourceUri) :=
  if rangeLength = 0 then
    .ok items
  else
    let rangeEnd := rangeStart + rangeLength
    if rangeEnd > items.length ∨ insertBefore > items.length then
      .error (invalidPosition (max rangeEnd insertBefore) items.length)
    else
      let moved := (items.drop rangeStart).take rangeLength
      let remaining := items.take rangeStart ++ items.drop rangeEnd
      let destination :=
        if insertBefore > rangeStart then insertBefore - rangeLength
        else insertBefore
      if destination > remaining.length then
        .error (invalidPosition destination remaining.length)
      else
        .ok (remaining.take destination ++ moved ++
          remaining.drop destination)

namespace VersionedProvider

variable (provider : VersionedProvider)

def ensureOwnUri (uri : ResourceUri) : Except ProviderError Unit :=
  if uri.scheme = provider.scheme then .ok ()
  else
    .error (.invalidInput "uri"
      ("URI scheme " ++ uri.scheme.label ++
        " does not belong to provider namespace " ++ provider.scheme.label))

def ensureOwnUris : List ResourceUri → Except ProviderError Unit
  | [] => .ok ()
  | uri :: rest => do
    provider.ensureOwnUri uri
    ensureOwnUris rest

theorem ensureOwnUris_eq_ok {uris : List ResourceUri} :
    provider.ensureOwnUris uris = .ok () ↔
      ∀ uri ∈ uris, uri.scheme = provider.scheme := by
  induction uris with
  | nil => simp [ensureOwnUris]
  | cons uri rest inductionHypothesis =>
    rw [List.forall_mem_cons, ← inductionHypothesis, ensureOwnUris,
      ensureOwnUri]
    by_cases own : uri.scheme = provider.scheme
    · simp [own, bind, Except.bind]
    · simp [own, bind, Except.bind]

def ensureKnownMedia : List ResourceUri → Except ProviderError Unit
  | [] => .ok ()
  | uri :: rest => do
    provider.ensureOwnUri uri
    if provider.knowsMedia uri then
      ensureKnownMedia rest
    else
      .error (.notFound uri.asUri)

def ensureBatch (count : Nat) : Except ProviderError Unit :=
  if count > maximumBatch then
    .error (.invalidInput "items"
      ("batch size " ++ toString count ++ " exceeds provider maximum " ++
        toString maximumBatch))
  else
    .ok ()

/-- Select the playlist of a guarded write. -/
def playlistMut (playlists : PlaylistTable) (uri : ResourceUri)
    (expectedVersion : Option String) :
    Except ProviderError ProviderPlaylist :=
  match playlists.get? uri with
  | none => .error (.notFound uri.asUri)
  | some playlist =>
    if expectedVersion.isSome ∧ expectedVersion ≠ playlist.versionToken then
      .error (.versionConflict expectedVersion playlist.versionToken)
    else
      .ok playlist

/-- A playlist after its items were written; the token moves when they
changed. -/
def writtenPlaylist (playlist : ProviderPlaylist)
    (items : List ResourceUri) : ProviderPlaylist :=
  { playlist with
    items := items,
    versionToken :=
      if items = playlist.items then playlist.versionToken
      else some (provider.advance playlist.versionToken) }

/-- Write the items of one playlist. -/
def writeItems (playlists : PlaylistTable) (playlist : ProviderPlaylist)
    (items : List ResourceUri) : PlaylistTable :=
  playlists.updateKey playlist.uri (fun _ => true)
    (fun row =>
      { row with
        items := items,
        versionToken :=
          (provider.writtenPlaylist playlist items).versionToken })
    fun _ => rfl

/-- Apply a mutation that edits the items of a playlist.  The result carries
the playlist's token after the write. -/
def applyPlaylistMutation (playlists : PlaylistTable) :
    Mutation → Option (Except ProviderError (PlaylistTable × Option String))
  | .playlistAdd uri insertions expectedVersion => some do
    ensureBatch insertions.length
    provider.ensureOwnUri uri
    provider.ensureKnownMedia (insertions.map PlaylistInsertion.uri)
    let playlist ← playlistMut playlists uri expectedVersion
    let items ← addedItems playlist.items insertions
    return (provider.writeItems playlists playlist items,
      (provider.writtenPlaylist playlist items).versionToken)
  | .playlistRemove uri references expectedVersion => some do
    ensureBatch references.length
    provider.ensureOwnUri uri
    provider.ensureOwnUris (references.map PlaylistItemRef.uri)
    let playlist ← playlistMut playlists uri expectedVersion
    let items ← removedItems playlist.items references
    return (provider.writeItems playlists playlist items,
      (provider.writtenPlaylist playlist items).versionToken)
  | .playlistReorder uri rangeStart insertBefore rangeLength
      expectedVersion => some do
    provider.ensureOwnUri uri
    let playlist ← playlistMut playlists uri expectedVersion
    let items ← reorderedItems playlist.items rangeStart insertBefore
      rangeLength
    return (provider.writeItems playlists playlist items,
      (provider.writtenPlaylist playlist items).versionToken)
  | _ => none

end VersionedProvider

end Spotuify
