import Spotuify.ResourceUri
import Spotuify.SortedMaps
import Spotuify.WireTypes
import Mathlib.Data.String.Basic

/-!
# The cached media items and library

The store keeps one row for each media item and one for each item of the
library, both by URI.  A library row refers to its media row, and the media row
repeats whether the item is saved.  A sync replaces the library rows of one
provider and kind by the listing it has fetched, in one transaction; media
items are otherwise written in transactions of a fixed number of rows.
-/

namespace Spotuify

/-- A row of `media_items`. -/
structure MediaRow where
  provider : String
  kind : MediaKind
  name : String
  subtitle : String
  context : String
  durationMs : Int
  imageUrl : Option String
  searchOrigin : String
  fetchedAtMs : Int
  updatedAtMs : Int
  syncGeneration : Int
  releaseDate : Option ReleaseDate
  albumUri : Option String
  artists : Option (List ArtistRef)
  saved : Bool
  liked : Bool
  deriving DecidableEq

/-- A row of `library_items`. -/
structure LibraryRow where
  kind : MediaKind
  saved : Bool
  followed : Bool
  fetchedAtMs : Int
  syncGeneration : Int
  syncPosition : Nat
  deriving DecidableEq

inductive CacheFailure where
  | nonCanonicalUri (uri : String) (error : UriError)
  | kindMismatch (uriKind itemKind : MediaKind)
  | mixedKinds
  deriving DecidableEq

structure AuthoritativeSyncResult where
  written : Nat
  removedUris : List String
  deriving DecidableEq

abbrev MediaTable : Type := SortedMap String MediaRow

structure LibraryCache where
  mediaItems : MediaTable
  libraryItems : SortedMap String LibraryRow
  deriving DecidableEq

/-- `BULK_CHUNK_ROWS`. -/
def bulkChunkRows : Nat := 64

/-- `slice::chunks`.  The first argument bounds the number of chunks. -/
def chunks {Item : Type} (size : Nat) : Nat → List Item → List (List Item)
  | 0, _ => []
  | _ + 1, [] => []
  | bound + 1, items => items.take size :: chunks size bound (items.drop size)

/-- The row an `INSERT` writes.  `duration_ms as i64` wraps. -/
def MediaRow.excluded (provider searchOrigin : String) (fetchedAtMs : Int)
    (item : MediaItem) : MediaRow where
  provider := provider
  kind := item.kind
  name := item.name
  subtitle := item.subtitle
  context := item.context
  durationMs := Int.bmod item.durationMs (2 ^ 64)
  imageUrl := item.imageUrl
  searchOrigin := (item.source.map ItemSource.asStr).getD searchOrigin
  fetchedAtMs := fetchedAtMs
  updatedAtMs := fetchedAtMs
  syncGeneration := fetchedAtMs
  releaseDate := item.releaseDate
  albumUri := item.albumUri
  artists := if item.artists.isEmpty then none else some item.artists
  saved := false
  liked := false

/-- `ON CONFLICT(uri) DO UPDATE`: some columns keep what the new row lacks, and
the marks of the library stay. -/
def MediaRow.updatedBy (stored excluded : MediaRow) : MediaRow :=
  { excluded with
    releaseDate := excluded.releaseDate.or stored.releaseDate
    albumUri := excluded.albumUri.or stored.albumUri
    artists := excluded.artists.or stored.artists
    saved := stored.saved
    liked := stored.liked }

namespace MediaTable

variable (provider : Option String) (searchOrigin : String) (fetchedAtMs : Int)

def write (media : MediaTable) (uri : String) (excluded : MediaRow) :
    MediaTable :=
  media.insert uri
    (((media.get? uri).map fun stored => stored.updatedBy excluded).getD
      excluded)

/-- The scheme and kind of an item that may be stored. -/
def checkItem (item : MediaItem) : Except CacheFailure String :=
  match ResourceUri.parse item.uri with
  | .error error => .error (.nonCanonicalUri item.uri error)
  | .ok resource =>
    if resource.kind ≠ item.kind then
      .error (.kindMismatch resource.kind item.kind)
    else .ok resource.scheme.label

/-- `upsert_provider_media_items_in_transaction`. -/
def upsertInTransaction (media : MediaTable) :
    List MediaItem → Except CacheFailure MediaTable
  | [] => .ok media
  | item :: rest =>
    match checkItem item with
    | .error failure => .error failure
    | .ok scheme =>
      upsertInTransaction
        (write media item.uri
          (.excluded (provider.getD scheme) searchOrigin fetchedAtMs item))
        rest

/-- The chunks that are left, each in a transaction of its own. -/
def upsertChunks (media : MediaTable) :
    List (List MediaItem) → MediaTable × Option CacheFailure
  | [] => (media, none)
  | chunk :: rest =>
    match upsertInTransaction provider searchOrigin fetchedAtMs media chunk with
    | .error failure => (media, some failure)
    | .ok written => upsertChunks written rest

/-- `upsert_provider_media_items_with`: what is stored, and the failure. -/
def upsertProviderMediaItems (media : MediaTable) (items : List MediaItem) :
    MediaTable × Option CacheFailure :=
  upsertChunks provider searchOrigin fetchedAtMs media
    (chunks bulkChunkRows items.length items)

end MediaTable

namespace LibraryCache

def empty : LibraryCache where
  mediaItems := .empty
  libraryItems := .empty

variable (cache : LibraryCache)

/-- The media row repeats whether the item is in the saved library. -/
def markSaved (uri : String) (saved : Bool) : LibraryCache :=
  { cache with
    mediaItems := cache.mediaItems.adjust uri fun row =>
      { row with saved := saved, liked := saved } }

/-- Write the library row of one item of a listing. -/
def saveItem (kind : MediaKind) (fetchedAtMs : Int)
    (entry : MediaItem × Nat) : LibraryCache :=
  let followed := decide (kind = .artist)
  let saved :=
    { cache with
      libraryItems := cache.libraryItems.insert entry.1.uri
        { kind := kind
          saved := !followed
          followed := followed
          fetchedAtMs := fetchedAtMs
          syncGeneration := fetchedAtMs
          syncPosition := entry.2 } }
  if followed then saved else saved.markSaved entry.1.uri true

def removeItem (kind : MediaKind) (uri : String) : LibraryCache :=
  let removed := { cache with libraryItems := cache.libraryItems.erase uri }
  if kind = .artist then removed else removed.markSaved uri false

/-- The URIs of the library rows of a provider and kind, in their order. -/
def cachedUris (media : MediaTable) (library : SortedMap String LibraryRow)
    (provider : String) (kind : MediaKind) : List String :=
  (library.entries.filter fun entry =>
    ((media.get? entry.1).any fun row => row.provider = provider) &&
      decide (entry.2.kind = kind)).map Prod.fst

/-- `replace_provider_library_kind_bulk`. -/
def replaceProviderLibraryKind (provider : String) (kind : MediaKind)
    (items : List MediaItem) (now : Int) :
    Except CacheFailure (LibraryCache × AuthoritativeSyncResult) :=
  if items.any fun item => item.kind ≠ kind then .error .mixedKinds
  else
    let incoming := items.map MediaItem.uri
    match MediaTable.upsertInTransaction (some provider) provider now
        cache.mediaItems items with
    | .error failure => .error failure
    | .ok media =>
      let cached := cachedUris media cache.libraryItems provider kind
      let removedUris := cached.filter (· ∉ incoming)
      let written : LibraryCache :=
        items.zipIdx.foldl
          (fun cache entry => cache.saveItem kind now entry)
          { cache with mediaItems := media }
      .ok
        (removedUris.foldl (fun cache uri => cache.removeItem kind uri) written,
          { written := items.length % 2 ^ 32
            removedUris := removedUris })

/-- `set_artist_followed`. -/
def setArtistFollowed (uri : String) (followed : Bool) (now : Int) :
    LibraryCache :=
  { cache with
    libraryItems := cache.libraryItems.adjust uri fun row =>
      { row with followed := followed, fetchedAtMs := now } }

/-- `DELETE FROM media_items`, which cascades to the library. -/
def deleteMediaItem (uri : String) : LibraryCache where
  mediaItems := cache.mediaItems.erase uri
  libraryItems := cache.libraryItems.erase uri

inductive Action where
  | upsert (provider : Option String) (searchOrigin : String)
      (items : List MediaItem) (now : Int)
  | replace (provider : String) (kind : MediaKind) (items : List MediaItem)
      (now : Int)
  | follow (uri : String) (followed : Bool) (now : Int)
  | deleteMedia (uri : String)

/-- A transaction that fails is rolled back. -/
def act : Action → LibraryCache
  | .upsert provider searchOrigin items now =>
    { cache with
      mediaItems := (MediaTable.upsertProviderMediaItems provider searchOrigin
        now cache.mediaItems items).1 }
  | .replace provider kind items now =>
    match cache.replaceProviderLibraryKind provider kind items now with
    | .ok (replaced, _) => replaced
    | .error _ => cache
  | .follow uri followed now => cache.setArtistFollowed uri followed now
  | .deleteMedia uri => cache.deleteMediaItem uri

end LibraryCache
end Spotuify
