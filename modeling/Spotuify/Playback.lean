import Spotuify.MutationRequest

/-!
# Playback samples

The playback state as the daemon passes it between its providers, its clock
and its store, and the events a local player backend reports.
-/

namespace Spotuify

/-- The name under which a backend registered its device. -/
structure DeviceId where
  value : String
  deriving DecidableEq

/-- Playback speed in hundredths. -/
structure PlaybackSpeed where
  hundredths : Nat
  deriving DecidableEq

def PlaybackSpeed.normal : PlaybackSpeed := ⟨100⟩

/-- How the daemon learned a playback state. -/
inductive PlaybackStateSource where
  | playerEvent
  | commandResult
  | remotePoll
  | cache
  | recentFallback
  deriving DecidableEq

inductive ItemSource where
  | provider (name : String)
  | mercury
  | «local»
  deriving DecidableEq

inductive AlbumGroup where
  | album
  | single
  | compilation
  | appearsOn
  | other (value : String)
  deriving DecidableEq

structure ReleaseDate where
  year : Nat
  month : Option Nat
  day : Option Nat
  deriving DecidableEq

structure ArtistRef where
  name : String
  uri : String
  deriving DecidableEq

structure MediaItem where
  id : Option String
  uri : String
  name : String
  subtitle : String
  context : String
  durationMs : Nat
  imageUrl : Option String
  kind : MediaKind
  source : Option ItemSource
  freshness : Option String
  explicit : Option Bool
  isPlayable : Option Bool
  album : Option String
  addedAtMs : Option Int
  resumePositionMs : Option Nat
  fullyPlayed : Option Bool
  releaseDate : Option ReleaseDate
  albumGroup : Option AlbumGroup
  inLibrary : Option Bool
  albumUri : Option String
  artists : List ArtistRef
  genre : Option String
  deriving DecidableEq

/-- An item of which only the URI is known: every other field has its
default. -/
def MediaItem.stub (uri : String) : MediaItem where
  id := none
  uri := uri
  name := ""
  subtitle := ""
  context := ""
  durationMs := 0
  imageUrl := none
  kind := .track
  source := none
  freshness := none
  explicit := none
  isPlayable := none
  album := none
  addedAtMs := none
  resumePositionMs := none
  fullyPlayed := none
  releaseDate := none
  albumGroup := none
  inLibrary := none
  albumUri := none
  artists := []
  genre := none

structure Device where
  id : Option String
  name : String
  kind : String
  isActive : Bool
  isRestricted : Bool
  volumePercent : Option Nat
  supportsVolume : Bool
  deriving DecidableEq

structure Playback where
  item : Option MediaItem
  device : Option Device
  isPlaying : Bool
  progressMs : Nat
  shuffle : Bool
  «repeat» : RepeatMode
  sampledAtMs : Option Int
  providerTimestampMs : Option Int
  source : Option PlaybackStateSource
  playbackSpeed : Option PlaybackSpeed
  deriving DecidableEq

/-- What a player backend reports to the daemon. -/
inductive PlayerEvent where
  | ready (deviceId : DeviceId) (name : String)
  | degraded (reason : String)
  | providerPolicy (reason : String)
  | deactivated
  | activated
  | sessionDisconnected (reason : String)
  | failed (reason : String) (restarts : Nat)
  | playbackStarted (uri : ResourceUri) (positionMs : Nat)
  | playbackPaused
  | playbackResumed
  | trackChanged (uri : ResourceUri) (positionMs : Nat)
  | positionTick (positionMs : Nat)
  | endOfTrack (uri : ResourceUri)
  | preloadNext (uri : ResourceUri)
  | volumeChanged (percent : Nat)
  deriving DecidableEq

namespace PlayerEvent

/-- `is_playback_transition`. -/
def isPlaybackTransition : PlayerEvent → Bool
  | playbackStarted _ _ | trackChanged _ _ | playbackPaused
  | playbackResumed | deactivated | endOfTrack _ => true
  | _ => false

end PlayerEvent

/-- A `None` or an empty value takes the source's; the flag says whether the
target changed. -/
def fillMissing {Value : Type} (isMissing : Value → Bool)
    (target source : Value) : Value × Bool :=
  if isMissing target && !isMissing source then (source, true)
  else (target, false)

namespace MediaItem

/-- `merge_missing_item_metadata`: fill display metadata of the same URI. -/
def mergeMissingMetadata (target source : MediaItem) : MediaItem × Bool :=
  if target.uri ≠ source.uri then
    (target, false)
  else
    let id := fillMissing Option.isNone target.id source.id
    let name := fillMissing String.isEmpty target.name source.name
    let subtitle :=
      fillMissing String.isEmpty target.subtitle source.subtitle
    let context := fillMissing String.isEmpty target.context source.context
    let durationMs :=
      fillMissing (· == 0) target.durationMs source.durationMs
    let imageUrl :=
      fillMissing Option.isNone target.imageUrl source.imageUrl
    let itemSource := fillMissing Option.isNone target.source source.source
    let freshness :=
      fillMissing Option.isNone target.freshness source.freshness
    let explicit :=
      fillMissing Option.isNone target.explicit source.explicit
    let isPlayable :=
      fillMissing Option.isNone target.isPlayable source.isPlayable
    let album := fillMissing Option.isNone target.album source.album
    let addedAtMs :=
      fillMissing Option.isNone target.addedAtMs source.addedAtMs
    let resumePositionMs := fillMissing Option.isNone
      target.resumePositionMs source.resumePositionMs
    let fullyPlayed :=
      fillMissing Option.isNone target.fullyPlayed source.fullyPlayed
    let releaseDate :=
      fillMissing Option.isNone target.releaseDate source.releaseDate
    let albumGroup :=
      fillMissing Option.isNone target.albumGroup source.albumGroup
    let inLibrary :=
      fillMissing Option.isNone target.inLibrary source.inLibrary
    let albumUri :=
      fillMissing Option.isNone target.albumUri source.albumUri
    let artists := fillMissing List.isEmpty target.artists source.artists
    let genre := fillMissing Option.isNone target.genre source.genre
    ({ target with
        id := id.1,
        name := name.1,
        subtitle := subtitle.1,
        context := context.1,
        durationMs := durationMs.1,
        imageUrl := imageUrl.1,
        source := itemSource.1,
        freshness := freshness.1,
        explicit := explicit.1,
        isPlayable := isPlayable.1,
        album := album.1,
        addedAtMs := addedAtMs.1,
        resumePositionMs := resumePositionMs.1,
        fullyPlayed := fullyPlayed.1,
        releaseDate := releaseDate.1,
        albumGroup := albumGroup.1,
        inLibrary := inLibrary.1,
        albumUri := albumUri.1,
        artists := artists.1,
        genre := genre.1 },
      [id.2, name.2, subtitle.2, context.2, durationMs.2, imageUrl.2,
        itemSource.2, freshness.2, explicit.2, isPlayable.2, album.2,
        addedAtMs.2, resumePositionMs.2, fullyPlayed.2, releaseDate.2,
        albumGroup.2, inLibrary.2, albumUri.2, artists.2, genre.2].or)

/-- Filling in metadata never changes which item it is. -/
@[simp]
theorem mergeMissingMetadata_uri (target source : MediaItem) :
    (target.mergeMissingMetadata source).1.uri = target.uri := by
  unfold mergeMissingMetadata
  split <;> rfl

end MediaItem

end Spotuify
