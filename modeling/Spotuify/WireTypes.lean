import Spotuify.JsonCodecs
import Spotuify.Playback
import Spotuify.ReleaseDates
import Spotuify.Reminders
import Spotuify.StoreTables

/-!
# What events carry

The types that daemon events are made of, each with the codec it has on the
wire.  Most of them survive the wire whatever their fields hold.  The others
carry a text that is read as something else, or a gain out of the equalizer's
range.
-/

namespace Spotuify

def PlaybackStateSource.label : PlaybackStateSource → String
  | .playerEvent => "player-event"
  | .commandResult => "command-result"
  | .remotePoll => "web-api-poll"
  | .cache => "cache"
  | .recentFallback => "recent-fallback"

def RepeatMode.label : RepeatMode → String
  | .off => "off"
  | .context => "context"
  | .track => "track"

def RepeatMode.parse : String → Option RepeatMode
  | "off" => some .off
  | "context" => some .context
  | "track" => some .track
  | _ => none

def OperationSource.label : OperationSource → String
  | .cli => "cli"
  | .tui => "tui"
  | .mcp => "mcp"
  | .agent => "agent"
  | .daemonInternal => "daemon-internal"

def OperationKind.label : OperationKind → String
  | .queueAdd => "queue_add"
  | .playlistAdd => "playlist_add"
  | .playlistRemove => "playlist_remove"
  | .playlistCreate => "playlist_create"
  | .playlistUnfollow => "playlist_unfollow"
  | .playlistSetImage => "playlist_set_image"
  | .playlistReorder => "playlist_reorder"
  | .librarySave => "library_save"
  | .libraryUnsave => "library_unsave"
  | .artistFollow => "artist_follow"
  | .artistUnfollow => "artist_unfollow"
  | .transfer => "transfer"
  | .like => "like"
  | .unlike => "unlike"
  | .play => "play"
  | .pause => "pause"
  | .resume => "resume"
  | .toggle => "toggle"
  | .next => "next"
  | .previous => "previous"
  | .seek => "seek"
  | .volume => "volume"
  | .shuffle => "shuffle"
  | .repeat => "repeat"
  | .undo => "undo"
  | .redo => "redo"

def ItemSource.asStr : ItemSource → String
  | .provider name => name
  | .mercury => "mercury"
  | .local => "local"

def ItemSource.fromString : String → ItemSource
  | "mercury" => .mercury
  | "local" => .local
  | value => .provider value

/-- A provider's source is read back unless it bears the name of another
source. -/
def ItemSource.Faithful : ItemSource → Prop
  | .provider name => name ≠ "mercury" ∧ name ≠ "local"
  | _ => True

def AlbumGroup.asStr : AlbumGroup → String
  | .album => "album"
  | .single => "single"
  | .compilation => "compilation"
  | .appearsOn => "appears_on"
  | .other value => value

def AlbumGroup.fromString : String → AlbumGroup
  | "album" => .album
  | "single" => .single
  | "compilation" => .compilation
  | "appears_on" => .appearsOn
  | value => .other value

/-- A group the daemon does not know is read back unless it bears the name of
one it knows. -/
def AlbumGroup.Faithful : AlbumGroup → Prop
  | .other value => value ∉ ["album", "single", "compilation", "appears_on"]
  | _ => True

theorem ItemSource.fromString_asStr_iff (source : ItemSource) :
    fromString source.asStr = source ↔ source.Faithful := by
  cases source with
  | provider name =>
    simp only [asStr, Faithful, fromString]
    split <;> simp_all
  | mercury => exact iff_of_true rfl trivial
  | «local» => exact iff_of_true rfl trivial

theorem AlbumGroup.fromString_asStr_iff (group : AlbumGroup) :
    fromString group.asStr = group ↔ group.Faithful := by
  cases group with
  | other value =>
    simp only [asStr, Faithful, fromString]
    split <;> simp_all
  | album => exact iff_of_true rfl trivial
  | single => exact iff_of_true rfl trivial
  | compilation => exact iff_of_true rfl trivial
  | appearsOn => exact iff_of_true rfl trivial

namespace Wire

open JsonCodec JsonField BinaryFloat

/-- An enumeration is read by comparing with the label of each value. -/
def labelled {α : Type} (values : List α) (label : α → String) : JsonCodec α :=
  unitVariant label fun text => values.find? fun value => label value == text

def mediaKindCodec : JsonCodec MediaKind :=
  labelled [.track, .episode, .show, .album, .artist, .playlist]
    MediaKind.label

/-- A remote poll is also read under its neutral label. -/
def playbackStateSourceCodec : JsonCodec PlaybackStateSource :=
  unitVariant PlaybackStateSource.label fun
    | "player-event" => some .playerEvent
    | "command-result" => some .commandResult
    | "web-api-poll" | "remote-poll" => some .remotePoll
    | "cache" => some .cache
    | "recent-fallback" => some .recentFallback
    | _ => none

/-- An unknown repeat mode is read as off. -/
def repeatModeCodec : JsonCodec RepeatMode :=
  text RepeatMode.label fun value =>
    some ((RepeatMode.parse value).getD .off)

def notificationStateCodec : JsonCodec NotificationState :=
  labelled [.unseen, .seen, .snoozed, .dismissed, .done] fun
    | .unseen => "unseen"
    | .seen => "seen"
    | .snoozed => "snoozed"
    | .dismissed => "dismissed"
    | .done => "done"

inductive SyncTargetData where
  | all
  | playback
  | queue
  | devices
  | playlists
  | recent
  | library

def SyncTargetData.label : SyncTargetData → String
  | .all => "all"
  | .playback => "playback"
  | .queue => "queue"
  | .devices => "devices"
  | .playlists => "playlists"
  | .recent => "recent"
  | .library => "library"

def syncTargetDataCodec : JsonCodec SyncTargetData :=
  labelled [.all, .playback, .queue, .devices, .playlists, .recent, .library]
    SyncTargetData.label

inductive SyncCompletionStatus where
  | succeeded
  | partly
  | failed

def SyncCompletionStatus.isSucceeded : SyncCompletionStatus → Bool
  | .succeeded => true
  | _ => false

theorem SyncCompletionStatus.isSucceeded_iff (status : SyncCompletionStatus) :
    status.isSucceeded = true ↔ status = .succeeded := by
  cases status <;> simp [isSucceeded]

def syncCompletionStatusCodec : JsonCodec SyncCompletionStatus :=
  labelled [.succeeded, .partly, .failed] fun
    | .succeeded => "succeeded"
    | .partly => "partial"
    | .failed => "failed"

inductive AuthErrorKind where
  | notLoggedIn
  | expiredRefresh
  | invalidGrant
  | forbidden
  | scopeReauthRequired

def authErrorKindCodec : JsonCodec AuthErrorKind :=
  labelled [.notLoggedIn, .expiredRefresh, .invalidGrant, .forbidden,
      .scopeReauthRequired] fun
    | .notLoggedIn => "not_logged_in"
    | .expiredRefresh => "expired_refresh"
    | .invalidGrant => "invalid_grant"
    | .forbidden => "forbidden"
    | .scopeReauthRequired => "scope_reauth_required"

def receiptStatusCodec : JsonCodec ReceiptStatus :=
  labelled [.pending, .confirmed, .failed] fun
    | .pending => "pending"
    | .confirmed => "confirmed"
    | .failed => "failed"

def operationSourceCodec : JsonCodec OperationSource :=
  labelled [.cli, .tui, .mcp, .agent, .daemonInternal] OperationSource.label

def operationKindCodec : JsonCodec OperationKind :=
  labelled [.queueAdd, .playlistAdd, .playlistRemove, .playlistCreate,
      .playlistUnfollow, .playlistSetImage, .playlistReorder, .librarySave,
      .libraryUnsave, .artistFollow, .artistUnfollow, .transfer, .like,
      .unlike, .play, .pause, .resume, .toggle, .next, .previous, .seek,
      .volume, .shuffle, .repeat, .undo, .redo]
    OperationKind.label

inductive ThemeSource where
  | builtin
  | user

def themeSourceCodec : JsonCodec ThemeSource :=
  labelled [.builtin, .user] fun
    | .builtin => "builtin"
    | .user => "user"

inductive VizActiveSource where
  | sink
  | loopbackCpal
  | loopbackPipewire
  | none

def vizActiveSourceCodec : JsonCodec VizActiveSource :=
  labelled [.sink, .loopbackCpal, .loopbackPipewire, .none] fun
    | .sink => "sink"
    | .loopbackCpal => "loopback-cpal"
    | .loopbackPipewire => "loopback-pipewire"
    | .none => "none"

inductive VizSourceKindData where
  | auto
  | sink
  | loopback
  | none

def vizSourceKindDataCodec : JsonCodec VizSourceKindData :=
  labelled [.auto, .sink, .loopback, .none] fun
    | .auto => "auto"
    | .sink => "sink"
    | .loopback => "loopback"
    | .none => "none"

inductive UpgradeMethod where
  | homebrew
  | cargo
  | macApp
  | manual
  | dev

def upgradeMethodCodec : JsonCodec UpgradeMethod :=
  labelled [.homebrew, .cargo, .macApp, .manual, .dev] fun
    | .homebrew => "homebrew"
    | .cargo => "cargo"
    | .macApp => "macapp"
    | .manual => "manual"
    | .dev => "dev"

instance : mediaKindCodec.NonNull := ⟨fun _ => Json.noConfusion⟩
instance : playbackStateSourceCodec.NonNull := ⟨fun _ => Json.noConfusion⟩
instance : repeatModeCodec.NonNull := ⟨fun _ => Json.noConfusion⟩
instance : notificationStateCodec.NonNull := ⟨fun _ => Json.noConfusion⟩
instance : syncTargetDataCodec.NonNull := ⟨fun _ => Json.noConfusion⟩
instance : syncCompletionStatusCodec.NonNull := ⟨fun _ => Json.noConfusion⟩
instance : authErrorKindCodec.NonNull := ⟨fun _ => Json.noConfusion⟩
instance : receiptStatusCodec.NonNull := ⟨fun _ => Json.noConfusion⟩
instance : operationSourceCodec.NonNull := ⟨fun _ => Json.noConfusion⟩
instance : operationKindCodec.NonNull := ⟨fun _ => Json.noConfusion⟩
instance : themeSourceCodec.NonNull := ⟨fun _ => Json.noConfusion⟩
instance : vizActiveSourceCodec.NonNull := ⟨fun _ => Json.noConfusion⟩
instance : vizSourceKindDataCodec.NonNull := ⟨fun _ => Json.noConfusion⟩
instance : upgradeMethodCodec.NonNull := ⟨fun _ => Json.noConfusion⟩

instance : mediaKindCodec.Lossless :=
  ⟨fun value => by cases value <;> rfl⟩
instance : playbackStateSourceCodec.Lossless :=
  ⟨fun value => by cases value <;> rfl⟩
instance : repeatModeCodec.Lossless :=
  ⟨fun value => by cases value <;> rfl⟩
instance : notificationStateCodec.Lossless :=
  ⟨fun value => by cases value <;> rfl⟩
instance : syncTargetDataCodec.Lossless :=
  ⟨fun value => by cases value <;> rfl⟩
instance : syncCompletionStatusCodec.Lossless :=
  ⟨fun value => by cases value <;> rfl⟩
instance : authErrorKindCodec.Lossless :=
  ⟨fun value => by cases value <;> rfl⟩
instance : receiptStatusCodec.Lossless :=
  ⟨fun value => by cases value <;> rfl⟩
instance : operationSourceCodec.Lossless :=
  ⟨fun value => by cases value <;> rfl⟩
instance : operationKindCodec.Lossless :=
  ⟨fun value => by cases value <;> rfl⟩
instance : themeSourceCodec.Lossless :=
  ⟨fun value => by cases value <;> rfl⟩
instance : vizActiveSourceCodec.Lossless :=
  ⟨fun value => by cases value <;> rfl⟩
instance : vizSourceKindDataCodec.Lossless :=
  ⟨fun value => by cases value <;> rfl⟩
instance : upgradeMethodCodec.Lossless :=
  ⟨fun value => by cases value <;> rfl⟩

/-- A provider's identity: a lowercase letter, then lowercase letters, digits
and hyphens. -/
def isProviderId (value : String) : Bool :=
  match value.toList with
  | first :: rest =>
    first.isLower && rest.all fun char =>
      char.isLower || char.isDigit || char == '-'
  | [] => false

structure ProviderId where
  value : String
  valid : isProviderId value = true

def ProviderId.new (value : String) : Option ProviderId :=
  if valid : isProviderId value = true then some ⟨value, valid⟩ else none

def ProviderId.codec : JsonCodec ProviderId := text value new

instance : ProviderId.codec.NonNull := ⟨fun _ => Json.noConfusion⟩

instance : ProviderId.codec.Lossless :=
  ⟨fun provider => dif_pos provider.valid⟩

def itemSourceCodec : JsonCodec ItemSource :=
  text ItemSource.asStr fun value => some (ItemSource.fromString value)

def albumGroupCodec : JsonCodec AlbumGroup :=
  text AlbumGroup.asStr fun value => some (AlbumGroup.fromString value)

/-- A text that is no date is read as no date. -/
def releaseDateCodec : JsonCodec (Option ReleaseDate) where
  encode
    | none => .null
    | some date => .string date.display
  decode
    | .null => some none
    | .string value => some (ReleaseDate.fromStr value)
    | _ => none

instance : itemSourceCodec.NonNull := ⟨fun _ => Json.noConfusion⟩
instance : albumGroupCodec.NonNull := ⟨fun _ => Json.noConfusion⟩

instance : releaseDateCodec.Lossless := by
  constructor
  intro date
  cases date with
  | none => rfl
  | some date => exact congrArg some date.fromStr_display

@[simp]
theorem itemSource_roundTrips_iff (source : ItemSource) :
    itemSourceCodec.RoundTrips source ↔ source.Faithful :=
  Option.some_inj.trans source.fromString_asStr_iff

@[simp]
theorem albumGroup_roundTrips_iff (group : AlbumGroup) :
    albumGroupCodec.RoundTrips group ↔ group.Faithful :=
  Option.some_inj.trans group.fromString_asStr_iff

/-- The speed in hundredths; what makes one clamps it. -/
structure PlaybackSpeed where
  hundredths : Nat
  lower : 50 ≤ hundredths
  upper : hundredths ≤ 350

namespace PlaybackSpeed

def clamp (hundredths : Int) : PlaybackSpeed where
  hundredths := (max 50 (min 350 hundredths)).toNat
  lower := by omega
  upper := by omega

def fromF32 (speed : FiniteFloat .single) : PlaybackSpeed :=
  match speed.times 100 with
  | .finite hundredths => clamp hundredths.round
  | .infinite true => clamp 50
  | _ => clamp 350

def serialize (speed : PlaybackSpeed) : Json :=
  writeDouble (.ofRatio .double speed.hundredths 100)

def deserialize (json : Json) : Option PlaybackSpeed :=
  match readSingle json with
  | some (.finite value) => some (fromF32 value)
  | _ => none

def codec : JsonCodec PlaybackSpeed := ⟨serialize, deserialize⟩

end PlaybackSpeed

namespace PlaybackSpeed

theorem clamp_hundredths (speed : PlaybackSpeed) :
    clamp speed.hundredths = speed := by
  obtain ⟨hundredths, lower, upper⟩ := speed
  simp only [clamp, PlaybackSpeed.mk.injEq]
  omega

/-- The written quotient and what is made of it are off by less than half a
hundredth. -/
theorem fromF32_convert (speed : PlaybackSpeed) :
    ∃ double single, ofRatio .double speed.hundredths 100 = .finite double ∧
      (BinaryFloat.finite double).convert .single = .finite single ∧
      fromF32 single = speed := by
  have positive := BinaryFormat.unit_pos
  have upper : speed.hundredths * BinaryFormat.unit ≤ 350 * BinaryFormat.unit :=
    Nat.mul_le_mul_right _ speed.upper
  have small : speed.hundredths * BinaryFormat.unit <
      100 * (2 ^ 2 * BinaryFormat.unit) := by
    generalize BinaryFormat.unit = unit at *
    omega
  obtain ⟨double, finest, written, doubleSign, fine, quotAbove, quotBelow⟩ :=
    @ofQuotient_near_unit .double _ 100 2 false (by decide) small (by decide)
      (by decide) (by decide)
  replace fine : 2 ^ 51 * finest = BinaryFormat.unit := fine
  have small : double.magnitude < 1 * (2 ^ 2 * BinaryFormat.unit) := by
    generalize BinaryFormat.unit = unit at *
    omega
  obtain ⟨single, wider, narrowed, singleSign, coarse, above, below⟩ :=
    @ofQuotient_near_unit .single _ 1 2 double.negative (by decide) small
      (by decide) (by decide) (by decide)
  replace coarse : 2 ^ 22 * wider = BinaryFormat.unit := coarse
  have small : single.magnitude * 100 < 1 * (2 ^ 9 * BinaryFormat.unit) := by
    generalize BinaryFormat.unit = unit at *
    omega
  obtain ⟨product, widest, times, productSign, coarser, timesAbove,
      timesBelow⟩ :=
    @ofQuotient_near_unit .single _ 1 9 single.negative (by decide) small
      (by decide) (by decide) (by decide)
  replace coarser : 2 ^ 15 * widest = BinaryFormat.unit := coarser
  have rounded : product.round = speed.hundredths := by
    apply FiniteFloat.round_eq
    · rw [productSign, singleSign, doubleSign]
      simp
    · rw [Int.natAbs_natCast]
      generalize BinaryFormat.unit = unit at *
      omega
    · rw [Int.natAbs_natCast]
      generalize BinaryFormat.unit = unit at *
      omega
  have nonneg : decide ((speed.hundredths : Int) < 0) = false :=
    decide_eq_false (by omega)
  have written : ofRatio .double speed.hundredths 100 = .finite double := by
    rw [ofRatio, nonneg, Int.natAbs_natCast, written]
  have times : single.times 100 = .finite product := times
  refine ⟨double, single, written, narrowed, ?_⟩
  rw [fromF32, times]
  simp only [rounded]
  exact speed.clamp_hundredths

end PlaybackSpeed

instance : PlaybackSpeed.codec.Lossless := by
  constructor
  intro speed
  obtain ⟨double, single, written, narrowed, same⟩ := speed.fromF32_convert
  show PlaybackSpeed.deserialize speed.serialize = some speed
  rw [PlaybackSpeed.serialize, written, writeDouble, PlaybackSpeed.deserialize,
    readSingle, narrowed]
  exact congrArg some same

instance : PlaybackSpeed.codec.NonNull := by
  constructor
  intro speed
  obtain ⟨double, single, written, narrowed, same⟩ := speed.fromF32_convert
  show speed.serialize ≠ .null
  rw [PlaybackSpeed.serialize, written]
  exact Json.noConfusion

/-- The gains of the bands in tenths of a decibel. -/
structure EqBands where
  tenths : List Int16
  count : tenths.length = 10

namespace EqBands

def gain (tenths : Int16) : BinaryFloat .single :=
  .ofRatio .single tenths.toInt 10

def bandTenthsInRange : BinaryFloat .single → Option Int16
  | .finite db =>
    match db.times 10 with
    | .finite tenths =>
      if -120 ≤ tenths.round ∧ tenths.round ≤ 120 then
        some (Int16.ofInt tenths.round)
      else none
    | _ => none
  | _ => none

/-- One band on the wire. -/
def band : JsonCodec Int16 where
  encode tenths := single.encode (gain tenths)
  decode json := (single.decode json).bind bandTenthsInRange

/-- A curve is read only if it has all bands. -/
def codec : JsonCodec EqBands where
  encode bands := (list band).encode bands.tenths
  decode json := do
    let tenths ← (list band).decode json
    if count : tenths.length = 10 then some ⟨tenths, count⟩ else none

/-- Every band is within the range of the equalizer. -/
def InRange (bands : EqBands) : Prop :=
  ∀ tenths ∈ bands.tenths, -120 ≤ tenths.toInt ∧ tenths.toInt ≤ 120

theorem bandTenthsInRange_gain {tenths : Int16}
    (lower : -120 ≤ tenths.toInt) (upper : tenths.toInt ≤ 120) :
    bandTenthsInRange (gain tenths) = some tenths := by
  have positive := BinaryFormat.unit_pos
  have bound : tenths.toInt.natAbs * BinaryFormat.unit ≤
      120 * BinaryFormat.unit :=
    Nat.mul_le_mul_right _ (by omega)
  have small : tenths.toInt.natAbs * BinaryFormat.unit <
      10 * (2 ^ 4 * BinaryFormat.unit) := by
    generalize BinaryFormat.unit = unit at *
    omega
  obtain ⟨db, spread, gained, dbSign, fine, dbAbove, dbBelow⟩ :=
    @ofQuotient_near_unit .single _ 10 4
      (decide (tenths.toInt < 0)) (by decide) small (by decide)
      (by decide) (by decide)
  replace fine : 2 ^ 20 * spread = BinaryFormat.unit := fine
  have small : db.magnitude * 10 < 1 * (2 ^ 7 * BinaryFormat.unit) := by
    generalize BinaryFormat.unit = unit at *
    omega
  obtain ⟨product, wider, timesTen, productSign, lessFine, above, below⟩ :=
    @ofQuotient_near_unit .single _ 1 7 db.negative
      (by decide) small (by decide) (by decide) (by decide)
  replace lessFine : 2 ^ 17 * wider = BinaryFormat.unit := lessFine
  have rounded : product.round = tenths.toInt := by
    apply FiniteFloat.round_eq (productSign.trans dbSign)
    · generalize BinaryFormat.unit = unit at *
      omega
    · generalize BinaryFormat.unit = unit at *
      omega
  have gained : gain tenths = .finite db := gained
  have timesTen : db.times 10 = .finite product := timesTen
  rw [gained, bandTenthsInRange, timesTen]
  simp only [rounded, lower, upper, and_self, if_true, Int16.ofInt_toInt]

theorem bandTenthsInRange_mem {db : BinaryFloat .single} {tenths : Int16}
    (read : bandTenthsInRange db = some tenths) :
    -120 ≤ tenths.toInt ∧ tenths.toInt ≤ 120 := by
  simp only [bandTenthsInRange] at read
  split at read
  · split at read
    · next product _ =>
      split at read
      · next inRange =>
        cases read
        rwa [Int16.toInt_ofInt_of_le (by omega) (by omega)]
      · cases read
    · cases read
  · cases read

theorem band_roundTrips_iff (tenths : Int16) :
    band.RoundTrips tenths ↔ -120 ≤ tenths.toInt ∧ tenths.toInt ≤ 120 := by
  constructor
  · intro survives
    obtain ⟨db, -, read⟩ := Option.bind_eq_some_iff.mp survives
    exact bandTenthsInRange_mem read
  · rintro ⟨lower, upper⟩
    have back := bandTenthsInRange_gain lower upper
    have finite : (gain tenths).isFinite = true := by
      cases gained : gain tenths with
      | finite value => rfl
      | infinite negative =>
        rw [gained] at back
        cases back
      | nan =>
        rw [gained] at back
        cases back
    have survives := (single_roundTrips_iff _).mpr finite
    exact Option.bind_eq_some_iff.mpr ⟨gain tenths, survives, back⟩

/-- Exactly a curve within the range survives. -/
theorem roundTrips_iff (bands : EqBands) :
    codec.RoundTrips bands ↔ bands.InRange := by
  have each : (list band).RoundTrips bands.tenths ↔ bands.InRange :=
    list_roundTrips_iff.trans (forall₂_congr fun tenths _ =>
      band_roundTrips_iff tenths)
  rw [← each]
  simp only [RoundTrips, codec, Option.bind_eq_bind, Option.bind_eq_some_iff]
  constructor
  · rintro ⟨tenths, read, same⟩
    split at same
    · cases same
      exact read
    · cases same
  · intro read
    exact ⟨bands.tenths, read, dif_pos bands.count⟩

end EqBands

def artistRefRecord :=
  JsonRecord.cons (required "name" string) <| .cons (required "uri" string) .nil

def artistRefCodec : JsonCodec ArtistRef :=
  artistRefRecord.codec (fun value => (value.name, value.uri, ()))
    (fun (name, uri, _) => ⟨name, uri⟩)

instance : artistRefCodec.Lossless := by
  constructor
  intro value
  refine (JsonRecord.codec_roundTrips_iff (by decide) (fun _ => rfl)
    fun _ => rfl).mpr ?_
  simp [artistRefRecord]

structure MediaItem where
  id : Option String
  uri : String
  name : String
  subtitle : String
  context : String
  durationMs : UInt64
  imageUrl : Option String
  kind : MediaKind
  source : Option ItemSource
  freshness : Option String
  explicit : Option Bool
  isPlayable : Option Bool
  album : Option String
  addedAtMs : Option Int64
  resumePositionMs : Option UInt64
  fullyPlayed : Option Bool
  releaseDate : Option ReleaseDate
  albumGroup : Option AlbumGroup
  inLibrary : Option Bool
  albumUri : Option String
  artists : List ArtistRef
  genre : Option String

namespace MediaItem

def record :=
  JsonRecord.cons (nullable "id" string) <|
  .cons (required "uri" string) <|
  .cons (required "name" string) <|
  .cons (required "subtitle" string) <|
  .cons (required "context" string) <|
  .cons (required "duration_ms" uint64) <|
  .cons (nullable "image_url" string) <|
  .cons (required "kind" mediaKindCodec) <|
  .cons (optional "source" itemSourceCodec) <|
  .cons (optional "freshness" string) <|
  .cons (optional "explicit" bool) <|
  .cons (optional "is_playable" bool) <|
  .cons (optional "album" string) <|
  .cons (optional "added_at_ms" int64) <|
  .cons (optional "resume_position_ms" uint64) <|
  .cons (optional "fully_played" bool) <|
  .cons (skippable "release_date" releaseDateCodec none Option.isNone) <|
  .cons (optional "album_group" albumGroupCodec) <|
  .cons (optional "in_library" bool) <|
  .cons (optional "album_uri" string) <|
  .cons (nonEmpty "artists" artistRefCodec) <|
  .cons (optional "genre" string) <|
  .nil

def codec : JsonCodec MediaItem :=
  record.codec
    (fun value => (value.id, value.uri, value.name, value.subtitle, value.context,
      value.durationMs, value.imageUrl, value.kind, value.source,
      value.freshness, value.explicit, value.isPlayable, value.album,
      value.addedAtMs, value.resumePositionMs, value.fullyPlayed,
      value.releaseDate, value.albumGroup, value.inLibrary, value.albumUri,
      value.artists, value.genre, ()))
    (fun (id, uri, name, subtitle, context, durationMs, imageUrl, kind, source,
      freshness, explicit, isPlayable, album, addedAtMs, resumePositionMs,
      fullyPlayed, releaseDate, albumGroup, inLibrary, albumUri, artists,
      genre, _) =>
      ⟨id, uri, name, subtitle, context, durationMs, imageUrl, kind, source,
       freshness, explicit, isPlayable, album, addedAtMs, resumePositionMs,
       fullyPlayed, releaseDate, albumGroup, inLibrary, albumUri, artists,
       genre⟩)

instance : codec.NonNull := ⟨fun _ => Json.noConfusion⟩

/-- The source and the album group are read back. -/
def Faithful (item : MediaItem) : Prop :=
  (∀ source ∈ item.source, source.Faithful) ∧
    ∀ group ∈ item.albumGroup, group.Faithful

@[simp]
theorem codec_roundTrips_iff (item : MediaItem) :
    codec.RoundTrips item ↔ item.Faithful := by
  refine (JsonRecord.codec_roundTrips_iff (by decide) (fun _ => rfl)
    fun _ => rfl).trans ?_
  simp [record, Faithful]

end MediaItem

structure Device where
  id : Option String
  name : String
  kind : String
  isActive : Bool
  isRestricted : Bool
  volumePercent : Option UInt8
  supportsVolume : Bool

namespace Device

def record :=
  JsonRecord.cons (nullable "id" string) <|
  .cons (required "name" string) <|
  .cons (required "type" string) <|
  .cons (required "is_active" bool) <|
  .cons (required "is_restricted" bool) <|
  .cons (nullable "volume_percent" uint8) <|
  .cons (required "supports_volume" bool) <|
  .nil

def codec : JsonCodec Device :=
  record.codec
    (fun value => (value.id, value.name, value.kind, value.isActive, value.isRestricted,
      value.volumePercent, value.supportsVolume, ()))
    (fun (id, name, kind, isActive, isRestricted, volumePercent, supportsVolume,
      _) =>
      ⟨id, name, kind, isActive, isRestricted, volumePercent, supportsVolume⟩)

instance : codec.NonNull := ⟨fun _ => Json.noConfusion⟩

instance : codec.Lossless := by
  constructor
  intro value
  refine (JsonRecord.codec_roundTrips_iff (by decide) (fun _ => rfl)
    fun _ => rfl).mpr ?_
  simp [record]

end Device

structure Playback where
  item : Option MediaItem
  device : Option Device
  isPlaying : Bool
  progressMs : UInt64
  shuffle : Bool
  «repeat» : RepeatMode
  sampledAtMs : Option Int64
  providerTimestampMs : Option Int64
  source : Option PlaybackStateSource
  playbackSpeed : Option PlaybackSpeed

namespace Playback

def record :=
  JsonRecord.cons (nullable "item" MediaItem.codec) <|
  .cons (nullable "device" Device.codec) <|
  .cons (required "is_playing" bool) <|
  .cons (required "progress_ms" uint64) <|
  .cons (required "shuffle" bool) <|
  .cons (required "repeat" repeatModeCodec) <|
  .cons (optional "sampled_at_ms" int64) <|
  .cons (optional "provider_timestamp_ms" int64) <|
  .cons (optional "source" playbackStateSourceCodec) <|
  .cons (optional "playback_speed" PlaybackSpeed.codec) <|
  .nil

def codec : JsonCodec Playback :=
  record.codec
    (fun value => (value.item, value.device, value.isPlaying, value.progressMs,
      value.shuffle, value.«repeat», value.sampledAtMs,
      value.providerTimestampMs, value.source, value.playbackSpeed, ()))
    (fun (item, device, isPlaying, progressMs, shuffle, «repeat», sampledAtMs,
      providerTimestampMs, source, playbackSpeed, _) =>
      ⟨item, device, isPlaying, progressMs, shuffle, «repeat», sampledAtMs,
       providerTimestampMs, source, playbackSpeed⟩)

instance : codec.NonNull := ⟨fun _ => Json.noConfusion⟩

def Faithful (playback : Playback) : Prop :=
  ∀ item ∈ playback.item, item.Faithful

@[simp]
theorem codec_roundTrips_iff (playback : Playback) :
    codec.RoundTrips playback ↔ playback.Faithful := by
  refine (JsonRecord.codec_roundTrips_iff (by decide) (fun _ => rfl)
    fun _ => rfl).trans ?_
  simp [record, Faithful]

end Playback

structure Queue where
  currentlyPlaying : Option MediaItem
  items : List MediaItem
  sessionActive : Bool
  asOfMs : Int64

namespace Queue

def record :=
  JsonRecord.cons (nullable "currently_playing" MediaItem.codec) <|
  .cons (required "items" MediaItem.codec.list) <|
  .cons (defaulted "session_active" bool false) <|
  .cons (defaulted "as_of_ms" int64 0) <|
  .nil

def codec : JsonCodec Queue :=
  record.codec
    (fun value => (value.currentlyPlaying, value.items, value.sessionActive, value.asOfMs,
      ()))
    (fun (currentlyPlaying, items, sessionActive, asOfMs, _) =>
      ⟨currentlyPlaying, items, sessionActive, asOfMs⟩)

instance : codec.NonNull := ⟨fun _ => Json.noConfusion⟩

def Faithful (queue : Queue) : Prop :=
  (∀ item ∈ queue.currentlyPlaying, item.Faithful) ∧
    ∀ item ∈ queue.items, item.Faithful

@[simp]
theorem codec_roundTrips_iff (queue : Queue) :
    codec.RoundTrips queue ↔ queue.Faithful := by
  refine (JsonRecord.codec_roundTrips_iff (by decide) (fun _ => rfl)
    fun _ => rfl).trans ?_
  simp [record, Faithful]

end Queue

structure Notification where
  id : String
  reminderId : String
  mediaUri : String
  mediaKind : MediaKind
  name : String
  subtitle : String
  imageUrl : Option String
  dueAtMs : Int64
  firedAtMs : Int64
  state : NotificationState
  snoozedUntilMs : Option Int64
  acted : Option String
  message : Option String

namespace Notification

def record :=
  JsonRecord.cons (required "id" string) <|
  .cons (required "reminder_id" string) <|
  .cons (required "media_uri" string) <|
  .cons (required "media_kind" mediaKindCodec) <|
  .cons (required "name" string) <|
  .cons (required "subtitle" string) <|
  .cons (optional "image_url" string) <|
  .cons (required "due_at_ms" int64) <|
  .cons (required "fired_at_ms" int64) <|
  .cons (required "state" notificationStateCodec) <|
  .cons (optional "snoozed_until_ms" int64) <|
  .cons (optional "acted" string) <|
  .cons (optional "message" string) <|
  .nil

def codec : JsonCodec Notification :=
  record.codec
    (fun value => (value.id, value.reminderId, value.mediaUri, value.mediaKind,
      value.name, value.subtitle, value.imageUrl, value.dueAtMs,
      value.firedAtMs, value.state, value.snoozedUntilMs, value.acted,
      value.message, ()))
    (fun (id, reminderId, mediaUri, mediaKind, name, subtitle, imageUrl, dueAtMs,
      firedAtMs, state, snoozedUntilMs, acted, message, _) =>
      ⟨id, reminderId, mediaUri, mediaKind, name, subtitle, imageUrl,
       dueAtMs, firedAtMs, state, snoozedUntilMs, acted, message⟩)

instance : codec.NonNull := ⟨fun _ => Json.noConfusion⟩

instance : codec.Lossless := by
  constructor
  intro value
  refine (JsonRecord.codec_roundTrips_iff (by decide) (fun _ => rfl)
    fun _ => rfl).mpr ?_
  simp [record]

end Notification

structure ThemeSpec where
  name : String
  source : ThemeSource
  bg : Option String
  accent : Option String
  brightFg : Option String
  fg : Option String
  green : Option String
  yellow : Option String
  red : Option String

namespace ThemeSpec

def record :=
  JsonRecord.cons (required "name" string) <|
  .cons (required "source" themeSourceCodec) <|
  .cons (optional "bg" string) <|
  .cons (optional "accent" string) <|
  .cons (optional "bright_fg" string) <|
  .cons (optional "fg" string) <|
  .cons (optional "green" string) <|
  .cons (optional "yellow" string) <|
  .cons (optional "red" string) <|
  .nil

def codec : JsonCodec ThemeSpec :=
  record.codec
    (fun value => (value.name, value.source, value.bg, value.accent, value.brightFg,
      value.fg, value.green, value.yellow, value.red, ()))
    (fun (name, source, bg, accent, brightFg, fg, green, yellow, red, _) =>
      ⟨name, source, bg, accent, brightFg, fg, green, yellow, red⟩)

instance : codec.NonNull := ⟨fun _ => Json.noConfusion⟩

instance : codec.Lossless := by
  constructor
  intro value
  refine (JsonRecord.codec_roundTrips_iff (by decide) (fun _ => rfl)
    fun _ => rfl).mpr ?_
  simp [record]

end ThemeSpec

structure ClientPreferences where
  vizColorScheme : Option String
  vizStyle : Option String
  theme : Option ThemeSpec

namespace ClientPreferences

def record :=
  JsonRecord.cons (optional "viz_color_scheme" string) <|
  .cons (optional "viz_style" string) <|
  .cons (optional "theme" ThemeSpec.codec) <|
  .nil

def codec : JsonCodec ClientPreferences :=
  record.codec
    (fun value => (value.vizColorScheme, value.vizStyle, value.theme, ()))
    (fun (vizColorScheme, vizStyle, theme, _) =>
      ⟨vizColorScheme, vizStyle, theme⟩)

instance : codec.NonNull := ⟨fun _ => Json.noConfusion⟩

instance : codec.Lossless := by
  constructor
  intro value
  refine (JsonRecord.codec_roundTrips_iff (by decide) (fun _ => rfl)
    fun _ => rfl).mpr ?_
  simp [record]

end ClientPreferences

structure UpgradeHint where
  method : UpgradeMethod
  command : Option String
  url : Option String

namespace UpgradeHint

def record :=
  JsonRecord.cons (required "method" upgradeMethodCodec) <|
  .cons (optional "command" string) <|
  .cons (optional "url" string) <|
  .nil

def codec : JsonCodec UpgradeHint :=
  record.codec
    (fun value => (value.method, value.command, value.url, ()))
    (fun (method, command, url, _) =>
      ⟨method, command, url⟩)

instance : codec.NonNull := ⟨fun _ => Json.noConfusion⟩

instance : codec.Lossless := by
  constructor
  intro value
  refine (JsonRecord.codec_roundTrips_iff (by decide) (fun _ => rfl)
    fun _ => rfl).mpr ?_
  simp [record]

end UpgradeHint

structure ProviderSyncOutcome where
  provider : ProviderId
  status : SyncCompletionStatus
  error : Option String

namespace ProviderSyncOutcome

def record :=
  JsonRecord.cons (required "provider" ProviderId.codec) <|
  .cons (required "status" syncCompletionStatusCodec) <|
  .cons (optional "error" string) <|
  .nil

def codec : JsonCodec ProviderSyncOutcome :=
  record.codec
    (fun value => (value.provider, value.status, value.error, ()))
    (fun (provider, status, error, _) =>
      ⟨provider, status, error⟩)

instance : codec.NonNull := ⟨fun _ => Json.noConfusion⟩

instance : codec.Lossless := by
  constructor
  intro value
  refine (JsonRecord.codec_roundTrips_iff (by decide) (fun _ => rfl)
    fun _ => rfl).mpr ?_
  simp [record]

end ProviderSyncOutcome

structure CacheSyncSummary where
  target : SyncTargetData
  provider : Option ProviderId
  playbackSnapshots : UInt32
  queueSnapshots : UInt32
  queueItems : UInt32
  devices : UInt32
  playlists : UInt32
  playlistItems : UInt32
  recentItems : UInt32
  libraryItems : UInt32
  mediaItems : UInt32
  status : SyncCompletionStatus
  error : Option String
  providerOutcomes : List ProviderSyncOutcome

namespace CacheSyncSummary

def record :=
  JsonRecord.cons (required "target" syncTargetDataCodec) <|
  .cons (optional "provider" ProviderId.codec) <|
  .cons (required "playback_snapshots" uint32) <|
  .cons (defaulted "queue_snapshots" uint32 0) <|
  .cons (defaulted "queue_items" uint32 0) <|
  .cons (required "devices" uint32) <|
  .cons (required "playlists" uint32) <|
  .cons (required "playlist_items" uint32) <|
  .cons (required "recent_items" uint32) <|
  .cons (required "library_items" uint32) <|
  .cons (required "media_items" uint32) <|
  .cons (skippable "status" syncCompletionStatusCodec .succeeded
    SyncCompletionStatus.isSucceeded) <|
  .cons (optional "error" string) <|
  .cons (nonEmpty "provider_outcomes" ProviderSyncOutcome.codec) <|
  .nil

def codec : JsonCodec CacheSyncSummary :=
  record.codec
    (fun value => (value.target, value.provider, value.playbackSnapshots,
      value.queueSnapshots, value.queueItems, value.devices, value.playlists,
      value.playlistItems, value.recentItems, value.libraryItems,
      value.mediaItems, value.status, value.error, value.providerOutcomes, ()))
    (fun (target, provider, playbackSnapshots, queueSnapshots, queueItems,
      devices, playlists, playlistItems, recentItems, libraryItems,
      mediaItems, status, error, providerOutcomes, _) =>
      ⟨target, provider, playbackSnapshots, queueSnapshots, queueItems,
       devices, playlists, playlistItems, recentItems, libraryItems,
       mediaItems, status, error, providerOutcomes⟩)

instance : codec.NonNull := ⟨fun _ => Json.noConfusion⟩

instance : codec.Lossless := by
  constructor
  intro value
  refine (JsonRecord.codec_roundTrips_iff (by decide) (fun _ => rfl)
    fun _ => rfl).mpr ?_
  simp [record, SyncCompletionStatus.isSucceeded_iff]

end CacheSyncSummary

structure EqSettings where
  preset : Option String
  bands : EqBands

namespace EqSettings

def record :=
  JsonRecord.cons (defaulted "preset" string.option none) <|
  .cons (required "bands" EqBands.codec) <|
  .nil

def codec : JsonCodec EqSettings :=
  record.codec
    (fun value => (value.preset, value.bands, ()))
    (fun (preset, bands, _) =>
      ⟨preset, bands⟩)

instance : codec.NonNull := ⟨fun _ => Json.noConfusion⟩

@[simp]
theorem codec_roundTrips_iff (settings : EqSettings) :
    codec.RoundTrips settings ↔ settings.bands.InRange := by
  refine (JsonRecord.codec_roundTrips_iff (by decide) (fun _ => rfl)
    fun _ => rfl).trans ?_
  simp [record, EqBands.roundTrips_iff]

end EqSettings

end Wire

end Spotuify
