import Spotuify.WireTypes

/-!
# Daemon events on the wire

Daemon events are a union tagged by `event`.  A frame that is no event this
build knows is kept as an unknown event with its tag and the frame itself, and
an unknown event is written as the frame it was read from.
-/

namespace Spotuify.Wire

open JsonCodec JsonField

/-- The text an identifier is written as, and how texts are read. -/
structure UuidText (Uuid : Type) where
  hyphenated : Uuid → String
  parseStr : String → Option Uuid
  parseStr_hyphenated : ∀ id, parseStr (hyphenated id) = some id

def UuidText.codec {Uuid : Type} (uuids : UuidText Uuid) : JsonCodec Uuid :=
  text uuids.hyphenated uuids.parseStr

/-- Why a frame could not be read. -/
inductive UnknownReason where
  | unknownTag
  | undecodableKnownTag
  deriving DecidableEq

/-- Identifiers of receipts and operations are written alike. -/
inductive DaemonEvent (Uuid : Type) where
  | shutdownRequested
  | playbackChanged (action : String) (playback : Option Playback)
  | queueChanged (action : String) (uris : List String) (queue : Option Queue)
  | devicesChanged (action : String) (devices : Option (List Device))
  | playlistsChanged (action : String) (playlist : Option String)
      (provider : Option ProviderId)
  | libraryChanged (action : String) (uris : List String)
      (provider : Option ProviderId)
  | searchUpdated (query : String) (count : UInt64)
      (provider : Option ProviderId)
  | searchPage (query : String) (kind : MediaKind) (offset : UInt32)
      (version : UInt64) (items : List MediaItem)
      (provider : Option ProviderId)
  | searchComplete (query : String) (version : UInt64)
      (provider : Option ProviderId)
  | searchFailed (query : String) (version : UInt64) (kind : Option MediaKind)
      (offset : Option UInt32) (message : String)
      (provider : Option ProviderId)
  | eventStreamLagged (skipped : UInt64)
  | syncStarted (target : SyncTargetData) (provider : Option ProviderId)
  | syncFinished (summary : CacheSyncSummary)
  | mutationFinished (action : String) (message : String)
  | rateLimited (retryAfterSecs : UInt64) (scope : String)
      (provider : Option ProviderId)
  | authError (kind : AuthErrorKind) (provider : Option ProviderId)
  | mutationAccepted (receiptId : Uuid) (action : String)
  | mutationFinalized (receiptId : Uuid) (status : ReceiptStatus)
      (message : String)
  | schemaCompat (endpoint : String) (missingKeys : List String)
  | playerReady (deviceId : String) (name : String)
  | playerDegraded (reason : String)
  | providerPolicy (provider : ProviderId) (reason : String)
  | providerPolicyCleared (provider : ProviderId) (reason : String)
  | premiumRequired
  | sessionDisconnected (reason : String)
  | playerFailed (reason : String) (restarts : UInt32)
  | listenQualified (trackUri : String) (durationMs : Int64)
      (audibleMs : Int64) (startedAtMs : Option Int64)
      (trackName : Option String) (artistName : Option String)
      (albumName : Option String) (artistUri : Option String)
      (albumUri : Option String)
  | analyticsImportProgress (runId : String) (provider : String)
      (username : String) (phase : String) (fetched : UInt64) (stored : UInt64)
      (resolved : UInt64) (promoted : UInt64) (unresolved : UInt64)
      (message : Option String)
  | operationRecorded (operationId : Uuid) (kind : OperationKind)
      (source : OperationSource)
  | operationUndone (undoOpId : Uuid) (originalOpId : Uuid) (success : Bool)
  | configReloaded
  | clientPreferencesChanged (preferences : ClientPreferences)
  | spectrumFrame (bands : List (BinaryFloat .single))
      (peak : BinaryFloat .single) (timestampMs : UInt64)
      (waveform : List (BinaryFloat .single))
  | vizSourceChanged (active : VizActiveSource)
      (configured : VizSourceKindData) (hint : Option String)
      (backendKind : Option String)
  | reminderDue (notification : Notification)
  | remindersChanged (action : String)
  | bookmarksChanged (action : String)
  | eqChanged (settings : EqSettings) (applied : Bool)
  | updateAvailable (latestVersion : String) (releaseUrl : Option String)
      (upgrade : UpgradeHint)
  | authMigrationRecommended (canLoginDevApp : Bool)
  | unknown (event : String) (reason : UnknownReason) (raw : Json)

namespace DaemonEvent

variable {Uuid : Type} (uuids : UuidText Uuid)

namespace Variant

def shutdownRequested : JsonVariant (DaemonEvent Uuid) where
  label := "shutdown-requested"
  body := .unit
  build _ := .shutdownRequested

def playbackChanged : JsonVariant (DaemonEvent Uuid) where
  label := "playback-changed"
  body := .fields <|
    .cons (required "action" string) <|
    .cons (optional "playback" Playback.codec) <|
    .nil
  build := fun (action, playback, _) => .playbackChanged action playback

def queueChanged : JsonVariant (DaemonEvent Uuid) where
  label := "queue-changed"
  body := .fields <|
    .cons (required "action" string) <|
    .cons (required "uris" string.list) <|
    .cons (optional "queue" Queue.codec) <|
    .nil
  build := fun (action, uris, queue, _) => .queueChanged action uris queue

def devicesChanged : JsonVariant (DaemonEvent Uuid) where
  label := "devices-changed"
  body := .fields <|
    .cons (required "action" string) <|
    .cons (optional "devices" Device.codec.list) <|
    .nil
  build := fun (action, devices, _) => .devicesChanged action devices

def playlistsChanged : JsonVariant (DaemonEvent Uuid) where
  label := "playlists-changed"
  body := .fields <|
    .cons (required "action" string) <|
    .cons (nullable "playlist" string) <|
    .cons (optional "provider" ProviderId.codec) <|
    .nil
  build := fun (action, playlist, provider, _) =>
    .playlistsChanged action playlist provider

def libraryChanged : JsonVariant (DaemonEvent Uuid) where
  label := "library-changed"
  body := .fields <|
    .cons (required "action" string) <|
    .cons (required "uris" string.list) <|
    .cons (optional "provider" ProviderId.codec) <|
    .nil
  build := fun (action, uris, provider, _) =>
    .libraryChanged action uris provider

def searchUpdated : JsonVariant (DaemonEvent Uuid) where
  label := "search-updated"
  body := .fields <|
    .cons (required "query" string) <|
    .cons (required "count" uint64) <|
    .cons (optional "provider" ProviderId.codec) <|
    .nil
  build := fun (query, count, provider, _) =>
    .searchUpdated query count provider

def searchPage : JsonVariant (DaemonEvent Uuid) where
  label := "search-page"
  body := .fields <|
    .cons (required "query" string) <|
    .cons (required "kind" mediaKindCodec) <|
    .cons (required "offset" uint32) <|
    .cons (required "version" uint64) <|
    .cons (required "items" MediaItem.codec.list) <|
    .cons (optional "provider" ProviderId.codec) <|
    .nil
  build := fun (query, kind, offset, version, items, provider, _) =>
    .searchPage query kind offset version items provider

def searchComplete : JsonVariant (DaemonEvent Uuid) where
  label := "search-complete"
  body := .fields <|
    .cons (required "query" string) <|
    .cons (required "version" uint64) <|
    .cons (optional "provider" ProviderId.codec) <|
    .nil
  build := fun (query, version, provider, _) =>
    .searchComplete query version provider

def searchFailed : JsonVariant (DaemonEvent Uuid) where
  label := "search-failed"
  body := .fields <|
    .cons (required "query" string) <|
    .cons (required "version" uint64) <|
    .cons (optional "kind" mediaKindCodec) <|
    .cons (optional "offset" uint32) <|
    .cons (required "message" string) <|
    .cons (optional "provider" ProviderId.codec) <|
    .nil
  build := fun (query, version, kind, offset, message, provider, _) =>
    .searchFailed query version kind offset message provider

def eventStreamLagged : JsonVariant (DaemonEvent Uuid) where
  label := "event-stream-lagged"
  body := .fields <|
    .cons (required "skipped" uint64) <|
    .nil
  build := fun (skipped, _) => .eventStreamLagged skipped

def syncStarted : JsonVariant (DaemonEvent Uuid) where
  label := "sync-started"
  body := .fields <|
    .cons (required "target" syncTargetDataCodec) <|
    .cons (optional "provider" ProviderId.codec) <|
    .nil
  build := fun (target, provider, _) => .syncStarted target provider

def syncFinished : JsonVariant (DaemonEvent Uuid) where
  label := "sync-finished"
  body := .fields <|
    .cons (required "summary" CacheSyncSummary.codec) <|
    .nil
  build := fun (summary, _) => .syncFinished summary

def mutationFinished : JsonVariant (DaemonEvent Uuid) where
  label := "mutation-finished"
  body := .fields <|
    .cons (required "action" string) <|
    .cons (required "message" string) <|
    .nil
  build := fun (action, message, _) => .mutationFinished action message

def rateLimited : JsonVariant (DaemonEvent Uuid) where
  label := "rate-limited"
  body := .fields <|
    .cons (required "retry_after_secs" uint64) <|
    .cons (required "scope" string) <|
    .cons (optional "provider" ProviderId.codec) <|
    .nil
  build := fun (retryAfterSecs, scope, provider, _) =>
    .rateLimited retryAfterSecs scope provider

def authError : JsonVariant (DaemonEvent Uuid) where
  label := "auth-error"
  body := .fields <|
    .cons (required "kind" authErrorKindCodec) <|
    .cons (optional "provider" ProviderId.codec) <|
    .nil
  build := fun (kind, provider, _) => .authError kind provider

def mutationAccepted : JsonVariant (DaemonEvent Uuid) where
  label := "mutation-accepted"
  body := .fields <|
    .cons (required "receipt_id" uuids.codec) <|
    .cons (required "action" string) <|
    .nil
  build := fun (receiptId, action, _) => .mutationAccepted receiptId action

def mutationFinalized : JsonVariant (DaemonEvent Uuid) where
  label := "mutation-finalized"
  body := .fields <|
    .cons (required "receipt_id" uuids.codec) <|
    .cons (required "status" receiptStatusCodec) <|
    .cons (required "message" string) <|
    .nil
  build := fun (receiptId, status, message, _) =>
    .mutationFinalized receiptId status message

def schemaCompat : JsonVariant (DaemonEvent Uuid) where
  label := "schema-compat"
  body := .fields <|
    .cons (required "endpoint" string) <|
    .cons (required "missing_keys" string.list) <|
    .nil
  build := fun (endpoint, missingKeys, _) => .schemaCompat endpoint missingKeys

def playerReady : JsonVariant (DaemonEvent Uuid) where
  label := "player-ready"
  body := .fields <|
    .cons (required "device_id" string) <|
    .cons (required "name" string) <|
    .nil
  build := fun (deviceId, name, _) => .playerReady deviceId name

def playerDegraded : JsonVariant (DaemonEvent Uuid) where
  label := "player-degraded"
  body := .fields <|
    .cons (required "reason" string) <|
    .nil
  build := fun (reason, _) => .playerDegraded reason

def providerPolicy : JsonVariant (DaemonEvent Uuid) where
  label := "provider-policy"
  body := .fields <|
    .cons (required "provider" ProviderId.codec) <|
    .cons (required "reason" string) <|
    .nil
  build := fun (provider, reason, _) => .providerPolicy provider reason

def providerPolicyCleared : JsonVariant (DaemonEvent Uuid) where
  label := "provider-policy-cleared"
  body := .fields <|
    .cons (required "provider" ProviderId.codec) <|
    .cons (required "reason" string) <|
    .nil
  build := fun (provider, reason, _) => .providerPolicyCleared provider reason

def premiumRequired : JsonVariant (DaemonEvent Uuid) where
  label := "premium-required"
  body := .unit
  build _ := .premiumRequired

def sessionDisconnected : JsonVariant (DaemonEvent Uuid) where
  label := "session-disconnected"
  body := .fields <|
    .cons (required "reason" string) <|
    .nil
  build := fun (reason, _) => .sessionDisconnected reason

def playerFailed : JsonVariant (DaemonEvent Uuid) where
  label := "player-failed"
  body := .fields <|
    .cons (required "reason" string) <|
    .cons (required "restarts" uint32) <|
    .nil
  build := fun (reason, restarts, _) => .playerFailed reason restarts

def listenQualified : JsonVariant (DaemonEvent Uuid) where
  label := "listen-qualified"
  body := .fields <|
    .cons (required "track_uri" string) <|
    .cons (required "duration_ms" int64) <|
    .cons (required "audible_ms" int64) <|
    .cons (optional "started_at_ms" int64) <|
    .cons (optional "track_name" string) <|
    .cons (optional "artist_name" string) <|
    .cons (optional "album_name" string) <|
    .cons (optional "artist_uri" string) <|
    .cons (optional "album_uri" string) <|
    .nil
  build := fun (trackUri, durationMs, audibleMs, startedAtMs, trackName,
    artistName, albumName, artistUri, albumUri, _) =>
    .listenQualified trackUri durationMs audibleMs startedAtMs trackName
      artistName albumName artistUri albumUri

def analyticsImportProgress : JsonVariant (DaemonEvent Uuid) where
  label := "analytics-import-progress"
  body := .fields <|
    .cons (required "run_id" string) <|
    .cons (required "provider" string) <|
    .cons (required "username" string) <|
    .cons (required "phase" string) <|
    .cons (required "fetched" uint64) <|
    .cons (required "stored" uint64) <|
    .cons (required "resolved" uint64) <|
    .cons (required "promoted" uint64) <|
    .cons (required "unresolved" uint64) <|
    .cons (optional "message" string) <|
    .nil
  build := fun (runId, provider, username, phase, fetched, stored, resolved,
    promoted, unresolved, message, _) =>
    .analyticsImportProgress runId provider username phase fetched stored
      resolved promoted unresolved message

def operationRecorded : JsonVariant (DaemonEvent Uuid) where
  label := "operation-recorded"
  body := .fields <|
    .cons (required "operation_id" uuids.codec) <|
    .cons (required "kind" operationKindCodec) <|
    .cons (required "source" operationSourceCodec) <|
    .nil
  build := fun (operationId, kind, source, _) =>
    .operationRecorded operationId kind source

def operationUndone : JsonVariant (DaemonEvent Uuid) where
  label := "operation-undone"
  body := .fields <|
    .cons (required "undo_op_id" uuids.codec) <|
    .cons (required "original_op_id" uuids.codec) <|
    .cons (required "success" bool) <|
    .nil
  build := fun (undoOpId, originalOpId, success, _) =>
    .operationUndone undoOpId originalOpId success

def configReloaded : JsonVariant (DaemonEvent Uuid) where
  label := "config-reloaded"
  body := .unit
  build _ := .configReloaded

def clientPreferencesChanged : JsonVariant (DaemonEvent Uuid) where
  label := "client-preferences-changed"
  body := .fields <|
    .cons (required "preferences" ClientPreferences.codec) <|
    .nil
  build := fun (preferences, _) => .clientPreferencesChanged preferences

def spectrumFrame : JsonVariant (DaemonEvent Uuid) where
  label := "spectrum-frame"
  body := .fields <|
    .cons (required "bands" single.list) <|
    .cons (required "peak" single) <|
    .cons (required "timestamp_ms" uint64) <|
    .cons (nonEmpty "waveform" single) <|
    .nil
  build := fun (bands, peak, timestampMs, waveform, _) =>
    .spectrumFrame bands peak timestampMs waveform

def vizSourceChanged : JsonVariant (DaemonEvent Uuid) where
  label := "viz-source-changed"
  body := .fields <|
    .cons (required "active" vizActiveSourceCodec) <|
    .cons (required "configured" vizSourceKindDataCodec) <|
    .cons (optional "hint" string) <|
    .cons (optional "backend_kind" string) <|
    .nil
  build := fun (active, configured, hint, backendKind, _) =>
    .vizSourceChanged active configured hint backendKind

def reminderDue : JsonVariant (DaemonEvent Uuid) where
  label := "reminder-due"
  body := .fields <|
    .cons (required "notification" Notification.codec) <|
    .nil
  build := fun (notification, _) => .reminderDue notification

def remindersChanged : JsonVariant (DaemonEvent Uuid) where
  label := "reminders-changed"
  body := .fields <|
    .cons (required "action" string) <|
    .nil
  build := fun (action, _) => .remindersChanged action

def bookmarksChanged : JsonVariant (DaemonEvent Uuid) where
  label := "bookmarks-changed"
  body := .fields <|
    .cons (required "action" string) <|
    .nil
  build := fun (action, _) => .bookmarksChanged action

def eqChanged : JsonVariant (DaemonEvent Uuid) where
  label := "eq-changed"
  body := .fields <|
    .cons (required "settings" EqSettings.codec) <|
    .cons (required "applied" bool) <|
    .nil
  build := fun (settings, applied, _) => .eqChanged settings applied

def updateAvailable : JsonVariant (DaemonEvent Uuid) where
  label := "update-available"
  body := .fields <|
    .cons (required "latest_version" string) <|
    .cons (optional "release_url" string) <|
    .cons (required "upgrade" UpgradeHint.codec) <|
    .nil
  build := fun (latestVersion, releaseUrl, upgrade, _) =>
    .updateAvailable latestVersion releaseUrl upgrade

def authMigrationRecommended : JsonVariant (DaemonEvent Uuid) where
  label := "auth-migration-recommended"
  body := .fields <|
    .cons (required "can_login_dev_app" bool) <|
    .nil
  build := fun (canLoginDevApp, _) => .authMigrationRecommended canLoginDevApp

/-- The variants in their order of declaration. -/
def all : List (JsonVariant (DaemonEvent Uuid)) :=
  [shutdownRequested, playbackChanged, queueChanged, devicesChanged,
    playlistsChanged, libraryChanged, searchUpdated, searchPage,
    searchComplete, searchFailed, eventStreamLagged, syncStarted, syncFinished,
    mutationFinished, rateLimited, authError, mutationAccepted uuids,
    mutationFinalized uuids, schemaCompat, playerReady, playerDegraded,
    providerPolicy, providerPolicyCleared, premiumRequired,
    sessionDisconnected, playerFailed, listenQualified,
    analyticsImportProgress, operationRecorded uuids, operationUndone uuids,
    configReloaded, clientPreferencesChanged, spectrumFrame, vizSourceChanged,
    reminderDue, remindersChanged, bookmarksChanged, eqChanged,
    updateAvailable, authMigrationRecommended]

end Variant

/-- The known tags, sorted. -/
def allKindLabels : List String :=
  ["analytics-import-progress", "auth-error", "auth-migration-recommended",
    "bookmarks-changed", "client-preferences-changed", "config-reloaded",
    "devices-changed", "eq-changed", "event-stream-lagged", "library-changed",
    "listen-qualified", "mutation-accepted", "mutation-finalized",
    "mutation-finished", "operation-recorded", "operation-undone",
    "playback-changed", "player-degraded", "player-failed", "player-ready",
    "playlists-changed", "premium-required", "provider-policy",
    "provider-policy-cleared", "queue-changed", "rate-limited", "reminder-due",
    "reminders-changed", "schema-compat", "search-complete", "search-failed",
    "search-page", "search-updated", "session-disconnected",
    "shutdown-requested", "spectrum-frame", "sync-finished", "sync-started",
    "update-available", "viz-source-changed"]

/-- The frame of a variant. -/
def frame (Uuid : Type) (variant : JsonVariant (DaemonEvent Uuid))
    (parts : variant.Parts) : Json :=
  variant.encode "event" parts

def serialize : DaemonEvent Uuid → Json
  | .unknown event _ .null => .object [("event", .string event)]
  | .unknown _ _ raw => raw
  | .shutdownRequested => frame Uuid Variant.shutdownRequested ()
  | .playbackChanged action playback =>
    frame Uuid Variant.playbackChanged (action, playback, ())
  | .queueChanged action uris queue =>
    frame Uuid Variant.queueChanged (action, uris, queue, ())
  | .devicesChanged action devices =>
    frame Uuid Variant.devicesChanged (action, devices, ())
  | .playlistsChanged action playlist provider =>
    frame Uuid Variant.playlistsChanged (action, playlist, provider, ())
  | .libraryChanged action uris provider =>
    frame Uuid Variant.libraryChanged (action, uris, provider, ())
  | .searchUpdated query count provider =>
    frame Uuid Variant.searchUpdated (query, count, provider, ())
  | .searchPage query kind offset version items provider =>
    frame Uuid Variant.searchPage (query, kind, offset, version, items,
      provider, ())
  | .searchComplete query version provider =>
    frame Uuid Variant.searchComplete (query, version, provider, ())
  | .searchFailed query version kind offset message provider =>
    frame Uuid Variant.searchFailed (query, version, kind, offset, message,
      provider, ())
  | .eventStreamLagged skipped =>
    frame Uuid Variant.eventStreamLagged (skipped, ())
  | .syncStarted target provider =>
    frame Uuid Variant.syncStarted (target, provider, ())
  | .syncFinished summary => frame Uuid Variant.syncFinished (summary, ())
  | .mutationFinished action message =>
    frame Uuid Variant.mutationFinished (action, message, ())
  | .rateLimited retryAfterSecs scope provider =>
    frame Uuid Variant.rateLimited (retryAfterSecs, scope, provider, ())
  | .authError kind provider =>
    frame Uuid Variant.authError (kind, provider, ())
  | .mutationAccepted receiptId action =>
    frame Uuid (Variant.mutationAccepted uuids) (receiptId, action, ())
  | .mutationFinalized receiptId status message =>
    frame Uuid (Variant.mutationFinalized uuids) (receiptId, status, message,
      ())
  | .schemaCompat endpoint missingKeys =>
    frame Uuid Variant.schemaCompat (endpoint, missingKeys, ())
  | .playerReady deviceId name =>
    frame Uuid Variant.playerReady (deviceId, name, ())
  | .playerDegraded reason => frame Uuid Variant.playerDegraded (reason, ())
  | .providerPolicy provider reason =>
    frame Uuid Variant.providerPolicy (provider, reason, ())
  | .providerPolicyCleared provider reason =>
    frame Uuid Variant.providerPolicyCleared (provider, reason, ())
  | .premiumRequired => frame Uuid Variant.premiumRequired ()
  | .sessionDisconnected reason =>
    frame Uuid Variant.sessionDisconnected (reason, ())
  | .playerFailed reason restarts =>
    frame Uuid Variant.playerFailed (reason, restarts, ())
  | .listenQualified trackUri durationMs audibleMs startedAtMs trackName
      artistName albumName artistUri albumUri =>
    frame Uuid Variant.listenQualified (trackUri, durationMs, audibleMs,
      startedAtMs, trackName, artistName, albumName, artistUri, albumUri, ())
  | .analyticsImportProgress runId provider username phase fetched stored
      resolved promoted unresolved message =>
    frame Uuid Variant.analyticsImportProgress (runId, provider, username,
      phase, fetched, stored, resolved, promoted, unresolved, message, ())
  | .operationRecorded operationId kind source =>
    frame Uuid (Variant.operationRecorded uuids) (operationId, kind, source,
      ())
  | .operationUndone undoOpId originalOpId success =>
    frame Uuid (Variant.operationUndone uuids) (undoOpId, originalOpId,
      success, ())
  | .configReloaded => frame Uuid Variant.configReloaded ()
  | .clientPreferencesChanged preferences =>
    frame Uuid Variant.clientPreferencesChanged (preferences, ())
  | .spectrumFrame bands peak timestampMs waveform =>
    frame Uuid Variant.spectrumFrame (bands, peak, timestampMs, waveform, ())
  | .vizSourceChanged active configured hint backendKind =>
    frame Uuid Variant.vizSourceChanged (active, configured, hint, backendKind,
      ())
  | .reminderDue notification =>
    frame Uuid Variant.reminderDue (notification, ())
  | .remindersChanged action =>
    frame Uuid Variant.remindersChanged (action, ())
  | .bookmarksChanged action =>
    frame Uuid Variant.bookmarksChanged (action, ())
  | .eqChanged settings applied =>
    frame Uuid Variant.eqChanged (settings, applied, ())
  | .updateAvailable latestVersion releaseUrl upgrade =>
    frame Uuid Variant.updateAvailable (latestVersion, releaseUrl, upgrade, ())
  | .authMigrationRecommended canLoginDevApp =>
    frame Uuid Variant.authMigrationRecommended (canLoginDevApp, ())

/-- Every frame is read, if only as an unknown event. -/
def deserialize (raw : Json) : DaemonEvent Uuid :=
  match JsonVariant.decode "event" (Variant.all uuids) raw with
  | some event => event
  | none =>
    let event := ((raw.get? "event").bind Json.asString?).getD ""
    let reason :=
      if event ∈ allKindLabels then .undecodableKnownTag else .unknownTag
    .unknown event reason raw

def isUnknown : DaemonEvent Uuid → Bool
  | .unknown .. => true
  | _ => false

/-- The texts, gains and numbers that an event is made of are among those the
wire keeps apart. -/
def Faithful : DaemonEvent Uuid → Prop
  | .playbackChanged _ playback => ∀ state ∈ playback, state.Faithful
  | .queueChanged _ _ queue => ∀ listing ∈ queue, listing.Faithful
  | .searchPage _ _ _ _ items _ => ∀ item ∈ items, item.Faithful
  | .spectrumFrame bands peak _ waveform =>
    (∀ band ∈ bands, band.isFinite = true) ∧ peak.isFinite = true ∧
      ∀ sample ∈ waveform, sample.isFinite = true
  | .eqChanged settings _ => settings.bands.InRange
  | _ => True

end DaemonEvent

end Spotuify.Wire
