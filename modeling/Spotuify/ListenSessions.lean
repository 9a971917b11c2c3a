import Spotuify.PlaybackClock

/-!
# Listening sessions

The embedded backend's events, their translation into player events, and the
tracker that turns player events into listen facts.  The tracker's clock and
its sink tap are read once per event; a finalization belongs to the event that
triggered it.
-/

namespace Spotuify

/-- The Display text of a URI error. -/
def UriError.text : UriError → String
  | .invalidShape => "resource URI must have the form <scheme>:<kind>:<id>"
  | .unsupportedScheme scheme =>
    "unsupported resource URI scheme `" ++ scheme ++ "`"
  | .unsupportedKind kind => "unsupported resource kind `" ++ kind ++ "`"
  | .emptyId => "resource URI id must not be empty"
  | .invalidId id => "resource URI id `" ++ id ++ "` is not canonical"

def UriScheme.spotify : UriScheme := ⟨"spotify", by decide⟩

/-- An event of the librespot player.  Tracks and audio items are given by
their `to_uri` text. -/
inductive LibrespotPlayerEvent where
  | playing (trackId : String) (positionMs : Nat)
  | paused (trackId : String) (positionMs : Nat)
  | trackChanged (audioItemUri : String)
  | positionChanged (positionMs : Nat)
  | positionCorrection (positionMs : Nat)
  | seeked (positionMs : Nat)
  | endOfTrack (trackId : String)
  | stopped (trackId : String)
  | timeToPreloadNextTrack (trackId : String)
  | preloading (trackId : String)
  | sessionDisconnected
  | sessionConnected
  | unavailable (trackId : String)
  | volumeChanged (volume : Nat)
  | playRequestIdChanged
  | loading (trackId : String)
  | sessionClientChanged
  | shuffleChanged (shuffle : Bool)
  | repeatChanged (context track : Bool)
  | autoPlayChanged (autoPlay : Bool)
  | setQueue
  | filterExplicitContentChanged (filter : Bool)

/-- `parse_spotify_resource_uri`. -/
def parseSpotifyResourceUri (raw : String) : Except String ResourceUri :=
  match ResourceUri.parse raw with
  | .error error =>
    .error ("invalid backend URI `" ++ raw ++ "`: " ++ error.text)
  | .ok uri =>
    if uri.scheme ≠ .spotify then
      .error ("backend emitted foreign URI `" ++ raw ++ "` for `" ++
        UriScheme.spotify.label ++ "`")
    else
      .ok uri

def librespotVolumeToPercent (volume : Nat) : Nat :=
  (volume * 100 + 65535 / 2) / 65535

/-- `translate_librespot_player_event`. -/
def translateLibrespotPlayerEvent :
    LibrespotPlayerEvent → Option PlayerEvent
  | .playing trackId positionMs =>
    some (match parseSpotifyResourceUri trackId with
      | .ok uri => .playbackStarted uri positionMs
      | .error error => .degraded error)
  | .paused _ _ => some .playbackPaused
  | .trackChanged audioItemUri =>
    some (match parseSpotifyResourceUri audioItemUri with
      | .ok uri => .trackChanged uri 0
      | .error error =>
        .degraded ("invalid backend URI `" ++ audioItemUri ++ "`: " ++ error))
  | .positionChanged positionMs | .positionCorrection positionMs
  | .seeked positionMs => some (.positionTick positionMs)
  | .endOfTrack trackId =>
    some (match parseSpotifyResourceUri trackId with
      | .ok uri => .endOfTrack uri
      | .error error => .degraded error)
  | .stopped _ => none
  | .timeToPreloadNextTrack trackId =>
    some (match parseSpotifyResourceUri trackId with
      | .ok uri => .preloadNext uri
      | .error error => .degraded error)
  | .preloading _ => none
  | .sessionDisconnected => some .deactivated
  | .sessionConnected => some .activated
  | .unavailable trackId =>
    some (.degraded ("track unavailable: " ++ trackId))
  | .volumeChanged volume =>
    some (.volumeChanged (librespotVolumeToPercent volume))
  | .playRequestIdChanged | .loading _ | .sessionClientChanged
  | .shuffleChanged _ | .repeatChanged _ _ | .autoPlayChanged _
  | .setQueue | .filterExplicitContentChanged _ => none

inductive SkipReason where
  | userNext
  | userPrevious
  | trackEnd
  | error
  | sessionDied
  deriving DecidableEq, Repr

structure Qualification where
  qualified : Bool
  thresholdMs : Int
  deriving DecidableEq, Repr

/-- `qualify_listen`. -/
def qualifyListen (durationMs audibleMs : Int) : Qualification :=
  let floorMs := 30000
  let capMs := 240000
  let thresholdMs :=
    if durationMs ≤ floorMs then floorMs
    else max floorMs (min capMs (durationMs.tdiv 2))
  { qualified := durationMs > floorMs ∧ audibleMs ≥ thresholdMs,
    thresholdMs := thresholdMs }

/-- The part of an open session that pausing does not change, and the paused
time so far. -/
structure ListenSession where
  sessionId : Nat
  uri : String
  startedAtMs : Int
  lastPositionMs : Nat
  accumulatedPausedMs : Int
  audibleBaselineMs : Nat
  contextUri : Option String
  deriving DecidableEq

inductive SessionState where
  | idle
  | playing (session : ListenSession)
  | paused (session : ListenSession) (pausedAtMs : Int)
  deriving DecidableEq

structure ListenFact where
  sessionId : Nat
  trackUri : String
  contextUri : Option String
  startedAtMs : Int
  endedAtMs : Int
  durationMs : Int
  elapsedMs : Int
  audibleMs : Int
  qualified : Bool
  skipReason : SkipReason
  deriving DecidableEq

/-- What the tracker reads from its surroundings while it observes one
event. -/
structure Surroundings where
  nowMs : Int
  /-- The sink tap's reading, when a counter is wired. -/
  audibleCounter : Option Nat
  newSessionId : Nat
  currentContext : Option String
  cachedDurationMs : String → Option Nat

namespace Surroundings

/-- `audible_now`. -/
def audibleNow (surroundings : Surroundings) : Nat :=
  surroundings.audibleCounter.getD 0

end Surroundings

namespace ListenSession

/-- The wall-clock and the sink-tap half of `finalize`. -/
def audibleMs (session : ListenSession) (elapsedMs : Int)
    (audibleCounter : Option Nat) : Int :=
  let wallClockAudibleMs :=
    max 0 (saturatingSub elapsedMs session.accumulatedPausedMs)
  match audibleCounter with
  | none => wallClockAudibleMs
  | some current =>
    let tapDelta := current - session.audibleBaselineMs
    if current ≥ session.audibleBaselineMs ∧ tapDelta > 0 then
      min (asSigned tapDelta) (max 0 elapsedMs)
    else
      wallClockAudibleMs

/-- `finalize` on an open session. -/
def finalize (session : ListenSession) (reason : SkipReason)
    (surroundings : Surroundings) : ListenFact :=
  let elapsedMs :=
    max 0 (saturatingSub surroundings.nowMs session.startedAtMs)
  let audibleMs :=
    session.audibleMs elapsedMs surroundings.audibleCounter
  let durationMs : Int :=
    match surroundings.cachedDurationMs session.uri with
    | some duration =>
      if asSigned duration > 0 then asSigned duration
      else session.lastPositionMs
    | none => session.lastPositionMs
  { sessionId := session.sessionId,
    trackUri := session.uri,
    contextUri := session.contextUri,
    startedAtMs := session.startedAtMs,
    endedAtMs := surroundings.nowMs,
    durationMs := durationMs,
    elapsedMs := elapsedMs,
    audibleMs := audibleMs,
    qualified :=
      (qualifyListen durationMs audibleMs).qualified &&
        reason != .sessionDied,
    skipReason := reason }

end ListenSession

namespace SessionState

/-- `SessionTracker::finalize`: an idle tracker records nothing. -/
def finalize (state : SessionState) (reason : SkipReason)
    (surroundings : Surroundings) : Option ListenFact :=
  match state with
  | .idle => none
  | .playing session | .paused session _ =>
    some (session.finalize reason surroundings)

/-- `SessionTracker::observe`, without the progress samples. -/
def observe (state : SessionState) (event : PlayerEvent)
    (surroundings : Surroundings) : SessionState × Option ListenFact :=
  match event with
  | .playbackStarted uri positionMs =>
    -- Whatever session was open is overwritten.
    (.playing
      { sessionId := surroundings.newSessionId,
        uri := uri.asUri,
        startedAtMs := surroundings.nowMs,
        lastPositionMs := positionMs,
        accumulatedPausedMs := 0,
        audibleBaselineMs := surroundings.audibleNow,
        contextUri := surroundings.currentContext }, none)
  | .playbackPaused =>
    match state with
    | .playing session => (.paused session surroundings.nowMs, none)
    | other => (other, none)
  | .playbackResumed =>
    match state with
    | .paused session pausedAtMs =>
      (.playing
        { session with
          accumulatedPausedMs := saturatingAddSigned
            session.accumulatedPausedMs
            (saturatingSub surroundings.nowMs pausedAtMs) }, none)
    | other => (other, none)
  | .positionTick positionMs =>
    match state with
    | .playing session =>
      (.playing { session with lastPositionMs := positionMs }, none)
    | other => (other, none)
  | .trackChanged _ _ => (.idle, state.finalize .userNext surroundings)
  | .endOfTrack _ => (.idle, state.finalize .trackEnd surroundings)
  | .sessionDisconnected _ | .deactivated =>
    (.idle, state.finalize .sessionDied surroundings)
  | _ => (state, none)

end SessionState

end Spotuify
