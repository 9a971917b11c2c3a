import Spotuify.BatchedMutations
import Spotuify.GuardedMachine
import Spotuify.ListenSessions
import Spotuify.PlaylistRemoveUndo
import Spotuify.ProviderRouting
import Mathlib.Data.Finset.Card

/-!
# Marking rows of an open playlist and removing them

The terminal client marks rows of an open playlist by their position, and asks
before it has the marked rows removed.  What it asks for is fixed when it asks;
loads may replace the rows while the question is open.  Cursor, filter and
screen change at any time, and other commands keep the client busy.
-/

namespace Spotuify

open Receipts (groupsOf)

inductive Screen where
  | player
  | search
  | library
  | playlists
  | podcasts
  | history
  | notifications
  | bookmarks
  deriving DecidableEq

def likedSongsPlaylistId : String := "spotuify:liked-songs"

/-- `str::split_whitespace`. -/
def splitWhitespace (text : List Char) : List (List Char) :=
  (text.splitOnP isWhitespace).filter fun token => !token.isEmpty

def matchesFilter (query text : String) : Bool :=
  let trimmed := trim query.toList
  trimmed.isEmpty || (splitWhitespace trimmed).all fun token =>
    decide (token.map Char.toLower <:+: text.toList.map Char.toLower)

def mediaItemFilterText (item : MediaItem) : String :=
  item.name ++ " " ++ item.subtitle ++ " " ++ item.context ++ " " ++ item.uri

/-- The two of `PlaylistCaps` that a removal asks for. -/
structure RemovalCaps where
  remove : Bool
  versionTokens : Bool

def defaultUriScheme : Option (ProviderCatalog RemovalCaps) → Option UriScheme
  | none => some UriScheme.spotify
  | some catalog =>
    catalog.defaultProvider.bind fun default =>
      (catalog.providers.find? fun provider => provider.id = default).map
        ProviderDescriptor.uriScheme

/-- `playlist_resource_uri`, without the errors, which are dropped. -/
def playlistResourceUri (catalog : Option (ProviderCatalog RemovalCaps))
    (playlistId : String) : Option String :=
  match ResourceUri.parse playlistId with
  | .ok resource =>
    if resource.kind = .playlist then some resource.asUri else none
  | .error .invalidShape =>
    (defaultUriScheme catalog).bind fun scheme =>
      match ResourceUri.new scheme .playlist playlistId with
      | .ok resource => some resource.asUri
      | .error _ => none
  | .error _ => none

def providerDescriptorForResource (catalog : ProviderCatalog RemovalCaps)
    (uri : String) : Option (ProviderDescriptor RemovalCaps) :=
  if "spotuify:".toList.isPrefixOf uri.toList then
    catalog.defaultProvider.bind fun default =>
      catalog.providers.find? fun provider => provider.id = default
  else
    match ResourceUri.parse uri with
    | .ok resource =>
      catalog.providers.find? fun provider =>
        provider.uriScheme = resource.scheme
    | .error _ => none

/-- A client without a catalog leaves the decision to the daemon. -/
def providerAllowsResource (catalog : Option (ProviderCatalog RemovalCaps))
    (uri : String) (predicate : RemovalCaps → Bool) : Bool :=
  match catalog with
  | none => true
  | some catalog =>
    (providerDescriptorForResource catalog uri).any fun provider =>
      predicate provider.capabilities

/-- The question before a removal, with what is removed when it is answered. -/
structure RemovalModal where
  title : String
  body : String
  playlist : String
  items : List PlaylistItemOccurrenceRef
  message : String

structure PlaylistView where
  screen : Screen
  catalog : Option (ProviderCatalog RemovalCaps)
  selectedPlaylistId : Option String
  selectedPlaylistName : Option String
  playlistTracks : List MediaItem
  selected : Nat
  listFilterQuery : String
  playlistMarkedPositions : Finset Nat
  playlistMarksPlaylistId : Option String
  markAnchor : Option Nat
  confirmModal : Option RemovalModal
  actionInFlight : Bool

/-- The URIs and positions of rows, if each is one that can be named. -/
def occurrencesAt (tracks : List MediaItem) :
    List Nat → Option (List (ResourceUri × Nat))
  | [] => some []
  | position :: rest =>
    match tracks[position]? with
    | none => none
    | some item =>
      match ResourceUri.parse item.uri with
      | .error _ => none
      | .ok uri =>
        if position < 2 ^ 32 then
          (occurrencesAt tracks rest).map fun occurrences =>
            (uri, position) :: occurrences
        else none

def PlaylistItemOccurrenceRef.new (uri : ResourceUri) (positions : List Nat) :
    Option PlaylistItemOccurrenceRef :=
  if nonempty : positions ≠ [] then some ⟨uri, positions, nonempty⟩ else none

def occurrenceRefs :
    List (ResourceUri × List (ResourceUri × Nat)) →
      Option (List PlaylistItemOccurrenceRef)
  | [] => some []
  | (uri, occurrences) :: rest =>
    (PlaylistItemOccurrenceRef.new uri (occurrences.map Prod.snd)).bind
      fun reference => (occurrenceRefs rest).map fun references =>
        reference :: references

namespace PlaylistView

variable (view : PlaylistView)

def isLikedSongsOpen : Bool :=
  view.selectedPlaylistId = some likedSongsPlaylistId

def isNormalPlaylistOpen : Bool :=
  view.screen = .playlists && view.selectedPlaylistId.isSome &&
    !view.isLikedSongsOpen

def visiblePlaylistOccurrences : List (Nat × MediaItem) :=
  (view.playlistTracks.zipIdx.filter fun row =>
    matchesFilter view.listFilterQuery (mediaItemFilterText row.1)).map
      Prod.swap

/-- The marked rows in ascending order, or else the row under the cursor. -/
def selectedPlaylistOccurrencePositions : List Nat :=
  if view.selectedPlaylistId = none then []
  else if view.playlistMarksPlaylistId = view.selectedPlaylistId ∧
      view.playlistMarkedPositions ≠ ∅ then
    (List.range view.playlistTracks.length).filter fun position =>
      position ∈ view.playlistMarkedPositions
  else
    ((view.visiblePlaylistOccurrences[view.selected]?).map Prod.fst).toList

def hiddenMarkedPlaylistOccurrenceCount : Nat :=
  if view.playlistMarksPlaylistId ≠ view.selectedPlaylistId then 0
  else
    (view.playlistMarkedPositions.filter fun position =>
      position < view.playlistTracks.length ∧
        position ∉ view.visiblePlaylistOccurrences.map Prod.fst).card

def selectedPlaylistOccurrenceRefs :
    Option (List PlaylistItemOccurrenceRef) :=
  (occurrencesAt view.playlistTracks
    view.selectedPlaylistOccurrencePositions).bind fun occurrences =>
      occurrenceRefs (groupsOf Prod.fst occurrences)

/-- `selected_count`, while a playlist other than the liked songs is open. -/
def selectedCount : Nat :=
  if view.playlistMarksPlaylistId = view.selectedPlaylistId then
    view.playlistMarkedPositions.card
  else 0

def clearPlaylistOccurrenceMarks : PlaylistView :=
  { view with
    playlistMarkedPositions := ∅
    playlistMarksPlaylistId := none
    markAnchor := none }

/-- Marks of another playlist are dropped before a row is marked. -/
def marksHere : Finset Nat :=
  if view.playlistMarksPlaylistId ≠ view.selectedPlaylistId then ∅
  else view.playlistMarkedPositions

def toggleMarkSelected : PlaylistView :=
  match view.visiblePlaylistOccurrences[view.selected]? with
  | none => view
  | some (position, _) =>
    if position ∈ view.marksHere then
      { view with
        playlistMarksPlaylistId := view.selectedPlaylistId
        playlistMarkedPositions := view.marksHere.erase position }
    else
      { view with
        playlistMarksPlaylistId := view.selectedPlaylistId
        playlistMarkedPositions := insert position view.marksHere
        markAnchor := some view.selected }

def markRange : PlaylistView :=
  let occurrences := view.visiblePlaylistOccurrences
  if occurrences.isEmpty then view
  else
    let current := min view.selected (occurrences.length - 1)
    let anchor := min (view.markAnchor.getD current) (occurrences.length - 1)
    let range := (occurrences.drop (min anchor current)).take
      (max anchor current + 1 - min anchor current)
    { view with
      playlistMarksPlaylistId := view.selectedPlaylistId
      playlistMarkedPositions :=
        view.marksHere ∪ (range.map Prod.fst).toFinset }

def back : PlaylistView :=
  if view.screen = .playlists ∧ view.selectedPlaylistId ≠ none then
    { view.clearPlaylistOccurrenceMarks with
      selectedPlaylistId := none
      selectedPlaylistName := none
      playlistTracks := []
      selected := 0 }
  else view

def openLikedSongs : PlaylistView :=
  { view.clearPlaylistOccurrenceMarks with
    selectedPlaylistId := some likedSongsPlaylistId
    selectedPlaylistName := some "Liked Songs"
    selected := 0
    listFilterQuery := "" }

/-- The rows of a playlist have arrived. -/
def applyPlaylistTracks (playlistId playlistName : String)
    (tracks : List MediaItem) : PlaylistView :=
  { view.clearPlaylistOccurrenceMarks with
    actionInFlight := false
    selectedPlaylistId := some playlistId
    selectedPlaylistName := some playlistName
    playlistTracks := tracks
    selected := 0 }

def tracksLabel (count : Nat) : String :=
  if count = 1 then "track" else "tracks"

def hiddenHint (hidden : Nat) : String :=
  if hidden = 0 then ""
  else if hidden = 1 then " 1 marked track is hidden by the current filter."
  else
    " " ++ toString hidden ++
      " marked tracks are hidden by the current filter."

/-- `delete_confirm_for_screen` of an open playlist. -/
def deleteConfirm : Option RemovalModal :=
  view.selectedPlaylistId.bind fun playlist =>
  (playlistResourceUri view.catalog playlist).bind fun playlistUri =>
  if providerAllowsResource view.catalog playlistUri RemovalCaps.remove then
    let undoHint :=
      if providerAllowsResource view.catalog playlistUri
          RemovalCaps.versionTokens then
        "Undo with `spotuify ops undo`."
      else "This removal cannot be undone."
    view.selectedPlaylistName.bind fun playlistName =>
    view.selectedPlaylistOccurrenceRefs.bind fun items =>
    let count := (items.map fun item => item.positions.length).sum
    if count = 0 then none
    else
      some
        { title := "Remove " ++ toString count ++ " " ++ tracksLabel count ++
            " from " ++ playlistName ++ "?"
          body := "Remove " ++ toString count ++ " selected " ++
            tracksLabel count ++ " from \"" ++ playlistName ++ "\"?" ++
            hiddenHint view.hiddenMarkedPlaylistOccurrenceCount ++ " " ++
            undoHint
          playlist := playlist
          items := items
          message := "Removed " ++ toString count ++ " " ++
            tracksLabel count ++ " from " ++ playlistName }
  else none

end PlaylistView

/-- The client, with the removals it has sent, the last one first. -/
structure MarkSession where
  view : PlaylistView
  sent : List Request

/-- Keys, answers and what else touches the view. -/
inductive MarkAction where
  | toggleMark
  | markRange
  | clearMarks
  | markElsewhere (anchor : Nat)
  | back
  | openLikedSongs
  | begin
  | delete
  | confirm
  | cancel
  | showScreen (screen : Screen)
  | steer (selected : Nat)
  | filter (query : String)
  | applyCatalog (catalog : Option (ProviderCatalog RemovalCaps))
  | tracksLoaded (playlistId playlistName : String) (tracks : List MediaItem)
  | answered

namespace MarkSession

def initial : MarkSession where
  view :=
    { screen := .player
      catalog := none
      selectedPlaylistId := none
      selectedPlaylistName := none
      playlistTracks := []
      selected := 0
      listFilterQuery := ""
      playlistMarkedPositions := ∅
      playlistMarksPlaylistId := none
      markAnchor := none
      confirmModal := none
      actionInFlight := false }
  sent := []

variable (session : MarkSession)

/-- A key that a modal would have kept from the view. -/
def press (next : PlaylistView) : Option MarkSession :=
  if session.view.confirmModal.isNone then some { session with view := next }
  else none

def step : MarkAction → Option MarkSession
  | .toggleMark =>
    if session.view.isNormalPlaylistOpen then
      session.press session.view.toggleMarkSelected
    else none
  | .markRange =>
    if session.view.isNormalPlaylistOpen then
      session.press session.view.markRange
    else none
  | .clearMarks => session.press session.view.clearPlaylistOccurrenceMarks
  | .markElsewhere anchor =>
    if session.view.isNormalPlaylistOpen then none
    else session.press { session.view with markAnchor := some anchor }
  | .back => session.press session.view.back
  | .openLikedSongs =>
    if session.view.screen = .playlists then
      session.press session.view.openLikedSongs
    else none
  | .begin =>
    if session.view.actionInFlight then none
    else
      some
        { session with view := { session.view with actionInFlight := true } }
  | .delete =>
    if session.view.isNormalPlaylistOpen then
      session.press
        { session.view with confirmModal := session.view.deleteConfirm }
    else none
  | .confirm =>
    session.view.confirmModal.map fun modal =>
      let cleared := session.view.clearPlaylistOccurrenceMarks
      if session.view.actionInFlight then
        { session with view := { cleared with confirmModal := none } }
      else
        { view := { cleared with confirmModal := none, actionInFlight := true }
          sent := .playlistRemoveOccurrences modal.playlist modal.items none ::
            session.sent }
  | .cancel =>
    if session.view.confirmModal.isSome then
      some { session with view := { session.view with confirmModal := none } }
    else none
  | .showScreen screen =>
    some { session with view := { session.view with screen := screen } }
  | .steer selected =>
    some { session with view := { session.view with selected := selected } }
  | .filter query =>
    some { session with view := { session.view with listFilterQuery := query } }
  | .applyCatalog catalog =>
    some { session with view := { session.view with catalog := catalog } }
  | .tracksLoaded playlistId playlistName tracks =>
    some
      { session with
        view := session.view.applyPlaylistTracks playlistId playlistName
          tracks }
  | .answered =>
    some { session with view := { session.view with actionInFlight := false } }

def machine : GuardedMachine MarkSession MarkAction where
  step := step

end MarkSession

end Spotuify
