import Spotuify.OperationLog
import Spotuify.ResourceUri

/-!
# Mutating requests

The requests that are recorded in the operations log, the lane each one is
serialized on, and the operation kind a playback command is logged under.
Requests that only read are not part of the model.
-/

namespace Spotuify

inductive RepeatMode where
  | off
  | context
  | track
  deriving DecidableEq, Repr

inductive PlaybackCommand where
  | pause
  | resume
  | toggle
  | next
  | previous
  | playUri (uri : String) (contextUri : Option String)
  | seek (positionMs : Nat)
  | seekRelative (offsetMs : Int)
  | volume (volumePercent : Nat)
  | shuffle (state : Bool)
  | «repeat» (state : RepeatMode)
  deriving DecidableEq, Repr

/-- Occurrences of one URI; an occurrence list is never empty. -/
structure PlaylistItemOccurrenceRef where
  uri : ResourceUri
  positions : List Nat
  positionsNonempty : positions ≠ []
  deriving DecidableEq

inductive Request where
  | playlistAddItems (playlist : String) (uris : List String)
      (provider : Option ProviderId)
  | playlistRemoveItems (playlist : String) (uris : List String)
      (provider : Option ProviderId)
  | playlistRemoveOccurrences (playlist : String)
      (items : List PlaylistItemOccurrenceRef) (provider : Option ProviderId)
  | playlistCreate (name : String) (description : Option String)
      (uris : List String) (provider : Option ProviderId)
  | playlistUnfollow (playlist : String) (provider : Option ProviderId)
  | playlistSetImage (playlist : String) (imageBase64 : String)
      (provider : Option ProviderId)
  | librarySave (uri : Option String) (current : Bool)
  | libraryUnsave (uri : String)
  | artistFollow (artist : String)
  | artistUnfollow (artist : String)
  | deviceTransfer (device : String)
  | playbackCommand (command : PlaybackCommand)
  | queueAdd (uri : String)
  | queueAddMany (uris : List String)
  | radioStart (seedUri : String) (dryRun : Bool)
  | opsUndo (operationId : Option OperationId) (dryRun force : Bool)
      (bulkSinceMs : Option Int)
  | opsRedo (operationId : Option OperationId)
  deriving DecidableEq

/-- The log kind of a playback command. -/
def playbackCommandOperationKind : PlaybackCommand → OperationKind
  | .pause => .pause
  | .resume => .resume
  | .toggle => .toggle
  | .next => .next
  | .previous => .previous
  | .playUri _ _ => .play
  | .seek _ | .seekRelative _ => .seek
  | .volume _ => .volume
  | .shuffle _ => .shuffle
  | .repeat _ => .repeat

@[simp]
theorem playbackCommandOperationKind_isReversible
    (command : PlaybackCommand) :
    (playbackCommandOperationKind command).isReversible = false := by
  cases command <;> rfl

inductive MutationLaneKind where
  | transport
  | playlist
  | library
  | operation
  deriving DecidableEq, Repr

/-- The lane that serializes a request. -/
def mutationLaneKind : Request → Option MutationLaneKind
  | .playbackCommand _ | .deviceTransfer _ | .queueAdd _ | .queueAddMany _ =>
    some .transport
  | .radioStart _ dryRun => if !dryRun then some .transport else none
  | .playlistAddItems .. | .playlistRemoveItems ..
  | .playlistRemoveOccurrences .. | .playlistUnfollow ..
  | .playlistSetImage .. | .playlistCreate .. => some .playlist
  | .librarySave .. | .libraryUnsave _ | .artistFollow _
  | .artistUnfollow _ => some .library
  | .opsUndo .. | .opsRedo _ => some .operation

end Spotuify
