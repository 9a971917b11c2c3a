import Spotuify.DaemonEvents

/-!
# What the wire keeps of an event

A relay reads events and writes them again.  It hands on every frame it does
not know, except that an unknown event whose frame is `null` is written as if
it had been made without a frame.  An event it knows is read back from what it
writes exactly if its texts, gains and numbers are among those the wire keeps
apart.
-/

namespace Spotuify.Wire.DaemonEvent

open JsonCodec JsonField

variable {Uuid : Type} {uuids : UuidText Uuid}

instance : uuids.codec.NonNull := ⟨fun _ => Json.noConfusion⟩

instance : uuids.codec.Lossless := ⟨uuids.parseStr_hyphenated⟩

variable (uuids) in
theorem separate : JsonVariant.Separate "event" (Variant.all uuids) where
  labels := of_decide_eq_true rfl
  names := by
    have separate : (Variant.all uuids).all (fun variant =>
        decide ("event" :: variant.body.names).Nodup) = true := rfl
    intro variant member
    exact of_decide_eq_true (List.all_eq_true.mp separate variant member)

theorem deserialize_frame_iff {variant : JsonVariant (DaemonEvent Uuid)}
    {parts : variant.Parts} (member : variant ∈ Variant.all uuids)
    (known : (variant.build parts).isUnknown = false)
    (injective : Function.Injective variant.build) :
    deserialize uuids (frame Uuid variant parts) = variant.build parts ↔
      variant.body.Holds parts := by
  rw [← JsonVariant.decode_encode_iff (separate uuids) member injective]
  simp only [deserialize, frame]
  cases JsonVariant.decode "event" (Variant.all uuids)
      (variant.encode "event" parts) with
  | some event => exact Option.some_inj.symm
  | none =>
    refine iff_of_false ?_ ?_
    · intro same
      rw [← same] at known
      cases known
    · rintro ⟨⟩

theorem deserialize_frame {variant : JsonVariant (DaemonEvent Uuid)}
    {parts : variant.Parts} (member : variant ∈ Variant.all uuids)
    (holds : variant.body.Holds parts) :
    deserialize uuids (frame Uuid variant parts) = variant.build parts := by
  have decoded := JsonVariant.decode_encode (separate uuids) member holds
  simp only [deserialize, frame, decoded]

theorem deserialize_playbackChanged_iff
    {action playback} :
    deserialize uuids (serialize uuids
        (.playbackChanged action playback)) =
      .playbackChanged action playback ↔
      Faithful (.playbackChanged action playback :
        DaemonEvent Uuid) := by
  refine (deserialize_frame_iff (by simp [Variant.all]) rfl ?_).trans ?_
  · rintro ⟨_, _, ⟨⟩⟩ ⟨_, _, ⟨⟩⟩ ⟨⟩
    rfl
  · simp [Faithful, Variant.playbackChanged, JsonBody.Holds]

theorem deserialize_queueChanged_iff
    {action uris queue} :
    deserialize uuids (serialize uuids
        (.queueChanged action uris queue)) =
      .queueChanged action uris queue ↔
      Faithful (.queueChanged action uris queue :
        DaemonEvent Uuid) := by
  refine (deserialize_frame_iff (by simp [Variant.all]) rfl ?_).trans ?_
  · rintro ⟨_, _, _, ⟨⟩⟩ ⟨_, _, _, ⟨⟩⟩ ⟨⟩
    rfl
  · simp [Faithful, Variant.queueChanged, JsonBody.Holds]

theorem deserialize_searchPage_iff
    {query kind offset version items provider} :
    deserialize uuids (serialize uuids
        (.searchPage query kind offset version items provider)) =
      .searchPage query kind offset version items provider ↔
      Faithful (.searchPage query kind offset version items provider :
        DaemonEvent Uuid) := by
  refine (deserialize_frame_iff (by simp [Variant.all]) rfl ?_).trans ?_
  · rintro ⟨_, _, _, _, _, _, ⟨⟩⟩ ⟨_, _, _, _, _, _, ⟨⟩⟩ ⟨⟩
    rfl
  · simp [Faithful, Variant.searchPage, JsonBody.Holds]

theorem deserialize_spectrumFrame_iff
    {bands peak timestampMs waveform} :
    deserialize uuids (serialize uuids
        (.spectrumFrame bands peak timestampMs waveform)) =
      .spectrumFrame bands peak timestampMs waveform ↔
      Faithful (.spectrumFrame bands peak timestampMs waveform :
        DaemonEvent Uuid) := by
  refine (deserialize_frame_iff (by simp [Variant.all]) rfl ?_).trans ?_
  · rintro ⟨_, _, _, _, ⟨⟩⟩ ⟨_, _, _, _, ⟨⟩⟩ ⟨⟩
    rfl
  · simp [Faithful, Variant.spectrumFrame, JsonBody.Holds]

theorem deserialize_eqChanged_iff
    {settings applied} :
    deserialize uuids (serialize uuids
        (.eqChanged settings applied)) =
      .eqChanged settings applied ↔
      Faithful (.eqChanged settings applied :
        DaemonEvent Uuid) := by
  refine (deserialize_frame_iff (by simp [Variant.all]) rfl ?_).trans ?_
  · rintro ⟨_, _, ⟨⟩⟩ ⟨_, _, ⟨⟩⟩ ⟨⟩
    rfl
  · simp [Faithful, Variant.eqChanged, JsonBody.Holds]

theorem deserialize_serialize_iff {event : DaemonEvent Uuid}
    (known : event.isUnknown = false) :
    deserialize uuids (serialize uuids event) = event ↔ event.Faithful := by
  cases event with
  | unknown event reason raw => cases known
  | shutdownRequested =>
    refine iff_of_true (deserialize_frame (by simp [Variant.all]) ?_) trivial
    simp [Variant.shutdownRequested, JsonBody.Holds]
  | playbackChanged action playback =>
    exact deserialize_playbackChanged_iff
  | queueChanged action uris queue =>
    exact deserialize_queueChanged_iff
  | devicesChanged action devices =>
    refine iff_of_true (deserialize_frame (by simp [Variant.all]) ?_) trivial
    simp [Variant.devicesChanged, JsonBody.Holds]
  | playlistsChanged action playlist provider =>
    refine iff_of_true (deserialize_frame (by simp [Variant.all]) ?_) trivial
    simp [Variant.playlistsChanged, JsonBody.Holds]
  | libraryChanged action uris provider =>
    refine iff_of_true (deserialize_frame (by simp [Variant.all]) ?_) trivial
    simp [Variant.libraryChanged, JsonBody.Holds]
  | searchUpdated query count provider =>
    refine iff_of_true (deserialize_frame (by simp [Variant.all]) ?_) trivial
    simp [Variant.searchUpdated, JsonBody.Holds]
  | searchPage query kind offset version items provider =>
    exact deserialize_searchPage_iff
  | searchComplete query version provider =>
    refine iff_of_true (deserialize_frame (by simp [Variant.all]) ?_) trivial
    simp [Variant.searchComplete, JsonBody.Holds]
  | searchFailed query version kind offset message provider =>
    refine iff_of_true (deserialize_frame (by simp [Variant.all]) ?_) trivial
    simp [Variant.searchFailed, JsonBody.Holds]
  | eventStreamLagged skipped =>
    refine iff_of_true (deserialize_frame (by simp [Variant.all]) ?_) trivial
    simp [Variant.eventStreamLagged, JsonBody.Holds]
  | syncStarted target provider =>
    refine iff_of_true (deserialize_frame (by simp [Variant.all]) ?_) trivial
    simp [Variant.syncStarted, JsonBody.Holds]
  | syncFinished summary =>
    refine iff_of_true (deserialize_frame (by simp [Variant.all]) ?_) trivial
    simp [Variant.syncFinished, JsonBody.Holds]
  | mutationFinished action message =>
    refine iff_of_true (deserialize_frame (by simp [Variant.all]) ?_) trivial
    simp [Variant.mutationFinished, JsonBody.Holds]
  | rateLimited retryAfterSecs scope provider =>
    refine iff_of_true (deserialize_frame (by simp [Variant.all]) ?_) trivial
    simp [Variant.rateLimited, JsonBody.Holds]
  | authError kind provider =>
    refine iff_of_true (deserialize_frame (by simp [Variant.all]) ?_) trivial
    simp [Variant.authError, JsonBody.Holds]
  | mutationAccepted receiptId action =>
    refine iff_of_true (deserialize_frame (by simp [Variant.all]) ?_) trivial
    simp [Variant.mutationAccepted, JsonBody.Holds]
  | mutationFinalized receiptId status message =>
    refine iff_of_true (deserialize_frame (by simp [Variant.all]) ?_) trivial
    simp [Variant.mutationFinalized, JsonBody.Holds]
  | schemaCompat endpoint missingKeys =>
    refine iff_of_true (deserialize_frame (by simp [Variant.all]) ?_) trivial
    simp [Variant.schemaCompat, JsonBody.Holds]
  | playerReady deviceId name =>
    refine iff_of_true (deserialize_frame (by simp [Variant.all]) ?_) trivial
    simp [Variant.playerReady, JsonBody.Holds]
  | playerDegraded reason =>
    refine iff_of_true (deserialize_frame (by simp [Variant.all]) ?_) trivial
    simp [Variant.playerDegraded, JsonBody.Holds]
  | providerPolicy provider reason =>
    refine iff_of_true (deserialize_frame (by simp [Variant.all]) ?_) trivial
    simp [Variant.providerPolicy, JsonBody.Holds]
  | providerPolicyCleared provider reason =>
    refine iff_of_true (deserialize_frame (by simp [Variant.all]) ?_) trivial
    simp [Variant.providerPolicyCleared, JsonBody.Holds]
  | premiumRequired =>
    refine iff_of_true (deserialize_frame (by simp [Variant.all]) ?_) trivial
    simp [Variant.premiumRequired, JsonBody.Holds]
  | sessionDisconnected reason =>
    refine iff_of_true (deserialize_frame (by simp [Variant.all]) ?_) trivial
    simp [Variant.sessionDisconnected, JsonBody.Holds]
  | playerFailed reason restarts =>
    refine iff_of_true (deserialize_frame (by simp [Variant.all]) ?_) trivial
    simp [Variant.playerFailed, JsonBody.Holds]
  | listenQualified trackUri durationMs audibleMs startedAtMs trackName
      artistName albumName artistUri albumUri =>
    refine iff_of_true (deserialize_frame (by simp [Variant.all]) ?_) trivial
    simp [Variant.listenQualified, JsonBody.Holds]
  | analyticsImportProgress runId provider username phase fetched stored
      resolved promoted unresolved message =>
    refine iff_of_true (deserialize_frame (by simp [Variant.all]) ?_) trivial
    simp [Variant.analyticsImportProgress, JsonBody.Holds]
  | operationRecorded operationId kind source =>
    refine iff_of_true (deserialize_frame (by simp [Variant.all]) ?_) trivial
    simp [Variant.operationRecorded, JsonBody.Holds]
  | operationUndone undoOpId originalOpId success =>
    refine iff_of_true (deserialize_frame (by simp [Variant.all]) ?_) trivial
    simp [Variant.operationUndone, JsonBody.Holds]
  | configReloaded =>
    refine iff_of_true (deserialize_frame (by simp [Variant.all]) ?_) trivial
    simp [Variant.configReloaded, JsonBody.Holds]
  | clientPreferencesChanged preferences =>
    refine iff_of_true (deserialize_frame (by simp [Variant.all]) ?_) trivial
    simp [Variant.clientPreferencesChanged, JsonBody.Holds]
  | spectrumFrame bands peak timestampMs waveform =>
    exact deserialize_spectrumFrame_iff
  | vizSourceChanged active configured hint backendKind =>
    refine iff_of_true (deserialize_frame (by simp [Variant.all]) ?_) trivial
    simp [Variant.vizSourceChanged, JsonBody.Holds]
  | reminderDue notification =>
    refine iff_of_true (deserialize_frame (by simp [Variant.all]) ?_) trivial
    simp [Variant.reminderDue, JsonBody.Holds]
  | remindersChanged action =>
    refine iff_of_true (deserialize_frame (by simp [Variant.all]) ?_) trivial
    simp [Variant.remindersChanged, JsonBody.Holds]
  | bookmarksChanged action =>
    refine iff_of_true (deserialize_frame (by simp [Variant.all]) ?_) trivial
    simp [Variant.bookmarksChanged, JsonBody.Holds]
  | eqChanged settings applied =>
    exact deserialize_eqChanged_iff
  | updateAvailable latestVersion releaseUrl upgrade =>
    refine iff_of_true (deserialize_frame (by simp [Variant.all]) ?_) trivial
    simp [Variant.updateAvailable, JsonBody.Holds]
  | authMigrationRecommended canLoginDevApp =>
    refine iff_of_true (deserialize_frame (by simp [Variant.all]) ?_) trivial
    simp [Variant.authMigrationRecommended, JsonBody.Holds]

variable {raw kept : Json} {event : String} {reason : UnknownReason}

variable (uuids) in
theorem isUnknown_build :
    ∀ variant ∈ Variant.all uuids, ∀ parts,
      (variant.build parts).isUnknown = false := by
  simp only [Variant.all, List.forall_mem_cons]
  and_intros
  all_goals first
    | exact fun _ => rfl
    | exact fun _ member => absurd member List.not_mem_nil

/-- What an unknown event was read from. -/
theorem deserialize_eq_unknown
    (unknown : deserialize uuids raw = .unknown event reason kept) :
    kept = raw ∧
      event = ((raw.get? "event").bind Json.asString?).getD "" ∧
      reason = if event ∈ allKindLabels then .undecodableKnownTag
        else .unknownTag := by
  simp only [deserialize] at unknown
  cases decoded : JsonVariant.decode "event" (Variant.all uuids) raw with
  | none =>
    rw [decoded] at unknown
    cases unknown
    exact ⟨rfl, rfl, rfl⟩
  | some read =>
    rw [decoded] at unknown
    obtain ⟨variant, member, parts, rfl⟩ :=
      JsonVariant.exists_of_decode decoded
    have known := isUnknown_build uuids variant member parts
    rw [show variant.build parts = _ from unknown] at known
    cases known

/-- An unknown event is written as the frame it was read from, unless that
was `null`. -/
theorem serialize_unknown_iff :
    serialize uuids (.unknown event reason raw) = raw ↔ raw ≠ .null := by
  cases raw with
  | null =>
    refine iff_of_false ?_ (absurd rfl)
    rintro ⟨⟩
  | _ =>
    refine iff_of_true rfl ?_
    rintro ⟨⟩

/-- The codec and the roster know the same tags. -/
theorem label_mem_allKindLabels :
    ∀ label ∈ (Variant.all uuids).map JsonVariant.label,
      label ∈ allKindLabels := by
  have known : ((Variant.all uuids).map JsonVariant.label).all
      (fun label => decide (label ∈ allKindLabels)) = true := rfl
  intro label member
  exact of_decide_eq_true (List.all_eq_true.mp known label member)

theorem undecodableKnownTag_iff
    (unknown : deserialize uuids raw = .unknown event reason kept) :
    reason = .undecodableKnownTag ↔
      ∃ label ∈ allKindLabels,
        (raw.get? "event").bind Json.asString? = some label := by
  obtain ⟨-, rfl, rfl⟩ := deserialize_eq_unknown unknown
  cases (raw.get? "event").bind Json.asString? with
  | none => simp [allKindLabels]
  | some label => by_cases known : label ∈ allKindLabels <;> simp [known]

theorem serialize_deserialize_of_unknownTag {label : String}
    (tagged : raw.get? "event" = some (.string label))
    (newer : label ∉ allKindLabels) :
    serialize uuids (deserialize uuids raw) = raw := by
  have undecoded := JsonVariant.decode_eq_none tagged
    fun known => newer (@label_mem_allKindLabels _ uuids label known)
  have notNull : raw ≠ .null := by
    rintro rfl
    cases tagged
  simp only [deserialize, undecoded]
  exact serialize_unknown_iff.mpr notNull

/-- An unknown event is written as its frame exactly if the frame is not
`null`, its reason tells whether its tag is known, the known events that are
read back are the faithful ones, and a frame under a newer tag is handed on as
it is. -/
theorem relay_faithful (uuids : UuidText Uuid) :
    (∀ raw event reason kept,
      deserialize uuids raw = .unknown event reason kept →
        (serialize uuids (deserialize uuids raw) = raw ↔ raw ≠ .null) ∧
          (reason = .undecodableKnownTag ↔
            ∃ label ∈ allKindLabels,
              (raw.get? "event").bind Json.asString? = some label)) ∧
      (∀ event : DaemonEvent Uuid, event.isUnknown = false →
        (deserialize uuids (serialize uuids event) = event ↔
          event.Faithful)) ∧
      ∀ raw label, raw.get? "event" = some (.string label) →
        label ∉ allKindLabels →
          serialize uuids (deserialize uuids raw) = raw := by
  refine ⟨?_, fun event => deserialize_serialize_iff,
    fun raw label => serialize_deserialize_of_unknownTag⟩
  intro raw event reason kept unknown
  obtain ⟨same, -, -⟩ := deserialize_eq_unknown unknown
  refine ⟨?_, undecodableKnownTag_iff unknown⟩
  rw [unknown, same]
  exact serialize_unknown_iff

/-- Whether a text is an identifier as it is written. -/
def isHyphenated (text : String) : Bool :=
  text.toList.length == 36 && text.toList.zipIdx.all fun (char, index) =>
    if index ∈ [8, 13, 18, 23] then char == '-'
    else char.isDigit || ('a' ≤ char && char ≤ 'f')

/-- Identifiers given by the texts they are written as. -/
def hyphenatedUuids : UuidText { text // isHyphenated text = true } where
  hyphenated := Subtype.val
  parseStr text :=
    if written : isHyphenated text = true then some ⟨text, written⟩ else none
  parseStr_hyphenated id := dif_pos id.2

theorem newerFrame_relayed :
    serialize hyphenatedUuids (deserialize hyphenatedUuids
        (.object [("event", .string "from-the-future"), ("x", .integer 1)])) =
      .object [("event", .string "from-the-future"), ("x", .integer 1)] ∧
    deserialize hyphenatedUuids (serialize hyphenatedUuids (.mutationAccepted
        ⟨"01890a5d-ac96-774b-bcce-b302099a8057", by decide⟩ "like")) =
      .mutationAccepted ⟨"01890a5d-ac96-774b-bcce-b302099a8057", by decide⟩
        "like" ∧
    serialize hyphenatedUuids (deserialize hyphenatedUuids
      (.string "ping")) = .string "ping" :=
  ⟨(relay_faithful hyphenatedUuids).2.2 _ _ rfl (by decide),
    ((relay_faithful hyphenatedUuids).2.1 _ rfl).mpr trivial,
    ((relay_faithful hyphenatedUuids).1 (.string "ping") "" .unknownTag _
      rfl).1.mpr Json.noConfusion⟩

/-- The frame `null` is written as an event with an empty tag. -/
theorem nullFrame_rewritten :
    ¬ ∀ raw event reason kept,
      deserialize hyphenatedUuids raw = .unknown event reason kept →
        serialize hyphenatedUuids (deserialize hyphenatedUuids raw) = raw := by
  intro keeps
  have kept := keeps .null "" .unknownTag .null rfl
  cases kept

end Spotuify.Wire.DaemonEvent
