import Spotuify.PageCollectors
import Spotuify.PlaylistGate

/-!
# Playlists that cannot be read

A provider whose playlists can be listed and read may refuse the items of one,
for good or for the time being.  Sync passes and foreground reads follow each
other here, each as one step with all the provider's answers.
-/

namespace Spotuify

open Paging (AccessOutcome AccessUnavailable)

/-- The cached rows of one provider's playlists. -/
abbrev PlaylistRows : Type := String → Option CachedPlaylist

/-- What the provider answers to the reads of a playlist's items. -/
abbrev ItemsAnswer : Type := AccessOutcome (List String)

namespace PlaylistRows

variable (rows : PlaylistRows)

/-- What is stored of a playlist; a missing row reads as a new one. -/
def stored (id : String) : CachedPlaylist := (rows id).getD .inserted

/-- `INSERT … ON CONFLICT` of a playlist, which keeps what is cached. -/
def insertPlaylist (id : String) : PlaylistRows :=
  Function.update rows id (some (rows.stored id))

/-- `UPDATE` of a playlist's row. -/
def updateRow (id : String) (change : CachedPlaylist → CachedPlaylist) :
    PlaylistRows :=
  Function.update rows id ((rows id).map change)

/-- `replace_provider_playlists_bulk`. -/
def replaceListed (listed : List Playlist) : PlaylistRows :=
  fun id =>
    if id ∈ listed.map Playlist.id then some (rows.stored id) else none

/-- A sync pass's fetch of a playlist's items. -/
def fetchItems (playlist : Playlist) : ItemsAnswer → PlaylistRows
  | .available items =>
    rows.updateRow playlist.id fun row =>
      row.persistItems items playlist.versionToken
  | .unavailable .temporarilyUnavailable => rows
  | .unavailable _ =>
    rows.updateRow playlist.id fun row =>
      row.markInaccessible playlist.versionToken

/-- The gate and the fetch of one listed playlist. -/
def syncPlaylist (pass : SyncPass) (answers : String → ItemsAnswer)
    (playlist : Playlist) : PlaylistRows :=
  match pass.decideAccess playlist
      (rows.stored playlist.id).tracksAccessible with
  | .skipInaccessible | .skipUnchanged => rows
  | .refetch => rows.fetchItems playlist (answers playlist.id)
  | .countItems =>
    match pass.decideCount (rows.stored playlist.id).items.length with
    | .refetch => rows.fetchItems playlist (answers playlist.id)
    | _ => rows

/-- The gates and fetches of the listed playlists, one after the other. -/
def syncListed (pass : SyncPass) (answers : String → ItemsAnswer) :
    PlaylistRows → List Playlist → PlaylistRows
  | rows, [] => rows
  | rows, playlist :: remaining =>
    syncListed pass answers (rows.syncPlaylist pass answers playlist) remaining

/-- A whole `sync_playlists`. -/
def syncPlaylists (forceFull : Bool) (listed : List Playlist)
    (answers : String → ItemsAnswer) : PlaylistRows :=
  let pass : SyncPass :=
    { forceFull := forceFull
      listed := listed
      localTokens := fun id => (rows.stored id).snapshotId
      phase := .gating listed }
  syncListed pass answers (rows.replaceListed listed) listed

/-- `resolve_provider_playlist_version`. -/
def observedVersion (reported cached : Option String) : Option String :=
  reported.or cached

/-- A foreground read of the provider, which marks a refused playlist at the
version it observes. -/
def readItems (id : String) (observed : Option String) (answer : ItemsAnswer) :
    PlaylistRows :=
  match answer with
  | .available items =>
    (rows.insertPlaylist id).updateRow id fun row =>
      row.persistItems items none
  | .unavailable _ =>
    (rows.insertPlaylist id).updateRow id fun row =>
      row.markInaccessible observed

/-- A listed playlist with cached items is served without a read. -/
def servesCached (id : String) : Bool :=
  (rows.stored id).tracksAccessible && !(rows.stored id).items.isEmpty

/-- The version a refused foreground read observes. -/
def foregroundVersion (id : String) (waits : Bool)
    (resolved reported : Option String) : Option String :=
  observedVersion reported
    (if waits then resolved else (rows.stored id).snapshotId)

/-- A `PlaylistTracks` request together with the refresh it spawns. -/
def playlistTracks (id : String) (waits : Bool)
    (resolved reported : Option String) (answer : ItemsAnswer) :
    PlaylistRows :=
  if !waits && rows.servesCached id then rows
  else
    rows.readItems id (rows.foregroundVersion id waits resolved reported)
      answer

end PlaylistRows

inductive AccessAction where
  | syncPlaylists (forceFull : Bool) (listed : List Playlist)
      (answers : String → ItemsAnswer)
  | playlistTracks (id : String) (waits : Bool)
      (resolved reported : Option String) (answer : ItemsAnswer)

/-- The row is stored as inaccessible, at the version that a read observes. -/
def CachedPlaylist.IsMarkedAt (row : CachedPlaylist)
    (observed : Option String) : Prop :=
  row.tracksAccessible = false ∧
    ∀ version ∈ observed, row.snapshotId = some version

theorem CachedPlaylist.IsMarkedAt.markInaccessible_eq {row : CachedPlaylist}
    {observed : Option String} (marked : row.IsMarkedAt observed) :
    row.markInaccessible observed = row := by
  obtain ⟨inaccessible, atVersion⟩ := marked
  have sameVersion : observed.or row.snapshotId = row.snapshotId := by
    cases observed with
    | none => rfl
    | some version => exact (atVersion version rfl).symm
  rw [markInaccessible, sameVersion, ← inaccessible]

namespace AccessAction

def apply (rows : PlaylistRows) : AccessAction → PlaylistRows
  | .syncPlaylists forceFull listed answers =>
    rows.syncPlaylists forceFull listed answers
  | .playlistTracks id waits resolved reported answer =>
    rows.playlistTracks id waits resolved reported answer

/-- The action's reads of the playlist are answered with a transient
refusal. -/
def IsTransient : AccessAction → String → Prop
  | .syncPlaylists _ listed answers, id =>
    id ∈ listed.map Playlist.id ∧
      answers id = .unavailable .temporarilyUnavailable
  | .playlistTracks read _ _ _ answer, id =>
    read = id ∧ answer = .unavailable .temporarilyUnavailable

/-- After a transient refusal the stored flag, items and token of the playlist
are what they were. -/
def KeepsTransient (rows : PlaylistRows) (action : AccessAction) : Prop :=
  ∀ id, action.IsTransient id →
    (action.apply rows).stored id = rows.stored id

/-- A foreground read is refused for the time being only where the refusal is
stored already, and a playlist is refused for good only where some version of
it is known. -/
def MarksKnownVersion (rows : PlaylistRows) : AccessAction → Prop
  | .syncPlaylists _ listed answers =>
    ∀ playlist ∈ listed, ∀ reason,
      answers playlist.id = .unavailable reason →
      reason ≠ .temporarilyUnavailable →
        playlist.versionToken.or (rows.stored playlist.id).snapshotId ≠ none
  | .playlistTracks id waits resolved reported answer =>
    ∀ reason, answer = .unavailable reason →
      (!waits && rows.servesCached id) = false →
        (rows.foregroundVersion id waits resolved reported).or
            (rows.stored id).snapshotId ≠ none ∧
          (reason = .temporarilyUnavailable →
            (rows.stored id).IsMarkedAt
              (rows.foregroundVersion id waits resolved reported))

end AccessAction

/-- The next pass fetches each playlist that is listed without a version and
that the provider serves. -/
def PlaylistRows.FetchesVersionless (rows : PlaylistRows) : Prop :=
  ∀ listed answers, ∀ playlist ∈ listed, playlist.versionToken = none →
    ∀ items, answers playlist.id = .available items →
      ((rows.syncPlaylists false listed answers).stored playlist.id).items =
          items ∧
        ((rows.syncPlaylists false listed answers).stored
          playlist.id).tracksAccessible = true

def playlistAccess : GuardedMachine PlaylistRows AccessAction where
  step rows action := some (action.apply rows)

namespace PlaylistRows

variable {rows : PlaylistRows} {id : String}

theorem stored_of_some {row : CachedPlaylist} (cached : rows id = some row) :
    rows.stored id = row := by
  rw [stored, cached, Option.getD_some]

theorem stored_update_of_ne {other : String} (differs : other ≠ id)
    (row : Option CachedPlaylist) :
    stored (Function.update rows id row) other = rows.stored other := by
  rw [stored, stored, Function.update_of_ne differs]

theorem stored_updateRow {change : CachedPlaylist → CachedPlaylist}
    (cached : (rows id).isSome) :
    (rows.updateRow id change).stored id = change (rows.stored id) := by
  obtain ⟨row, isRow⟩ := Option.isSome_iff_exists.mp cached
  rw [stored_of_some isRow, updateRow, stored, Function.update_self, isRow]
  rfl

/-- Inserting a playlist changes nothing that is stored of any. -/
theorem stored_insertPlaylist (other : String) :
    (rows.insertPlaylist id).stored other = rows.stored other := by
  by_cases same : other = id
  · subst same
    rw [insertPlaylist, stored, Function.update_self, Option.getD_some]
  · rw [insertPlaylist, stored_update_of_ne same]

theorem stored_replaceListed (listed : List Playlist)
    (member : id ∈ listed.map Playlist.id) :
    (rows.replaceListed listed).stored id = rows.stored id := by
  rw [stored, replaceListed, if_pos member, Option.getD_some]

/-- What is read from the provider decides how its row changes. -/
theorem fetchItems_cases (playlist : Playlist) (answer : ItemsAnswer) :
    rows.fetchItems playlist answer = rows ∨
      (∃ items, answer = .available items ∧
        rows.fetchItems playlist answer =
          rows.updateRow playlist.id fun row =>
            row.persistItems items playlist.versionToken) ∨
      ∃ reason, answer = .unavailable reason ∧
        reason ≠ .temporarilyUnavailable ∧
        rows.fetchItems playlist answer =
          rows.updateRow playlist.id fun row =>
            row.markInaccessible playlist.versionToken := by
  cases answer with
  | available items => exact .inr (.inl ⟨items, rfl, rfl⟩)
  | unavailable reason =>
    cases reason with
    | temporarilyUnavailable => exact .inl rfl
    | «private» => exact .inr (.inr ⟨_, rfl, by decide, rfl⟩)
    | regionRestricted => exact .inr (.inr ⟨_, rfl, by decide, rfl⟩)
    | subscriptionRequired => exact .inr (.inr ⟨_, rfl, by decide, rfl⟩)

theorem syncPlaylist_cases (pass : SyncPass) (answers : String → ItemsAnswer)
    (playlist : Playlist) :
    rows.syncPlaylist pass answers playlist = rows ∨
      rows.syncPlaylist pass answers playlist =
        rows.fetchItems playlist (answers playlist.id) := by
  rw [syncPlaylist]
  split
  · exact .inl rfl
  · exact .inl rfl
  · exact .inr rfl
  · split
    · exact .inr rfl
    · exact .inl rfl

section

variable {pass : SyncPass} {answers : String → ItemsAnswer}

/-- What each change of a playlist's row keeps, its gate and fetch keep. -/
theorem syncPlaylist_keeps {holds : CachedPlaylist → Prop}
    {playlist : Playlist}
    (persists : playlist.id = id → ∀ items, answers id = .available items →
      ∀ row, holds row → holds (row.persistItems items playlist.versionToken))
    (marks : playlist.id = id → ∀ reason, answers id = .unavailable reason →
      reason ≠ .temporarilyUnavailable → ∀ row, holds row →
        holds (row.markInaccessible playlist.versionToken))
    (start : holds (rows.stored id)) :
    holds ((rows.syncPlaylist pass answers playlist).stored id) := by
  have update : ∀ change : CachedPlaylist → CachedPlaylist,
      (playlist.id = id → ∀ row, holds row → holds (change row)) →
        holds ((rows.updateRow playlist.id change).stored id) := by
    intro change keeps
    by_cases same : playlist.id = id
    · subst same
      cases cached : rows playlist.id with
      | none =>
        rw [updateRow, stored, Function.update_self, cached]
        rw [stored, cached] at start
        exact start
      | some row =>
        rw [stored_updateRow (by rw [cached]; rfl)]
        exact keeps rfl _ start
    · rw [updateRow, stored_update_of_ne (Ne.symm same)]
      exact start
  rcases syncPlaylist_cases pass answers playlist with unchanged | fetched
  · rw [unchanged]
    exact start
  · rw [fetched]
    rcases fetchItems_cases playlist (answers playlist.id) with
      unchanged | ⟨items, answer, persisted⟩ |
        ⟨reason, answer, permanent, marked⟩
    · rw [unchanged]
      exact start
    · rw [persisted]
      apply update
      rintro rfl
      exact persists rfl items answer
    · rw [marked]
      apply update
      rintro rfl
      exact marks rfl reason answer permanent

theorem syncListed_keeps {holds : CachedPlaylist → Prop}
    {listed : List Playlist}
    (persists : ∀ playlist ∈ listed, playlist.id = id →
      ∀ items, answers id = .available items → ∀ row, holds row →
        holds (row.persistItems items playlist.versionToken))
    (marks : ∀ playlist ∈ listed, playlist.id = id →
      ∀ reason, answers id = .unavailable reason →
        reason ≠ .temporarilyUnavailable → ∀ row, holds row →
          holds (row.markInaccessible playlist.versionToken))
    (start : holds (rows.stored id)) :
    holds ((syncListed pass answers rows listed).stored id) := by
  induction listed generalizing rows with
  | nil => exact start
  | cons playlist remaining ih =>
    rw [syncListed]
    apply ih
    · exact fun later member => persists later (List.mem_cons_of_mem _ member)
    · exact fun later member => marks later (List.mem_cons_of_mem _ member)
    · exact syncPlaylist_keeps (persists playlist List.mem_cons_self)
        (marks playlist List.mem_cons_self) start

theorem syncListed_append (first second : List Playlist) :
    syncListed pass answers rows (first ++ second) =
      syncListed pass answers (syncListed pass answers rows first) second := by
  induction first generalizing rows with
  | nil => rfl
  | cons playlist remaining ih => exact ih

theorem isSome_updateRow (other : String)
    (change : CachedPlaylist → CachedPlaylist) :
    (rows.updateRow id change other).isSome = (rows other).isSome := by
  rw [updateRow]
  by_cases same : other = id
  · subst same
    rw [Function.update_self, Option.isSome_map]
  · rw [Function.update_of_ne same]

theorem isSome_syncListed (listed : List Playlist) :
    (syncListed pass answers rows listed id).isSome = (rows id).isSome := by
  induction listed generalizing rows with
  | nil => rfl
  | cons playlist remaining ih =>
    rw [syncListed, ih]
    rcases syncPlaylist_cases pass answers playlist with unchanged | fetched
    · rw [unchanged]
    · rw [fetched]
      rcases fetchItems_cases playlist (answers playlist.id) with
        unchanged | ⟨_, _, persisted⟩ | ⟨_, _, _, marked⟩
      · rw [unchanged]
      · rw [persisted, isSome_updateRow]
      · rw [marked, isSome_updateRow]

end

/-- A playlist that is refused is refused at some version. -/
def RefusesVersions (rows : PlaylistRows) : Prop :=
  ∀ id, (rows.stored id).tracksAccessible = false →
    (rows.stored id).snapshotId ≠ none

/-- A playlist without a version that is not refused is fetched. -/
theorem syncPlaylist_of_versionless {answers : String → ItemsAnswer}
    {pass : SyncPass} {playlist : Playlist} {items : List String}
    (unforced : pass.forceFull = false)
    (versionless : playlist.versionToken = none)
    (answer : answers playlist.id = .available items)
    (cached : (rows playlist.id).isSome)
    (refused : (rows.stored playlist.id).tracksAccessible = false →
      pass.localTokens playlist.id ≠ none) :
    (rows.syncPlaylist pass answers playlist).stored playlist.id =
      (rows.stored playlist.id).persistItems items none := by
  have changed : pass.versionChanged playlist = true := by
    rw [SyncPass.versionChanged, versionless]
    cases pass.localTokens playlist.id <;> rfl
  have refetch : pass.decideAccess playlist
      (rows.stored playlist.id).tracksAccessible = .refetch := by
    rw [SyncPass.decideAccess, unforced, changed, versionless]
    cases accessible : (rows.stored playlist.id).tracksAccessible with
    | true => rfl
    | false =>
      have known := refused accessible
      cases version : pass.localTokens playlist.id with
      | none => exact absurd version known
      | some token => rfl
  rw [syncPlaylist, refetch]
  simp only [answer, fetchItems, versionless]
  exact stored_updateRow cached

/-- As long as refusals are at versions, what has none is fetched when it is
served. -/
theorem RefusesVersions.fetchesVersionless (refuses : rows.RefusesVersions) :
    rows.FetchesVersionless := by
  intro listed answers playlist member versionless items answer
  obtain ⟨before, after, rfl⟩ := List.append_of_mem member
  let Served (row : CachedPlaylist) : Prop :=
    row.items = items ∧ row.tracksAccessible = true
  have servedPersists : ∀ (token : Option String) (other : List String),
      answers playlist.id = .available other → ∀ row : CachedPlaylist,
        Served (row.persistItems other token) := by
    intro token other otherAnswer row
    rw [answer] at otherAnswer
    cases otherAnswer
    exact ⟨rfl, rfl⟩
  have neverMarked : ∀ reason,
      answers playlist.id ≠ .unavailable reason := by
    intro reason refused
    rw [answer] at refused
    cases refused
  let pass : SyncPass :=
    { forceFull := false
      listed := before ++ playlist :: after
      localTokens := fun id => (rows.stored id).snapshotId
      phase := .gating (before ++ playlist :: after) }
  let replaced := rows.replaceListed (before ++ playlist :: after)
  have isListed : playlist.id ∈
      (before ++ playlist :: after).map Playlist.id :=
    List.mem_map_of_mem member
  have beforeKeeps : (syncListed pass answers replaced before).stored
        playlist.id = rows.stored playlist.id ∨
      Served ((syncListed pass answers replaced before).stored
        playlist.id) := by
    apply @syncListed_keeps replaced playlist.id pass answers
      (fun row => row = rows.stored playlist.id ∨ Served row)
    · intro other _ _ otherItems otherAnswer row _
      exact .inr (servedPersists other.versionToken otherItems otherAnswer row)
    · intro _ _ _ reason refused
      exact absurd refused (neverMarked reason)
    · exact .inl (stored_replaceListed _ isListed)
  have cached : (syncListed pass answers replaced before
      playlist.id).isSome := by
    rw [isSome_syncListed]
    simp only [replaced, replaceListed, if_pos isListed, Option.isSome_some]
  have refused : ((syncListed pass answers replaced before).stored
      playlist.id).tracksAccessible = false →
        pass.localTokens playlist.id ≠ none := by
    intro inaccessible
    rcases beforeKeeps with unchanged | served
    · rw [unchanged] at inaccessible
      exact refuses playlist.id inaccessible
    · rw [served.2] at inaccessible
      cases inaccessible
  change Served ((syncListed pass answers replaced
    (before ++ playlist :: after)).stored playlist.id)
  rw [syncListed_append, syncListed]
  apply syncListed_keeps
  · intro other _ _ otherItems otherAnswer row _
    exact servedPersists other.versionToken otherItems otherAnswer row
  · intro _ _ _ reason refusal
    exact absurd refusal (neverMarked reason)
  · rw [syncPlaylist_of_versionless rfl versionless answer cached refused]
    exact ⟨rfl, rfl⟩

end PlaylistRows

namespace AccessAction

variable {rows : PlaylistRows} {action : AccessAction}

/-- A transient refusal is stored by no sync pass, and by a foreground read
only where it is stored already. -/
theorem MarksKnownVersion.keepsTransient
    (known : action.MarksKnownVersion rows) : action.KeepsTransient rows := by
  intro id transient
  cases action with
  | syncPlaylists forceFull listed answers =>
    obtain ⟨isListed, refused⟩ := transient
    apply @PlaylistRows.syncListed_keeps _ id _ answers
      (fun row => row = rows.stored id)
    · intro _ _ _ items answer
      rw [refused] at answer
      cases answer
    · intro _ _ _ reason answer permanent
      rw [refused] at answer
      cases answer
      exact absurd rfl permanent
    · exact PlaylistRows.stored_replaceListed listed isListed
  | playlistTracks read waits resolved reported answer =>
    obtain ⟨rfl, rfl⟩ := transient
    rw [apply, PlaylistRows.playlistTracks]
    cases served : !waits && rows.servesCached read with
    | true => rfl
    | false =>
      have marked := (known _ rfl served).2 rfl
      simp only [Bool.false_eq_true, if_false, PlaylistRows.readItems]
      rw [PlaylistRows.stored_updateRow, PlaylistRows.stored_insertPlaylist]
      · exact marked.markInaccessible_eq
      · rw [PlaylistRows.insertPlaylist, Function.update_self]
        rfl

theorem refusesVersions_readItems {read : String} {observed : Option String}
    {answer : ItemsAnswer} (refuses : rows.RefusesVersions)
    (known : ∀ reason, answer = .unavailable reason →
      observed.or (rows.stored read).snapshotId ≠ none) :
    (rows.readItems read observed answer).RefusesVersions := by
  have cached : (rows.insertPlaylist read read).isSome := by
    rw [PlaylistRows.insertPlaylist, Function.update_self]
    rfl
  intro id
  by_cases same : id = read
  · subst same
    cases answer with
    | available items =>
      rw [PlaylistRows.readItems, PlaylistRows.stored_updateRow cached]
      rintro ⟨⟩
    | unavailable reason =>
      rw [PlaylistRows.readItems, PlaylistRows.stored_updateRow cached,
        PlaylistRows.stored_insertPlaylist]
      exact fun _ => known reason rfl
  · have unchanged : (rows.readItems read observed answer).stored id =
        rows.stored id := by
      cases answer with
      | available items =>
        rw [PlaylistRows.readItems, PlaylistRows.updateRow,
          PlaylistRows.stored_update_of_ne same,
          PlaylistRows.stored_insertPlaylist]
      | unavailable reason =>
        rw [PlaylistRows.readItems, PlaylistRows.updateRow,
          PlaylistRows.stored_update_of_ne same,
          PlaylistRows.stored_insertPlaylist]
    rw [unchanged]
    exact refuses id

theorem or_ne_none {token version : Option String}
    (known : version ≠ none) : token.or version ≠ none := by
  cases token with
  | none => exact known
  | some token => exact Option.some_ne_none token

theorem or_ne_none_of_imp {token first second : Option String}
    (imp : first ≠ none → second ≠ none) (known : token.or first ≠ none) :
    token.or second ≠ none := by
  cases token with
  | none => exact imp known
  | some token => exact Option.some_ne_none token

/-- Refusals stay at versions when only known versions are marked. -/
theorem MarksKnownVersion.refusesVersions
    (known : action.MarksKnownVersion rows)
    (refuses : rows.RefusesVersions) :
    (action.apply rows).RefusesVersions := by
  cases action with
  | syncPlaylists forceFull listed answers =>
    intro id
    by_cases isListed : id ∈ listed.map Playlist.id
    · have kept := @PlaylistRows.syncListed_keeps
        (rows.replaceListed listed) id
        { forceFull := forceFull
          listed := listed
          localTokens := fun id => (rows.stored id).snapshotId
          phase := .gating listed }
        answers
        (fun row => (row.tracksAccessible = false → row.snapshotId ≠ none) ∧
          ((rows.stored id).snapshotId ≠ none → row.snapshotId ≠ none))
        listed
      refine (kept ?_ ?_ ?_).1
      · rintro playlist - - items - row ⟨-, keepsVersion⟩
        refine ⟨nofun, fun hadVersion => ?_⟩
        exact or_ne_none (keepsVersion hadVersion)
      · rintro playlist member rfl reason answer permanent row
          ⟨-, keepsVersion⟩
        have marked := known playlist member reason answer permanent
        have someVersion : (row.markInaccessible
            playlist.versionToken).snapshotId ≠ none :=
          or_ne_none_of_imp keepsVersion marked
        exact ⟨fun _ => someVersion, fun _ => someVersion⟩
      · rw [PlaylistRows.stored_replaceListed listed isListed]
        exact ⟨refuses id, fun hadVersion => hadVersion⟩
    · have noRow : (rows.replaceListed listed).stored id = .inserted := by
        rw [PlaylistRows.stored, PlaylistRows.replaceListed, if_neg isListed]
        rfl
      apply @PlaylistRows.syncListed_keeps (rows.replaceListed listed) id _
        answers (fun row => row.tracksAccessible = false →
          row.snapshotId ≠ none)
      · rintro playlist member rfl
        exact absurd (List.mem_map_of_mem member) isListed
      · rintro playlist member rfl
        exact absurd (List.mem_map_of_mem member) isListed
      · rw [noRow]
        rintro ⟨⟩
  | playlistTracks read waits resolved reported answer =>
    rw [apply, PlaylistRows.playlistTracks]
    cases served : !waits && rows.servesCached read with
    | true => exact refuses
    | false =>
      exact refusesVersions_readItems refuses fun reason refused =>
        (known reason refused served).1

end AccessAction

/-- In a run that marks known versions only, no transient refusal is stored
and what has no version is fetched again. -/
theorem transientRefusals_not_latched {start final : PlaylistRows}
    {actions : List AccessAction}
    (nothingRefused : ∀ id, (start.stored id).tracksAccessible = true)
    (known : playlistAccess.StepsMeet
      (fun rows action => action.MarksKnownVersion rows) start actions)
    (runs : playlistAccess.run start actions = some final) :
    playlistAccess.StepsMeet
        (fun rows action => action.KeepsTransient rows) start actions ∧
      final.FetchesVersionless := by
  constructor
  · exact known.mono _ fun rows action marks => marks.keepsTransient
  · have initially : start.RefusesVersions := by
      intro id inaccessible
      rw [nothingRefused id] at inaccessible
      cases inaccessible
    have preserved : ∀ rows action next, rows.RefusesVersions →
        AccessAction.MarksKnownVersion rows action →
        playlistAccess.step rows action = some next →
          next.RefusesVersions := by
      rintro rows action _ refuses marks ⟨⟩
      exact marks.refusesVersions refuses
    have refuses := playlistAccess.run_preserves_of_stepsMeet preserved
      initially known runs
    exact refuses.fetchesVersionless

def noRows : PlaylistRows := fun _ => none

/-- A playlist that is refused for the time being by a pass, then served, then
refused for good at a version. -/
def refusedPasses : List AccessAction :=
  [.syncPlaylists false [⟨"fake:playlist:mix", none, 1⟩]
      (fun _ => .unavailable .temporarilyUnavailable),
    .playlistTracks "fake:playlist:mix" true none none (.available ["a"]),
    .syncPlaylists false [⟨"fake:playlist:mix", some "v", 1⟩]
      (fun _ => .unavailable .private)]

theorem refusedPasses_not_latched :
    ∃ final, playlistAccess.run noRows refusedPasses = some final ∧
      playlistAccess.StepsMeet
        (fun rows action => action.KeepsTransient rows) noRows refusedPasses ∧
      final.FetchesVersionless := by
  refine ⟨_, rfl, transientRefusals_not_latched ?_ ?_ rfl⟩
  · exact fun _ => rfl
  · simp [refusedPasses, GuardedMachine.StepsMeet,
      AccessAction.MarksKnownVersion, playlistAccess]

/-- A foreground read stores a transient refusal, after which passes skip the
playlist although it is served. -/
theorem foregroundRefusal_latched :
    ∃ final, playlistAccess.run noRows
        [.playlistTracks "fake:playlist:mix" true none none
          (.unavailable .temporarilyUnavailable)] = some final ∧
      (final.stored "fake:playlist:mix").tracksAccessible = false ∧
      ¬final.FetchesVersionless := by
  refine ⟨_, rfl, rfl, fun fetches => ?_⟩
  have served := (fetches [⟨"fake:playlist:mix", none, 1⟩]
    (fun _ => .available ["a"]) _ List.mem_cons_self rfl ["a"] rfl).1
  revert served
  decide

end Spotuify
