import Spotuify.ListenSessions
import Spotuify.ProviderRouting
import Mathlib.Data.List.Perm.Subperm

/-!
# What the registry accepts and where it routes

A registry is accepted exactly when ids and schemes are distinct, the default
is registered and no other provider brings a player, in whatever order the
runtimes come.  A target is routed exactly when one provider claims it and no
other provider has anything to say about it.
-/

namespace Spotuify

variable {Caps : Type}

namespace ProviderTables

variable {tables registered : ProviderTables Caps}

/-- Ids and schemes that are distinct and not taken. -/
structure Free (tables : ProviderTables Caps)
    (runtimes : List (ProviderRuntime Caps)) : Prop where
  ids : (runtimes.map ProviderRuntime.id).Nodup
  schemes : (runtimes.map ProviderRuntime.uriScheme).Nodup
  idsFree : ∀ runtime ∈ runtimes, tables.providers.get? runtime.id = none
  schemesFree : ∀ runtime ∈ runtimes,
    tables.schemes.get? runtime.uriScheme = none

theorem register_eq_ok {runtime : ProviderRuntime Caps} :
    tables.register runtime = .ok registered ↔
      ∃ freeId freeScheme,
        registered = tables.insert runtime freeId freeScheme := by
  unfold register
  by_cases freeId : tables.providers.get? runtime.id = none
  · by_cases freeScheme : tables.schemes.get? runtime.uriScheme = none
    · rw [dif_pos freeId, dif_pos freeScheme]
      simp [freeId, freeScheme, eq_comm]
    · rw [dif_pos freeId, dif_neg freeScheme]
      simp [freeScheme]
  · rw [dif_neg freeId]
    simp [freeId]

/-- One more runtime is free exactly before the others are. -/
theorem free_cons {runtime : ProviderRuntime Caps}
    {rest : List (ProviderRuntime Caps)}
    (freeId : tables.providers.get? runtime.id = none)
    (freeScheme : tables.schemes.get? runtime.uriScheme = none) :
    tables.Free (runtime :: rest) ↔
      (tables.insert runtime freeId freeScheme).Free rest := by
  constructor
  · intro free
    obtain ⟨newId, ids⟩ := List.nodup_cons.mp free.ids
    obtain ⟨newScheme, schemes⟩ := List.nodup_cons.mp free.schemes
    refine ⟨ids, schemes, fun other member => ?_, fun other member => ?_⟩
    · have different : other.id ≠ runtime.id := fun same =>
        newId (List.mem_map.mpr ⟨other, member, same⟩)
      rw [insert, SortedMap.get?_insert, if_neg different]
      exact free.idsFree other (List.mem_cons_of_mem _ member)
    · have different : other.uriScheme ≠ runtime.uriScheme := fun same =>
        newScheme (List.mem_map.mpr ⟨other, member, same⟩)
      rw [insert, SortedMap.get?_insert, if_neg different]
      exact free.schemesFree other (List.mem_cons_of_mem _ member)
  · intro free
    have notSame : ∀ other ∈ rest, other.id ≠ runtime.id ∧
        tables.providers.get? other.id = none := by
      intro other member
      have isFree := free.idsFree other member
      rw [insert, SortedMap.get?_insert] at isFree
      split at isFree
      · cases isFree
      · next different => exact ⟨different, isFree⟩
    have notSameScheme : ∀ other ∈ rest,
        other.uriScheme ≠ runtime.uriScheme ∧
          tables.schemes.get? other.uriScheme = none := by
      intro other member
      have isFree := free.schemesFree other member
      rw [insert, SortedMap.get?_insert] at isFree
      split at isFree
      · cases isFree
      · next different => exact ⟨different, isFree⟩
    refine ⟨List.nodup_cons.mpr ⟨?_, free.ids⟩,
      List.nodup_cons.mpr ⟨?_, free.schemes⟩, ?_, ?_⟩
    · intro member
      obtain ⟨other, inRest, same⟩ := List.mem_map.mp member
      exact (notSame other inRest).1 same
    · intro member
      obtain ⟨other, inRest, same⟩ := List.mem_map.mp member
      exact (notSameScheme other inRest).1 same
    · intro other member
      rcases List.mem_cons.mp member with rfl | inRest
      · exact freeId
      · exact (notSame other inRest).2
    · intro other member
      rcases List.mem_cons.mp member with rfl | inRest
      · exact freeScheme
      · exact (notSameScheme other inRest).2

theorem registerAll_isOk_iff {runtimes : List (ProviderRuntime Caps)} :
    (∃ registered, tables.registerAll runtimes = .ok registered) ↔
      tables.Free runtimes := by
  induction runtimes generalizing tables with
  | nil =>
    refine ⟨fun _ => ⟨List.nodup_nil, List.nodup_nil, ?_, ?_⟩,
      fun _ => ⟨tables, rfl⟩⟩
    · intro runtime member
      cases member
    · intro runtime member
      cases member
  | cons runtime rest inductionHypothesis =>
    simp only [registerAll]
    cases outcome : tables.register runtime with
    | error error =>
      constructor
      · rintro ⟨registered, isOk⟩
        cases isOk
      · intro free
        have isOk := register_eq_ok.mpr ⟨free.idsFree runtime List.mem_cons_self,
          free.schemesFree runtime List.mem_cons_self, rfl⟩
        rw [outcome] at isOk
        cases isOk
    | ok inserted =>
      obtain ⟨freeId, freeScheme, rfl⟩ := register_eq_ok.mp outcome
      rw [free_cons freeId freeScheme]
      exact inductionHypothesis

/-- What is registered under an id. -/
theorem registerAll_get? {runtimes : List (ProviderRuntime Caps)}
    (isOk : tables.registerAll runtimes = .ok registered)
    (id : ProviderId) (runtime : ProviderRuntime Caps) :
    registered.providers.get? id = some runtime ↔
      tables.providers.get? id = some runtime ∨
        runtime ∈ runtimes ∧ runtime.id = id := by
  induction runtimes generalizing tables with
  | nil =>
    cases isOk
    simp
  | cons first rest inductionHypothesis =>
    simp only [registerAll] at isOk
    cases outcome : tables.register first with
    | error error => simp [outcome] at isOk
    | ok inserted =>
      simp only [outcome] at isOk
      obtain ⟨freeId, freeScheme, rfl⟩ := register_eq_ok.mp outcome
      rw [inductionHypothesis isOk, insert, SortedMap.get?_insert,
        List.mem_cons]
      by_cases same : id = first.id
      · subst same
        rw [if_pos rfl, freeId, Option.some_inj]
        constructor
        · rintro (rfl | ⟨member, sameId⟩)
          · exact Or.inr ⟨Or.inl rfl, rfl⟩
          · exact Or.inr ⟨Or.inr member, sameId⟩
        · rintro (isNone | ⟨rfl | member, sameId⟩)
          · cases isNone
          · exact Or.inl rfl
          · exact Or.inr ⟨member, sameId⟩
      · rw [if_neg same]
        constructor
        · rintro (old | ⟨member, sameId⟩)
          · exact Or.inl old
          · exact Or.inr ⟨Or.inr member, sameId⟩
        · rintro (old | ⟨rfl | member, sameId⟩)
          · exact Or.inl old
          · exact absurd sameId.symm same
          · exact Or.inr ⟨member, sameId⟩

/-- The providers settle the schemes. -/
theorem eq_of_providers {first second : ProviderTables Caps}
    (same : first.providers = second.providers) : first = second := by
  have sameSchemes : first.schemes = second.schemes := by
    apply SortedMap.ext_get?
    intro scheme
    ext id
    rw [first.byScheme, second.byScheme, same]
  cases first
  cases second
  cases same
  cases sameSchemes
  rfl

theorem playerProviders_nodup (tables : ProviderTables Caps) :
    tables.playerProviders.Nodup := by
  have keys : tables.providers.values.map ProviderRuntime.id =
      tables.providers.entries.map Prod.fst := by
    rw [SortedMap.values, List.map_map]
    apply List.map_congr_left
    intro entry member
    exact tables.keyed entry.1 entry.2 (SortedMap.get?_eq_some.mpr member)
  have distinct : (tables.providers.values.map ProviderRuntime.id).Nodup := by
    rw [keys]
    exact tables.providers.nodup_keys
  exact distinct.sublist (List.filter_sublist.map ProviderRuntime.id)

end ProviderTables

namespace ProviderRegistry

open ProviderTables

theorem new_eq_ok {defaultId : ProviderId}
    {runtimes : List (ProviderRuntime Caps)}
    {registry : ProviderRegistry Caps} :
    new defaultId runtimes = .ok registry ↔
      empty.registerAll runtimes = .ok registry.toProviderTables ∧
        registry.defaultId = defaultId := by
  unfold new
  cases outcome : (empty : ProviderTables Caps).registerAll runtimes with
  | error error => simp
  | ok tables =>
    dsimp only
    by_cases hasDefault : (tables.providers.get? defaultId).isSome = true
    case neg =>
      rw [dif_neg hasDefault]
      constructor
      · intro isOk
        cases isOk
      · rintro ⟨sameTables, rfl⟩
        cases sameTables
        exact absurd registry.hasDefault hasDefault
    rw [dif_pos hasDefault]
    by_cases single : tables.playerProviders.length ≤ 1
    case neg =>
      rw [dif_neg single]
      constructor
      · intro isOk
        cases isOk
      · rintro ⟨sameTables, _⟩
        cases sameTables
        apply absurd _ single
        have onlyDefault : ∀ id ∈ registry.playerProviders,
            id ∈ [registry.defaultId] := by
          intro id member
          obtain ⟨runtime, isProvider, hasPlayer⟩ :=
            mem_playerProviders.mp member
          rw [registry.playerOnDefault id runtime isProvider hasPlayer]
          exact List.mem_singleton.mpr rfl
        exact (registry.playerProviders_nodup.subperm onlyDefault).length_le
    rw [dif_pos single]
    by_cases isDefault : (tables.playerProviders.head?.any
        fun provider => provider ≠ defaultId) = true
    · rw [dif_pos isDefault]
      constructor
      · intro isOk
        cases isOk
      · rintro ⟨sameTables, rfl⟩
        cases sameTables
        obtain ⟨provider, isHead, different⟩ :=
          (Option.any_eq_true _ _).mp isDefault
        obtain ⟨runtime, isProvider, hasPlayer⟩ :=
          mem_playerProviders.mp (List.mem_of_mem_head? isHead)
        exact absurd (registry.playerOnDefault provider runtime isProvider
          hasPlayer) (by simpa using different)
    · rw [dif_neg isDefault]
      constructor
      · rintro ⟨⟩
        exact ⟨rfl, rfl⟩
      · rintro ⟨sameTables, rfl⟩
        cases sameTables
        rfl

/-- The registry accepts runtimes exactly when their ids and their schemes are
distinct, the default is among them and no other one brings a player.  It then
holds these runtimes under their ids, whatever their order. -/
theorem new_exact (defaultId : ProviderId)
    (runtimes : List (ProviderRuntime Caps)) :
    ((∃ registry, new defaultId runtimes = .ok registry) ↔
      (runtimes.map ProviderRuntime.id).Nodup ∧
        (runtimes.map ProviderRuntime.uriScheme).Nodup ∧
        defaultId ∈ runtimes.map ProviderRuntime.id ∧
        ∀ runtime ∈ runtimes, runtime.hasPlayer = true →
          runtime.id = defaultId) ∧
    ∀ registry, new defaultId runtimes = .ok registry →
      (∀ id runtime, registry.providers.get? id = some runtime ↔
        runtime ∈ runtimes ∧ runtime.id = id) ∧
      ∀ reordered, reordered.Perm runtimes →
        new defaultId reordered = .ok registry := by
  have contents : ∀ tables : ProviderTables Caps,
      empty.registerAll runtimes = .ok tables →
      ∀ id runtime, tables.providers.get? id = some runtime ↔
        runtime ∈ runtimes ∧ runtime.id = id := by
    intro tables isOk id runtime
    rw [registerAll_get? isOk]
    simp [empty]
  have freeOf : ∀ list : List (ProviderRuntime Caps),
      (empty : ProviderTables Caps).Free list ↔
        (list.map ProviderRuntime.id).Nodup ∧
          (list.map ProviderRuntime.uriScheme).Nodup := by
    intro list
    refine ⟨fun free => ⟨free.ids, free.schemes⟩, fun distinct =>
      ⟨distinct.1, distinct.2, fun _ _ => rfl, fun _ _ => rfl⟩⟩
  refine ⟨⟨?_, ?_⟩, ?_⟩
  · rintro ⟨registry, isOk⟩
    obtain ⟨registered, rfl⟩ := new_eq_ok.mp isOk
    have holds := contents _ registered
    obtain ⟨ids, schemes⟩ := (freeOf runtimes).mp
      (registerAll_isOk_iff.mp ⟨_, registered⟩)
    refine ⟨ids, schemes, ?_, ?_⟩
    · obtain ⟨runtime, isProvider⟩ :=
        Option.isSome_iff_exists.mp registry.hasDefault
      obtain ⟨member, isId⟩ := (holds _ _).mp isProvider
      exact List.mem_map.mpr ⟨runtime, member, isId⟩
    · intro runtime member hasPlayer
      exact registry.playerOnDefault runtime.id runtime
        ((holds _ _).mpr ⟨member, rfl⟩) hasPlayer
  · rintro ⟨ids, schemes, isDefault, onDefault⟩
    obtain ⟨tables, registered⟩ :=
      registerAll_isOk_iff.mpr ((freeOf runtimes).mpr ⟨ids, schemes⟩)
    have holds := contents tables registered
    obtain ⟨default, member, isId⟩ := List.mem_map.mp isDefault
    refine ⟨{ tables with
      defaultId := defaultId
      hasDefault := ?_
      playerOnDefault := ?_ }, new_eq_ok.mpr ⟨registered, rfl⟩⟩
    · rw [(holds defaultId default).mpr ⟨member, isId⟩]
      rfl
    · intro id runtime isProvider hasPlayer
      obtain ⟨inRuntimes, rfl⟩ := (holds _ _).mp isProvider
      exact onDefault runtime inRuntimes hasPlayer
  · intro registry isOk
    obtain ⟨registered, rfl⟩ := new_eq_ok.mp isOk
    have holds := contents _ registered
    refine ⟨holds, fun reordered permuted => ?_⟩
    obtain ⟨ids, schemes⟩ := (freeOf runtimes).mp
      (registerAll_isOk_iff.mp ⟨_, registered⟩)
    obtain ⟨tables, others⟩ := registerAll_isOk_iff.mpr ((freeOf reordered).mpr
      ⟨(permuted.map _).nodup_iff.mpr ids,
        (permuted.map _).nodup_iff.mpr schemes⟩)
    have sameProviders : tables.providers = registry.providers := by
      apply SortedMap.ext_get?
      intro id
      ext runtime
      rw [holds, registerAll_get? others]
      simp [empty, permuted.mem_iff]
    rw [new_eq_ok, others, eq_of_providers sameProviders]
    exact ⟨rfl, rfl⟩

def resolvedClaim (input : String)
    (entry : ProviderId × ProviderRuntime Caps) : Option ResolvedTarget :=
  match entry.2.claimTarget input with
  | .resolved uri => some ⟨entry.1, uri⟩
  | _ => none

def invalidClaim (input : String)
    (entry : ProviderId × ProviderRuntime Caps) :
    Option (ProviderId × String) :=
  match entry.2.claimTarget input with
  | .invalid message => some (entry.1, message)
  | _ => none

/-- A provider claims URIs of its own scheme only. -/
def ClaimsOwnScheme (input : String) (runtime : ProviderRuntime Caps) : Prop :=
  ∀ uri, runtime.claimTarget input = .resolved uri →
    uri.scheme = runtime.uriScheme

theorem validateClaimedUri_eq_ok {runtime : ProviderRuntime Caps}
    {uri : ResourceUri} :
    validateClaimedUri runtime uri = .ok () ↔
      uri.scheme = runtime.uriScheme := by
  unfold validateClaimedUri
  by_cases own : uri.scheme = runtime.uriScheme <;> simp [own]

theorem claimsOwnScheme_of_notMine {input : String}
    {runtime : ProviderRuntime Caps}
    (isNotMine : runtime.claimTarget input = .notMine) :
    ClaimsOwnScheme input runtime := by
  intro uri isResolved
  rw [isNotMine] at isResolved
  cases isResolved

theorem collectClaims_eq_ok {input : String}
    {entries : List (ProviderId × ProviderRuntime Caps)}
    {resolved : List ResolvedTarget} {invalid : List (ProviderId × String)} :
    collectClaims input entries = .ok (resolved, invalid) ↔
      (∀ entry ∈ entries, ClaimsOwnScheme input entry.2) ∧
        resolved = entries.filterMap (resolvedClaim input) ∧
        invalid = entries.filterMap (invalidClaim input) := by
  induction entries generalizing resolved invalid with
  | nil => simp [collectClaims, eq_comm]
  | cons entry rest inductionHypothesis =>
    simp only [collectClaims, List.forall_mem_cons, List.filterMap_cons]
    cases claim : entry.2.claimTarget input with
    | notMine =>
      simp only [resolvedClaim, invalidClaim, claim]
      rw [inductionHypothesis, and_iff_right (claimsOwnScheme_of_notMine claim)]
    | resolved uri =>
      have own : ClaimsOwnScheme input entry.2 ↔
          validateClaimedUri entry.2 uri = .ok () := by
        rw [validateClaimedUri_eq_ok]
        constructor
        · intro holds
          exact holds uri claim
        · intro same other isResolved
          rw [claim] at isResolved
          cases isResolved
          exact same
      simp only [resolvedClaim, invalidClaim, claim]
      rw [own]
      cases validated : validateClaimedUri entry.2 uri with
      | error error => simp
      | ok _ =>
        dsimp only
        cases collected : collectClaims input rest with
        | error error =>
          simp only [reduceCtorEq, true_and, false_iff, not_and]
          intro restOwn
          have isOk := inductionHypothesis.mpr ⟨restOwn, rfl, rfl⟩
          rw [collected] at isOk
          cases isOk
        | ok claims =>
          obtain ⟨restOwn, restResolved, restInvalid⟩ :=
            inductionHypothesis.mp collected
          simp only [restResolved, restInvalid, Except.ok.injEq, Prod.mk.injEq]
          constructor
          · rintro ⟨rfl, rfl⟩
            exact ⟨⟨trivial, restOwn⟩, rfl, rfl⟩
          · rintro ⟨_, rfl, rfl⟩
            exact ⟨rfl, rfl⟩
    | invalid message =>
      have own : ClaimsOwnScheme input entry.2 := by
        intro uri isResolved
        rw [claim] at isResolved
        cases isResolved
      simp only [resolvedClaim, invalidClaim, claim]
      rw [and_iff_right own]
      cases collected : collectClaims input rest with
      | error error =>
        simp only [reduceCtorEq, false_iff, not_and]
        intro restOwn
        have isOk := inductionHypothesis.mpr ⟨restOwn, rfl, rfl⟩
        rw [collected] at isOk
        cases isOk
      | ok claims =>
        obtain ⟨restOwn, restResolved, restInvalid⟩ :=
          inductionHypothesis.mp collected
        simp only [restResolved, restInvalid, Except.ok.injEq, Prod.mk.injEq]
        constructor
        · rintro ⟨rfl, rfl⟩
          exact ⟨restOwn, rfl, rfl⟩
        · rintro ⟨_, rfl, rfl⟩
          exact ⟨rfl, rfl⟩

/-- One entry alone yields something. -/
theorem filterMap_eq_singleton {Key Value Result : Type}
    {entries : List (Key × Value)} (keys : (entries.map Prod.fst).Nodup)
    {select : Key × Value → Option Result} {result : Result} :
    entries.filterMap select = [result] ↔
      ∃ entry ∈ entries, select entry = some result ∧
        ∀ other ∈ entries, other.1 ≠ entry.1 → select other = none := by
  constructor
  · intro isSingle
    obtain ⟨entry, member, selected⟩ := List.mem_filterMap.mp
      (isSingle ▸ List.mem_singleton.mpr rfl : result ∈ entries.filterMap select)
    refine ⟨entry, member, selected, fun other inEntries different => ?_⟩
    obtain ⟨before, after, rfl⟩ := List.append_of_mem member
    rw [List.filterMap_append, List.filterMap_cons_some selected] at isSingle
    have lengths := congrArg List.length isSingle
    rw [List.length_append, List.length_cons, List.length_singleton] at lengths
    have noneBefore : before.filterMap select = [] :=
      List.length_eq_zero_iff.mp (by omega)
    have noneAfter : after.filterMap select = [] :=
      List.length_eq_zero_iff.mp (by omega)
    rcases List.mem_append.mp inEntries with inBefore | inRest
    · exact List.filterMap_eq_nil_iff.mp noneBefore other inBefore
    · rcases List.mem_cons.mp inRest with rfl | inAfter
      · exact absurd rfl different
      · exact List.filterMap_eq_nil_iff.mp noneAfter other inAfter
  · rintro ⟨entry, member, selected, others⟩
    obtain ⟨before, after, rfl⟩ := List.append_of_mem member
    rw [List.map_append, List.map_cons, List.nodup_append] at keys
    obtain ⟨_, afterKeys, apart⟩ := keys
    have noneBefore : before.filterMap select = [] :=
      List.filterMap_eq_nil_iff.mpr fun other inBefore =>
        others other (List.mem_append_left _ inBefore)
          (apart other.1 (List.mem_map_of_mem inBefore) entry.1
            List.mem_cons_self)
    have noneAfter : after.filterMap select = [] :=
      List.filterMap_eq_nil_iff.mpr fun other inAfter =>
        others other (List.mem_append_right _ (List.mem_cons_of_mem _ inAfter))
          fun same => (List.nodup_cons.mp afterKeys).1
            (same ▸ List.mem_map_of_mem inAfter)
    rw [List.filterMap_append, List.filterMap_cons_some selected, noneBefore,
      noneAfter, List.nil_append]

/-- A kind that the request allows. -/
def AllowsKind (expectedKinds : Option (List MediaKind)) (uri : ResourceUri) :
    Prop :=
  ∀ kinds, expectedKinds = some kinds → uri.kind ∈ kinds

theorem enforceExpectedKind_eq_ok {uri : ResourceUri}
    {expectedKinds : Option (List MediaKind)} :
    enforceExpectedKind uri expectedKinds = .ok () ↔
      AllowsKind expectedKinds uri := by
  cases expectedKinds with
  | none => simp [enforceExpectedKind, AllowsKind]
  | some kinds =>
    by_cases allowed : uri.kind ∈ kinds <;>
      simp [enforceExpectedKind, AllowsKind, allowed]

theorem settleClaims_eq_ok_some {expectedKinds : Option (List MediaKind)}
    {resolved : List ResolvedTarget} {invalid : List (ProviderId × String)}
    {target : ResolvedTarget} :
    settleClaims expectedKinds resolved invalid = .ok (some target) ↔
      resolved = [target] ∧ invalid = [] ∧
        AllowsKind expectedKinds target.uri := by
  rw [← enforceExpectedKind_eq_ok]
  unfold settleClaims
  cases invalid with
  | cons claim claims =>
    cases resolved with
    | nil => simp
    | cons first rest => simp
  | nil =>
    cases resolved with
    | nil => simp
    | cons first rest =>
      cases rest with
      | cons second others => simp
      | nil =>
        simp only [List.isEmpty_nil, Bool.not_true, Bool.and_false,
          List.cons.injEq, and_true]
        cases enforced : enforceExpectedKind first.uri expectedKinds with
        | error error =>
          constructor
          · intro isOk
            cases isOk
          · rintro ⟨rfl, _, isOk⟩
            rw [enforced] at isOk
            cases isOk
        | ok _ =>
          constructor
          · rintro ⟨⟩
            exact ⟨rfl, trivial, enforced⟩
          · rintro ⟨rfl, _, _⟩
            rfl

theorem settleClaims_eq_ok_none {expectedKinds : Option (List MediaKind)}
    {resolved : List ResolvedTarget} {invalid : List (ProviderId × String)} :
    settleClaims expectedKinds resolved invalid = .ok none ↔
      resolved = [] ∧ invalid = [] := by
  unfold settleClaims
  cases resolved with
  | nil => cases invalid <;> simp
  | cons first rest =>
    cases invalid with
    | cons claim claims => simp
    | nil =>
      cases rest with
      | cons second others => simp
      | nil =>
        simp only [List.isEmpty_nil, Bool.not_true, Bool.and_false]
        cases enforceExpectedKind first.uri expectedKinds <;> simp

variable {registry : ProviderRegistry Caps} {input : String}
  {expectedKinds : Option (List MediaKind)} {target : ResolvedTarget}

/-- One provider claims a target, as its own and of a kind that is allowed. -/
def Claims (registry : ProviderRegistry Caps) (input : String)
    (expectedKinds : Option (List MediaKind)) (target : ResolvedTarget) : Prop :=
  ∃ runtime, registry.providers.get? target.provider = some runtime ∧
    runtime.claimTarget input = .resolved target.uri ∧
    target.uri.scheme = runtime.uriScheme ∧ AllowsKind expectedKinds target.uri

theorem resolvedClaim_eq_some
    {entry : ProviderId × ProviderRuntime Caps} :
    resolvedClaim input entry = some target ↔
      entry.1 = target.provider ∧
        entry.2.claimTarget input = .resolved target.uri := by
  unfold resolvedClaim
  cases claim : entry.2.claimTarget input with
  | notMine => simp
  | invalid message => simp
  | resolved uri =>
    cases target
    simp

theorem claimTarget_eq_notMine
    {entry : ProviderId × ProviderRuntime Caps} :
    entry.2.claimTarget input = .notMine ↔
      resolvedClaim input entry = none ∧ invalidClaim input entry = none := by
  unfold resolvedClaim invalidClaim
  cases claim : entry.2.claimTarget input <;> simp

theorem resolveTarget_none_eq_ok {outcome : Option ResolvedTarget} :
    registry.resolveTarget input none expectedKinds = .ok outcome ↔
      (∀ entry ∈ registry.providers.entries, ClaimsOwnScheme input entry.2) ∧
        settleClaims expectedKinds
          (registry.providers.entries.filterMap (resolvedClaim input))
          (registry.providers.entries.filterMap (invalidClaim input)) =
            .ok outcome := by
  simp only [resolveTarget]
  cases collected : collectClaims input registry.providers.entries with
  | error error =>
    constructor
    · intro isOk
      cases isOk
    · rintro ⟨own, _⟩
      have isOk := collectClaims_eq_ok.mpr ⟨own, rfl, rfl⟩
      rw [collected] at isOk
      cases isOk
  | ok claims =>
    obtain ⟨own, isResolved, isInvalid⟩ := collectClaims_eq_ok.mp collected
    simp only [isResolved, isInvalid]
    exact (and_iff_right own).symm

theorem resolveTarget_eq_some_iff :
    registry.resolveTarget input none expectedKinds = .ok (some target) ↔
      registry.Claims input expectedKinds target ∧
        ∀ id other, registry.providers.get? id = some other →
          id ≠ target.provider → other.claimTarget input = .notMine := by
  rw [resolveTarget_none_eq_ok, settleClaims_eq_ok_some,
    filterMap_eq_singleton registry.providers.nodup_keys,
    List.filterMap_eq_nil_iff]
  constructor
  · rintro ⟨own, ⟨entry, member, isTarget, others⟩, noInvalid, allowed⟩
    obtain ⟨isProvider, claims⟩ := resolvedClaim_eq_some.mp isTarget
    refine ⟨⟨entry.2, ?_, claims, own entry member _ claims, allowed⟩, ?_⟩
    · rw [← isProvider]
      exact SortedMap.get?_eq_some.mpr member
    · intro id other isOther different
      have inEntries := SortedMap.get?_eq_some.mp isOther
      exact (@claimTarget_eq_notMine Caps input (id, other)).mpr
        ⟨others _ inEntries (isProvider ▸ different), noInvalid _ inEntries⟩
  · rintro ⟨⟨runtime, isProvider, claims, sameScheme, allowed⟩, others⟩
    have member := SortedMap.get?_eq_some.mp isProvider
    have isClaim : resolvedClaim input (target.provider, runtime) =
        some target := resolvedClaim_eq_some.mpr ⟨rfl, claims⟩
    have notMine : ∀ entry ∈ registry.providers.entries,
        entry.1 ≠ target.provider → entry.2.claimTarget input = .notMine :=
      fun entry inEntries different =>
        others entry.1 entry.2 (SortedMap.get?_eq_some.mpr inEntries) different
    have isRuntime : ∀ entry ∈ registry.providers.entries,
        entry.1 = target.provider → entry.2 = runtime := by
      intro entry inEntries same
      have held := SortedMap.get?_eq_some.mpr inEntries
      rw [same, isProvider] at held
      exact (Option.some.inj held).symm
    refine ⟨fun entry inEntries => ?_,
      ⟨(target.provider, runtime), member, isClaim, ?_⟩, ?_, allowed⟩
    · by_cases same : entry.1 = target.provider
      · rw [isRuntime entry inEntries same]
        intro uri isResolved
        rw [claims] at isResolved
        cases isResolved
        exact sameScheme
      · exact claimsOwnScheme_of_notMine (notMine entry inEntries same)
    · intro entry inEntries different
      exact (claimTarget_eq_notMine.mp (notMine entry inEntries different)).1
    · intro entry inEntries
      by_cases same : entry.1 = target.provider
      · simp [invalidClaim, isRuntime entry inEntries same, claims]
      · exact (claimTarget_eq_notMine.mp (notMine entry inEntries same)).2

theorem resolveTarget_eq_none_iff :
    registry.resolveTarget input none expectedKinds = .ok none ↔
      ∀ id runtime, registry.providers.get? id = some runtime →
        runtime.claimTarget input = .notMine := by
  rw [resolveTarget_none_eq_ok, settleClaims_eq_ok_none,
    List.filterMap_eq_nil_iff, List.filterMap_eq_nil_iff]
  constructor
  · rintro ⟨_, noResolved, noInvalid⟩ id runtime isProvider
    have member := SortedMap.get?_eq_some.mp isProvider
    exact (@claimTarget_eq_notMine Caps input (id, runtime)).mpr
      ⟨noResolved _ member, noInvalid _ member⟩
  · intro notMine
    have all : ∀ entry ∈ registry.providers.entries,
        entry.2.claimTarget input = .notMine := fun entry inEntries =>
      notMine entry.1 entry.2 (SortedMap.get?_eq_some.mpr inEntries)
    exact ⟨fun entry inEntries =>
        claimsOwnScheme_of_notMine (all entry inEntries),
      fun entry inEntries => (claimTarget_eq_notMine.mp (all entry inEntries)).1,
      fun entry inEntries =>
        (claimTarget_eq_notMine.mp (all entry inEntries)).2⟩

/-- A target is routed exactly when one provider claims it and every other one
says that it is not its own; nothing is routed exactly when all say so. -/
theorem resolveTarget_exact (registry : ProviderRegistry Caps)
    (input : String) (expectedKinds : Option (List MediaKind)) :
    (∀ target, registry.resolveTarget input none expectedKinds =
        .ok (some target) ↔
      registry.Claims input expectedKinds target ∧
        ∀ id other, registry.providers.get? id = some other →
          id ≠ target.provider → other.claimTarget input = .notMine) ∧
    (registry.resolveTarget input none expectedKinds = .ok none ↔
      ∀ id runtime, registry.providers.get? id = some runtime →
        runtime.claimTarget input = .notMine) :=
  ⟨fun _ => resolveTarget_eq_some_iff, resolveTarget_eq_none_iff⟩

/-- Asking one provider agrees with asking all. -/
theorem resolveWith_eq_ok {id : ProviderId}
    {outcome : Option ResolvedTarget} :
    registry.resolveWith input id expectedKinds = .ok outcome ↔
      ∃ runtime, registry.providers.get? id = some runtime ∧
        ((runtime.claimTarget input = .notMine ∧ outcome = none) ∨
          ∃ uri, runtime.claimTarget input = .resolved uri ∧
            uri.scheme = runtime.uriScheme ∧ AllowsKind expectedKinds uri ∧
              outcome = some ⟨id, uri⟩) := by
  unfold resolveWith provider
  cases isProvider : registry.providers.get? id with
  | none => simp
  | some runtime =>
    simp only [Option.some_inj, exists_eq_left']
    cases claim : runtime.claimTarget input with
    | notMine => simp [eq_comm]
    | invalid message => simp
    | resolved uri =>
      simp only [TargetClaim.resolved.injEq, exists_eq_left', reduceCtorEq,
        false_and, false_or]
      rw [← validateClaimedUri_eq_ok, ← enforceExpectedKind_eq_ok]
      cases validateClaimedUri runtime uri with
      | error error => simp
      | ok _ =>
        cases enforceExpectedKind uri expectedKinds with
        | error error => simp
        | ok _ => simp [eq_comm]

/-- What is routed without naming a provider is what the provider resolves
that owns the scheme of the target, and no other provider resolves it. -/
theorem routed_target_agrees {registry : ProviderRegistry Caps}
    {input : String} {expectedKinds : Option (List MediaKind)}
    {target : ResolvedTarget}
    (routed : registry.resolveTarget input none expectedKinds =
      .ok (some target)) :
    registry.resolveTarget input (some target.provider) expectedKinds =
        .ok (some target) ∧
      (∃ runtime, registry.providerForUri target.uri = .ok runtime ∧
        runtime.id = target.provider) ∧
      ∀ id, id ≠ target.provider →
        (registry.providers.get? id).isSome = true →
          registry.resolveTarget input (some id) expectedKinds = .ok none := by
  obtain ⟨⟨runtime, isProvider, claims, sameScheme, allowed⟩, others⟩ :=
    resolveTarget_eq_some_iff.mp routed
  refine ⟨?_, ⟨runtime, ?_, registry.keyed _ _ isProvider⟩, ?_⟩
  · exact resolveWith_eq_ok.mpr ⟨runtime, isProvider,
      Or.inr ⟨target.uri, claims, sameScheme, allowed, rfl⟩⟩
  · have isScheme : registry.schemes.get? target.uri.scheme =
        some target.provider :=
      (registry.byScheme _ _).mpr ⟨runtime, isProvider, sameScheme.symm⟩
    rw [providerForUri, providerForScheme, isScheme]
    dsimp only
    rw [provider, isProvider]
  · intro id different isSome
    obtain ⟨other, isOther⟩ := Option.isSome_iff_exists.mp isSome
    exact resolveWith_eq_ok.mpr ⟨other, isOther,
      Or.inl ⟨others id other isOther different, rfl⟩⟩

/-- Two providers, of which the second knows the input. -/
def cratesRuntimes : List (ProviderRuntime Unit) :=
  [{ id := ⟨"spotify"⟩
     uriScheme := UriScheme.spotify
     displayName := "Spotify"
     capabilities := ()
     hasPlayer := true
     claimTarget := fun _ => .notMine },
   { id := ⟨"crates"⟩
     uriScheme := ⟨"crates", by decide +kernel⟩
     displayName := "Crates"
     capabilities := ()
     hasPlayer := false
     claimTarget := fun _ => .resolved
       ⟨⟨"crates", by decide +kernel⟩, .track, "1", by decide +kernel⟩ }]

theorem routed_target_agrees_crates :
    ∃ (registry : ProviderRegistry Unit) (target : ResolvedTarget),
      registry.resolveTarget "first" (some target.provider) (some [.track]) =
          .ok (some target) ∧
        (∃ runtime, registry.providerForUri target.uri = .ok runtime ∧
          runtime.id = target.provider) ∧
        ∀ id, id ≠ target.provider →
          (registry.providers.get? id).isSome = true →
            registry.resolveTarget "first" (some id) (some [.track]) =
              .ok none := by
  have routes : ((new ⟨"spotify"⟩ cratesRuntimes).toOption.any fun registry =>
      decide (registry.resolveTarget "first" none (some [.track]) = .ok (some
        ⟨⟨"crates"⟩, ⟨"crates", by decide +kernel⟩, .track, "1",
          by decide +kernel⟩))) = true := by
    decide +kernel
  obtain ⟨registry, _, isRouted⟩ := (Option.any_eq_true _ _).mp routes
  exact ⟨registry, _, routed_target_agrees (of_decide_eq_true isRouted)⟩

theorem checkDistinct_eq_ok {providers : List (ProviderDescriptor Caps)}
    {ids : List ProviderId} {schemes : List UriScheme} :
    ProviderCatalog.checkDistinct providers ids schemes = .ok () ↔
      (providers.map ProviderDescriptor.id).Nodup ∧
        (providers.map ProviderDescriptor.uriScheme).Nodup ∧
        ∀ provider ∈ providers,
          provider.id ∉ ids ∧ provider.uriScheme ∉ schemes := by
  induction providers generalizing ids schemes with
  | nil => simp [ProviderCatalog.checkDistinct]
  | cons provider rest inductionHypothesis =>
    simp only [ProviderCatalog.checkDistinct]
    by_cases knownId : provider.id ∈ ids
    · simp [knownId]
    by_cases knownScheme : provider.uriScheme ∈ schemes
    · simp [knownId, knownScheme]
    rw [if_neg knownId, if_neg knownScheme, inductionHypothesis,
      List.forall_mem_cons]
    simp only [List.map_cons, List.nodup_cons, List.mem_map, not_exists,
      not_and, List.mem_cons, not_or]
    constructor
    · rintro ⟨restIds, restSchemes, apart⟩
      exact ⟨⟨fun other member => (apart other member).1.1, restIds⟩,
        ⟨fun other member => (apart other member).2.1, restSchemes⟩,
        ⟨knownId, knownScheme⟩, fun other member =>
          ⟨(apart other member).1.2, (apart other member).2.2⟩⟩
    · rintro ⟨⟨newId, restIds⟩, ⟨newScheme, restSchemes⟩, _, apart⟩
      exact ⟨restIds, restSchemes, fun other member =>
        ⟨⟨newId other member, (apart other member).1⟩,
          newScheme other member, (apart other member).2⟩⟩

/-- Distinct providers own distinct schemes. -/
theorem uriSchemes_nodup (registry : ProviderRegistry Caps) :
    (registry.providers.entries.map fun entry => entry.2.uriScheme).Nodup := by
  apply List.pairwise_map.mpr
  refine registry.providers.ascending.imp_of_mem ?_
  intro first second firstMember secondMember before same
  have ofFirst := (registry.byScheme first.2.uriScheme first.1).mpr
    ⟨first.2, SortedMap.get?_eq_some.mpr firstMember, rfl⟩
  have ofSecond := (registry.byScheme second.2.uriScheme second.1).mpr
    ⟨second.2, SortedMap.get?_eq_some.mpr secondMember, rfl⟩
  rw [same, ofSecond] at ofFirst
  exact before.ne (Option.some.inj ofFirst).symm

/-- Only the default provider is marked in the catalog. -/
theorem catalog_marks_default (registry : ProviderRegistry Caps) :
    (registry.catalog.providers.filter ProviderDescriptor.isDefault).map
      ProviderDescriptor.id = [registry.defaultId] := by
  obtain ⟨default, isDefault⟩ :=
    Option.isSome_iff_exists.mp registry.hasDefault
  have selected : (registry.catalog.providers.filter
      ProviderDescriptor.isDefault).map ProviderDescriptor.id =
        registry.providers.entries.filterMap fun entry =>
          if entry.1 = registry.defaultId then some entry.1 else none := by
    rw [catalog]
    induction registry.providers.entries with
    | nil => rfl
    | cons entry rest inductionHypothesis =>
      by_cases same : entry.1 = registry.defaultId
      · simpa [same] using inductionHypothesis
      · simpa [same] using inductionHypothesis
  rw [selected, filterMap_eq_singleton registry.providers.nodup_keys]
  refine ⟨(registry.defaultId, default), SortedMap.get?_eq_some.mp isDefault,
    if_pos rfl, fun other _ different => if_neg different⟩

/-- The catalog of every registry lists distinct ids and schemes, marks exactly
the provider that it names as the default, and passes its own validation. -/
theorem catalog_validates (registry : ProviderRegistry Caps) :
    (registry.catalog.providers.map ProviderDescriptor.id).Nodup ∧
      (registry.catalog.providers.map ProviderDescriptor.uriScheme).Nodup ∧
      (∃ default, registry.catalog.defaultProvider = some default ∧
        (registry.catalog.providers.filter ProviderDescriptor.isDefault).map
          ProviderDescriptor.id = [default]) ∧
      registry.catalog.validate = .ok () := by
  have ids : (registry.catalog.providers.map ProviderDescriptor.id).Nodup := by
    rw [catalog, List.map_map]
    exact registry.providers.nodup_keys
  have schemes : (registry.catalog.providers.map
      ProviderDescriptor.uriScheme).Nodup := by
    rw [catalog, List.map_map]
    exact registry.uriSchemes_nodup
  have marked := registry.catalog_marks_default
  refine ⟨ids, schemes, ⟨registry.defaultId, rfl, marked⟩, ?_⟩
  have distinct : ProviderCatalog.checkDistinct registry.catalog.providers [] [] =
      .ok () :=
    checkDistinct_eq_ok.mpr
      ⟨ids, schemes, fun _ _ => ⟨List.not_mem_nil, List.not_mem_nil⟩⟩
  unfold ProviderCatalog.validate
  rw [distinct]
  dsimp only
  rw [show registry.catalog.defaultProvider = some registry.defaultId from rfl]
  dsimp only
  rw [if_pos marked]

end ProviderRegistry
end Spotuify
