import Spotuify.PageCollectors
import Spotuify.PolicyNotices

/-!
# Configured providers and the routing of targets

A registry holds the configured providers under their ids and under the URI
schemes they own.  It is put together from runtimes in any order and refuses
two that share an id or a scheme.  What a user names as a target is offered to
every provider, and only a single claim routes it.
-/

namespace Spotuify

instance : LinearOrder UriScheme :=
  LinearOrder.lift' UriScheme.label fun first second same => by
    cases first
    cases second
    cases same
    rfl

inductive TargetClaim where
  | notMine
  | resolved (uri : ResourceUri)
  | invalid (message : String)

/-- What the registry asks of a provider. -/
structure ProviderRuntime (Caps : Type) where
  id : ProviderId
  uriScheme : UriScheme
  displayName : String
  capabilities : Caps
  hasPlayer : Bool
  claimTarget : String → TargetClaim

structure ResolvedTarget where
  provider : ProviderId
  uri : ResourceUri
  deriving DecidableEq

variable {Caps : Type}

def quoted (text : String) : String := "`" ++ text ++ "`"

/-- The providers registered so far. -/
structure ProviderTables (Caps : Type) where
  providers : SortedMap ProviderId (ProviderRuntime Caps)
  schemes : SortedMap UriScheme ProviderId
  keyed : ∀ id runtime, providers.get? id = some runtime → runtime.id = id
  byScheme : ∀ scheme id, schemes.get? scheme = some id ↔
    ∃ runtime, providers.get? id = some runtime ∧ runtime.uriScheme = scheme

namespace ProviderTables

def empty : ProviderTables Caps where
  providers := .empty
  schemes := .empty
  keyed := fun _ _ isProvider => by cases isProvider
  byScheme := fun _ _ => by simp

variable (tables : ProviderTables Caps)

/-- Register a runtime whose id and scheme are free. -/
def insert (runtime : ProviderRuntime Caps)
    (freeId : tables.providers.get? runtime.id = none)
    (freeScheme : tables.schemes.get? runtime.uriScheme = none) :
    ProviderTables Caps where
  providers := tables.providers.insert runtime.id runtime
  schemes := tables.schemes.insert runtime.uriScheme runtime.id
  keyed := by
    intro id other isProvider
    rw [SortedMap.get?_insert] at isProvider
    split at isProvider
    · next same =>
      cases isProvider
      exact same.symm
    · exact tables.keyed id other isProvider
  byScheme := by
    intro scheme id
    rw [SortedMap.get?_insert, SortedMap.get?_insert]
    by_cases isId : id = runtime.id
    · subst isId
      by_cases isScheme : scheme = runtime.uriScheme
      · simp [isScheme]
      · rw [if_neg isScheme, if_pos rfl, tables.byScheme, freeId]
        simp [Ne.symm isScheme]
    · rw [if_neg isId, ← tables.byScheme]
      by_cases isScheme : scheme = runtime.uriScheme
      · simp [isScheme, Ne.symm isId, freeScheme]
      · rw [if_neg isScheme]

/-- One round of the loop of `new`. -/
def register (runtime : ProviderRuntime Caps) :
    Except Paging.ProviderError (ProviderTables Caps) :=
  if freeId : tables.providers.get? runtime.id = none then
    if freeScheme : tables.schemes.get? runtime.uriScheme = none then
      .ok (tables.insert runtime freeId freeScheme)
    else
      .error (.invalidInput "uri_scheme"
        ("URI scheme " ++ quoted runtime.uriScheme.label ++
          " is already registered to provider " ++
          quoted (((tables.schemes.get? runtime.uriScheme).map
            ProviderId.value).getD "")))
  else
    .error (.invalidInput "provider_id"
      ("duplicate provider id " ++ quoted runtime.id.value))

def registerAll (tables : ProviderTables Caps) :
    List (ProviderRuntime Caps) → Except Paging.ProviderError (ProviderTables Caps)
  | [] => .ok tables
  | runtime :: rest =>
    match tables.register runtime with
    | .error error => .error error
    | .ok registered => registerAll registered rest

/-- The providers that bring a local player. -/
def playerProviders : List ProviderId :=
  (tables.providers.values.filter ProviderRuntime.hasPlayer).map
    ProviderRuntime.id

end ProviderTables

/-- The registry that `new` accepts. -/
structure ProviderRegistry (Caps : Type) extends ProviderTables Caps where
  defaultId : ProviderId
  hasDefault : (providers.get? defaultId).isSome = true
  playerOnDefault : ∀ id runtime, providers.get? id = some runtime →
    runtime.hasPlayer = true → id = defaultId

namespace ProviderTables

variable {tables : ProviderTables Caps}

theorem mem_playerProviders {id : ProviderId} :
    id ∈ tables.playerProviders ↔
      ∃ runtime, tables.providers.get? id = some runtime ∧
        runtime.hasPlayer = true := by
  simp only [playerProviders, List.mem_map, List.mem_filter,
    SortedMap.mem_values]
  constructor
  · rintro ⟨runtime, ⟨⟨key, isProvider⟩, hasPlayer⟩, rfl⟩
    rw [← tables.keyed key runtime isProvider] at isProvider
    exact ⟨runtime, isProvider, hasPlayer⟩
  · rintro ⟨runtime, isProvider, hasPlayer⟩
    exact ⟨runtime, ⟨⟨id, isProvider⟩, hasPlayer⟩,
      tables.keyed id runtime isProvider⟩

end ProviderTables

namespace ProviderRegistry

/-- A player that is alone and the default's. -/
theorem players_on_default {tables : ProviderTables Caps}
    {defaultId : ProviderId}
    (single : tables.playerProviders.length ≤ 1)
    (isDefault : ¬ (tables.playerProviders.head?.any
      fun provider => provider ≠ defaultId) = true) :
    ∀ id runtime, tables.providers.get? id = some runtime →
      runtime.hasPlayer = true → id = defaultId := by
  intro id runtime isProvider hasPlayer
  have member := ProviderTables.mem_playerProviders.mpr
    ⟨runtime, isProvider, hasPlayer⟩
  obtain ⟨only, isOnly⟩ := List.length_eq_one_iff.mp
    (Nat.le_antisymm single (List.length_pos_of_mem member))
  rw [isOnly] at member isDefault
  rw [List.mem_singleton] at member
  simpa [member] using isDefault

def new (defaultId : ProviderId) (runtimes : List (ProviderRuntime Caps)) :
    Except Paging.ProviderError (ProviderRegistry Caps) :=
  match ProviderTables.empty.registerAll runtimes with
  | .error error => .error error
  | .ok tables =>
    if hasDefault : (tables.providers.get? defaultId).isSome = true then
      if single : tables.playerProviders.length ≤ 1 then
        if isDefault : (tables.playerProviders.head?.any
            fun provider => provider ≠ defaultId) = true then
          .error (.invalidInput "player"
            "the provider player must belong to the default provider")
        else
          .ok
            { tables with
              defaultId := defaultId
              hasDefault := hasDefault
              playerOnDefault := players_on_default single isDefault }
      else
        .error (.invalidInput "player"
          "only one provider player can be installed by this daemon")
    else
      .error (.invalidInput "default_provider"
        ("provider " ++ quoted defaultId.value ++ " is not registered"))

variable (registry : ProviderRegistry Caps)

def provider (id : ProviderId) : Except Paging.ProviderError (ProviderRuntime Caps) :=
  match registry.providers.get? id with
  | some runtime => .ok runtime
  | none => .error (.notFound ("provider:" ++ id.value))

def providerForScheme (scheme : UriScheme) :
    Except Paging.ProviderError (ProviderRuntime Caps) :=
  match registry.schemes.get? scheme with
  | some id => registry.provider id
  | none => .error (.notFound ("provider-scheme:" ++ scheme.label))

def providerForUri (uri : ResourceUri) :
    Except Paging.ProviderError (ProviderRuntime Caps) :=
  registry.providerForScheme uri.scheme

def validateClaimedUri (runtime : ProviderRuntime Caps) (uri : ResourceUri) :
    Except Paging.ProviderError Unit :=
  if uri.scheme = runtime.uriScheme then .ok ()
  else
    .error (.invalidInput "input"
      ("provider " ++ quoted runtime.id.value ++
        " claimed foreign URI namespace " ++ quoted uri.scheme.label))

def enforceExpectedKind (uri : ResourceUri)
    (expectedKinds : Option (List MediaKind)) : Except Paging.ProviderError Unit :=
  match expectedKinds with
  | none => .ok ()
  | some kinds =>
    if uri.kind ∈ kinds then .ok ()
    else
      .error (.invalidInput "expected_kinds"
        ("resolved target has kind " ++ quoted uri.kind.label ++
          ", which is not allowed"))

/-- What the providers claim, up to the first claim of a foreign scheme. -/
def collectClaims (input : String) :
    List (ProviderId × ProviderRuntime Caps) →
      Except Paging.ProviderError (List ResolvedTarget × List (ProviderId × String))
  | [] => .ok ([], [])
  | (id, runtime) :: rest =>
    match runtime.claimTarget input with
    | .notMine => collectClaims input rest
    | .resolved uri =>
      match validateClaimedUri runtime uri with
      | .error error => .error error
      | .ok () =>
        match collectClaims input rest with
        | .error error => .error error
        | .ok (resolved, invalid) => .ok (⟨id, uri⟩ :: resolved, invalid)
    | .invalid message =>
      match collectClaims input rest with
      | .error error => .error error
      | .ok (resolved, invalid) => .ok (resolved, (id, message) :: invalid)

def listed (ids : List ProviderId) : String :=
  ", ".intercalate (ids.map fun id => quoted id.value)

/-- What the claims of all providers amount to. -/
def settleClaims (expectedKinds : Option (List MediaKind))
    (resolved : List ResolvedTarget) (invalid : List (ProviderId × String)) :
    Except Paging.ProviderError (Option ResolvedTarget) :=
  if !resolved.isEmpty && !invalid.isEmpty then
    .error (.invalidInput "input"
      ("target claim conflict: providers " ++
        listed (resolved.map ResolvedTarget.provider) ++
        " resolved it, while " ++ listed (invalid.map Prod.fst) ++
        " rejected it as malformed"))
  else
    match resolved with
    | [] =>
      if invalid.isEmpty then .ok none
      else
        .error (.invalidInput "input"
          ("; ".intercalate (invalid.map fun claim =>
            "provider " ++ quoted claim.1.value ++ ": " ++ claim.2)))
    | [target] =>
      match enforceExpectedKind target.uri expectedKinds with
      | .error error => .error error
      | .ok () => .ok (some target)
    | targets =>
      .error (.invalidInput "input"
        ("target is ambiguous between providers " ++
          listed (targets.map ResolvedTarget.provider)))

/-- The target according to one provider. -/
def resolveWith (input : String) (id : ProviderId)
    (expectedKinds : Option (List MediaKind)) :
    Except Paging.ProviderError (Option ResolvedTarget) :=
  match registry.provider id with
  | .error error => .error error
  | .ok runtime =>
    match runtime.claimTarget input with
    | .notMine => .ok none
    | .resolved uri =>
      match validateClaimedUri runtime uri with
      | .error error => .error error
      | .ok () =>
        match enforceExpectedKind uri expectedKinds with
        | .error error => .error error
        | .ok () => .ok (some ⟨id, uri⟩)
    | .invalid message =>
      .error (.invalidInput "input"
        ("provider " ++ quoted id.value ++ " rejected target: " ++ message))

def resolveTarget (input : String) (providerId : Option ProviderId)
    (expectedKinds : Option (List MediaKind)) :
    Except Paging.ProviderError (Option ResolvedTarget) :=
  match providerId with
  | some id => registry.resolveWith input id expectedKinds
  | none =>
    match collectClaims input registry.providers.entries with
    | .error error => .error error
    | .ok (resolved, invalid) => settleClaims expectedKinds resolved invalid

end ProviderRegistry

structure ProviderDescriptor (Caps : Type) where
  id : ProviderId
  uriScheme : UriScheme
  displayName : String
  capabilities : Caps
  isDefault : Bool

structure ProviderCatalog (Caps : Type) where
  defaultProvider : Option ProviderId
  providers : List (ProviderDescriptor Caps)

namespace ProviderCatalog

/-- Both loops of `validate` over ids and schemes, with those seen before. -/
def checkDistinct : List (ProviderDescriptor Caps) → List ProviderId →
    List UriScheme → Except String Unit
  | [], _, _ => .ok ()
  | provider :: rest, ids, schemes =>
    if provider.id ∈ ids then
      .error ("provider catalog contains duplicate id " ++
        quoted provider.id.value)
    else if provider.uriScheme ∈ schemes then
      .error ("provider catalog contains duplicate URI scheme " ++
        quoted provider.uriScheme.label)
    else
      checkDistinct rest (provider.id :: ids) (provider.uriScheme :: schemes)

def validate (catalog : ProviderCatalog Caps) : Except String Unit :=
  match checkDistinct catalog.providers [] [] with
  | .error message => .error message
  | .ok () =>
    let marked := catalog.providers.filter ProviderDescriptor.isDefault
    match catalog.defaultProvider with
    | none =>
      if marked.isEmpty then .ok ()
      else .error "provider catalog marks a default without default_provider"
    | some default =>
      if marked.map ProviderDescriptor.id = [default] then .ok ()
      else
        .error ("provider catalog default " ++ quoted default.value ++
          " must identify exactly one marked provider")

end ProviderCatalog

def ProviderRegistry.catalog (registry : ProviderRegistry Caps) :
    ProviderCatalog Caps where
  defaultProvider := some registry.defaultId
  providers := registry.providers.entries.map fun entry =>
    { id := entry.1
      uriScheme := entry.2.uriScheme
      displayName := entry.2.displayName
      capabilities := entry.2.capabilities
      isDefault := decide (entry.1 = registry.defaultId) }

end Spotuify
