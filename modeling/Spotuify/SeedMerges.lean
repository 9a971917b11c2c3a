import Mathlib.Data.List.Dedup
import Mathlib.Data.List.Sort
import Mathlib.Data.Set.Lattice
import Mathlib.Data.String.Basic
import Mathlib.Order.CompletePartialOrder
import Mathlib.Order.ConditionallyCompleteLattice.Basic
import Mathlib.Order.WithBot
import Spotuify.RecoveryIntent
import Spotuify.Upserts

/-!
# Merging reconciliation seeds

Recovery collects one seed after the other into a list that is searched by
provider and target.  Such a list is a table filled by upserts, and the puts of
one provider and target commute, so what is left does not depend on the order
of the seeds: one seed for each provider and target, asking for what any of
its seeds asked for.
-/

namespace Spotuify

theorem mem_sortedResources {resources : List String} {uri : String} :
    uri ∈ sortedResources resources ↔ uri ∈ resources := by
  rw [sortedResources, List.mem_dedup, List.mem_insertionSort]

theorem nodup_sortedResources (resources : List String) :
    (sortedResources resources).Nodup :=
  List.nodup_dedup _

theorem sortedResources_congr {first second : List String}
    (same : ∀ uri, uri ∈ first ↔ uri ∈ second) :
    sortedResources first = sortedResources second := by
  have ascending : ∀ resources : List String,
      (sortedResources resources).Pairwise (· ≤ ·) := fun resources =>
    (List.pairwise_insertionSort (· ≤ ·) resources).sublist
      (List.dedup_sublist _)
  have permuted : (sortedResources first).Perm (sortedResources second) := by
    rw [List.perm_ext_iff_of_nodup (nodup_sortedResources first)
      (nodup_sortedResources second)]
    intro uri
    rw [mem_sortedResources, mem_sortedResources, same]
  exact permuted.eq_of_pairwise (fun _ _ _ _ => le_antisymm)
    (ascending first) (ascending second)

namespace ReconciliationSeed

/-- Seeds are merged by provider and target. -/
def domain (seed : ReconciliationSeed) : ProviderId × SyncTarget :=
  (seed.provider, seed.target)

/-- What a seed asks to reconcile: some resources, or a whole domain. -/
def coverage (seed : ReconciliationSeed) : WithTop (Set String) :=
  match seed.scope with
  | .targeted => ((↑) : Set String → WithTop (Set String))
      {uri | uri ∈ seed.resourceUris}
  | .fullDomain => ⊤

/-- The two branches of `merge_reconciliation_seed`. -/
def merging : Upsert ReconciliationSeed ReconciliationSeed where
  insert candidate :=
    { candidate with resourceUris := sortedResources candidate.resourceUris }
  update existing candidate :=
    if existing.scope = .fullDomain ∨ candidate.scope = .fullDomain then
      { existing with scope := .fullDomain, resourceUris := [] }
    else
      { existing with
        resourceUris := sortedResources
          (existing.resourceUris ++ candidate.resourceUris) }

end ReconciliationSeed

open ReconciliationSeed

theorem mergeReconciliationSeed_eq (seeds : List ReconciliationSeed)
    (candidate : ReconciliationSeed) :
    mergeReconciliationSeed seeds candidate =
      merging.putRow domain seeds (candidate.domain, candidate) := by
  induction seeds with
  | nil => rfl
  | cons existing rest inductionHypothesis =>
    rw [mergeReconciliationSeed, Upsert.putRow, inductionHypothesis]
    by_cases same : existing.domain = candidate.domain
    · obtain ⟨provider, target⟩ := Prod.mk.inj same
      rw [if_pos ⟨provider, target⟩, if_pos same]
      exact (apply_ite (· :: rest) _ _ _).symm
    · rw [if_neg same, if_neg]
      rintro ⟨provider, target⟩
      exact same (Prod.ext provider target)

namespace ReconciliationSeed

theorem domain_update (existing candidate : ReconciliationSeed) :
    (merging.update existing candidate).domain = existing.domain := by
  simp only [merging]
  split <;> rfl

theorem keepsDomains (seeds : List ReconciliationSeed) :
    merging.KeepsKeys domain (seeds.map fun seed => (seed.domain, seed)) where
  insert entry member := by
    obtain ⟨seed, -, rfl⟩ := List.mem_map.mp member
    rfl
  update := domain_update

/-- A full domain absorbs all resources, and resources are kept sorted. -/
theorem update_comm (existing first second : ReconciliationSeed) :
    merging.update (merging.update existing first) second =
      merging.update (merging.update existing second) first := by
  obtain ⟨provider, target, scope, resourceUris⟩ := existing
  obtain ⟨firstProvider, firstTarget, firstScope, firstUris⟩ := first
  obtain ⟨secondProvider, secondTarget, secondScope, secondUris⟩ := second
  have swapped : sortedResources
        (sortedResources (resourceUris ++ firstUris) ++ secondUris) =
      sortedResources
        (sortedResources (resourceUris ++ secondUris) ++ firstUris) := by
    apply sortedResources_congr
    intro uri
    simp only [List.mem_append, mem_sortedResources]
    tauto
  cases scope <;> cases firstScope <;> cases secondScope <;>
    simp [merging, swapped]

theorem update_insert_comm {first second : ReconciliationSeed}
    (same : first.domain = second.domain) :
    merging.update (merging.insert first) second =
      merging.update (merging.insert second) first := by
  obtain ⟨provider, target, scope, resourceUris⟩ := first
  obtain ⟨otherProvider, otherTarget, otherScope, otherUris⟩ := second
  obtain ⟨rfl, rfl⟩ := Prod.mk.inj same
  have swapped : sortedResources (sortedResources resourceUris ++ otherUris) =
      sortedResources (sortedResources otherUris ++ resourceUris) := by
    apply sortedResources_congr
    intro uri
    simp only [List.mem_append, mem_sortedResources]
    tauto
  cases scope <;> cases otherScope <;> simp [merging, swapped]

theorem put_comm {first second : ReconciliationSeed}
    (same : first.domain = second.domain)
    (stored : Option ReconciliationSeed) :
    merging.put (merging.put stored first) second =
      merging.put (merging.put stored second) first := by
  cases stored with
  | none => exact congrArg some (update_insert_comm same)
  | some existing => exact congrArg some (update_comm existing first second)

theorem coverage_insert (candidate : ReconciliationSeed) :
    (merging.insert candidate).coverage = candidate.coverage := by
  unfold coverage merging
  cases candidate.scope <;> simp [mem_sortedResources]

theorem coverage_update (existing candidate : ReconciliationSeed) :
    (merging.update existing candidate).coverage =
      existing.coverage ⊔ candidate.coverage := by
  obtain ⟨provider, target, scope, resourceUris⟩ := existing
  obtain ⟨otherProvider, otherTarget, otherScope, otherUris⟩ := candidate
  have joined : {uri | uri ∈ sortedResources (resourceUris ++ otherUris)} =
      {uri | uri ∈ resourceUris} ∪ {uri | uri ∈ otherUris} := by
    ext uri
    simp [mem_sortedResources]
  cases scope <;> cases otherScope <;> simp [merging, coverage]
  rw [joined]
  rfl

/-- Merged seeds ask for what each of them asks for, and for nothing else. -/
theorem coverage_foldl_update_le (existing : ReconciliationSeed)
    (candidates : List ReconciliationSeed) (bound : WithTop (Set String)) :
    (candidates.foldl merging.update existing).coverage ≤ bound ↔
      existing.coverage ≤ bound ∧
        ∀ candidate ∈ candidates, candidate.coverage ≤ bound := by
  induction candidates generalizing existing with
  | nil => simp
  | cons candidate candidates inductionHypothesis =>
    rw [List.foldl_cons, inductionHypothesis, coverage_update, sup_le_iff,
      List.forall_mem_cons, and_assoc]

theorem nodup_update (existing candidate : ReconciliationSeed) :
    (merging.update existing candidate).resourceUris.Nodup := by
  simp only [merging]
  split
  · exact List.nodup_nil
  · exact nodup_sortedResources _

theorem nodup_foldl_update {existing : ReconciliationSeed}
    (distinct : existing.resourceUris.Nodup)
    (candidates : List ReconciliationSeed) :
    (candidates.foldl merging.update existing).resourceUris.Nodup := by
  induction candidates generalizing existing with
  | nil => exact distinct
  | cons candidate candidates inductionHypothesis =>
    exact inductionHypothesis (nodup_update existing candidate)

end ReconciliationSeed

/-- Seeds merged one after the other, as recovery merges them. -/
def mergeReconciliationSeeds (seeds : List ReconciliationSeed) :
    List ReconciliationSeed :=
  seeds.foldl mergeReconciliationSeed []

/-- The seeds of each domain are one seed that asks for their union, whatever
their order. -/
structure MergesWithoutLoss (seeds merged : List ReconciliationSeed) : Prop where
  distinct : (merged.map domain).Nodup
  domains : ∀ asked, asked ∈ merged.map domain ↔ asked ∈ seeds.map domain
  coverage : ∀ seed ∈ merged,
    IsLUB {asked | ∃ other ∈ seeds,
      other.domain = seed.domain ∧ other.coverage = asked} seed.coverage
  resources : ∀ seed ∈ merged, seed.resourceUris.Nodup
  anyOrder : ∀ others, seeds.Perm others →
    merged.Perm (mergeReconciliationSeeds others)

theorem mergeReconciliationSeeds_eq (seeds : List ReconciliationSeed) :
    mergeReconciliationSeeds seeds =
      merging.putRows domain (seeds.map fun seed => (seed.domain, seed)) := by
  rw [mergeReconciliationSeeds, Upsert.putRows, List.foldl_map]
  congr 1
  funext merged candidate
  exact mergeReconciliationSeed_eq merged candidate

theorem mem_mergeReconciliationSeeds {seeds : List ReconciliationSeed}
    {seed : ReconciliationSeed} :
    seed ∈ mergeReconciliationSeeds seeds ↔
      ∃ first others,
        seeds.filter (fun other => other.domain = seed.domain) =
          first :: others ∧
        others.foldl merging.update (merging.insert first) = seed := by
  have values : Upsert.valuesOf seed.domain
      (seeds.map fun other => (other.domain, other)) =
        seeds.filter fun other => other.domain = seed.domain := by
    rw [Upsert.valuesOf, List.filter_map, List.map_map]
    exact List.map_id _
  rw [mergeReconciliationSeeds_eq, Upsert.mem_putRows (keepsDomains seeds),
    values]
  cases seeds.filter fun other => other.domain = seed.domain with
  | nil => simp
  | cons first others =>
    rw [Upsert.foldl_put_none, Option.some.injEq]
    simp

theorem nodup_domains (seeds : List ReconciliationSeed) :
    ((mergeReconciliationSeeds seeds).map domain).Nodup := by
  rw [mergeReconciliationSeeds_eq]
  exact Upsert.nodup_putRows (keepsDomains seeds)

theorem mem_domains {seeds : List ReconciliationSeed}
    {asked : ProviderId × SyncTarget} :
    asked ∈ (mergeReconciliationSeeds seeds).map domain ↔
      asked ∈ seeds.map domain := by
  rw [mergeReconciliationSeeds_eq,
    Upsert.mem_putRows_keys (keepsDomains seeds), List.map_map]
  rfl

theorem isLUB_coverage {seeds : List ReconciliationSeed}
    {seed : ReconciliationSeed} (member : seed ∈ mergeReconciliationSeeds seeds) :
    IsLUB {asked | ∃ other ∈ seeds,
      other.domain = seed.domain ∧ other.coverage = asked} seed.coverage := by
  obtain ⟨first, others, same, merges⟩ := mem_mergeReconciliationSeeds.mp member
  rw [isLUB_iff_le_iff]
  intro bound
  have all : (first.coverage ≤ bound ∧
      ∀ other ∈ others, other.coverage ≤ bound) ↔
      ∀ other ∈ first :: others, other.coverage ≤ bound := by
    rw [List.forall_mem_cons]
  rw [← merges, coverage_foldl_update_le, coverage_insert, merges, all, ← same]
  simp only [List.mem_filter, decide_eq_true_eq, mem_upperBounds,
    Set.mem_ofPred_eq, forall_exists_index, and_imp]
  constructor
  · rintro covered asked other isSeed own rfl
    exact covered other isSeed own
  · intro covered other isSeed own
    exact covered other.coverage other isSeed own rfl

theorem mergeReconciliationSeeds_perm {seeds others : List ReconciliationSeed}
    (same : seeds.Perm others) :
    (mergeReconciliationSeeds seeds).Perm (mergeReconciliationSeeds others) := by
  rw [mergeReconciliationSeeds_eq, mergeReconciliationSeeds_eq]
  apply Upsert.putRows_perm (keepsDomains seeds) _ (same.map _)
  intro first isFirst second isSecond own stored
  obtain ⟨first, -, rfl⟩ := List.mem_map.mp isFirst
  obtain ⟨second, -, rfl⟩ := List.mem_map.mp isSecond
  exact put_comm own stored

/-- Merging loses nothing, for any seeds in any order. -/
theorem mergeReconciliationSeeds_lossless (seeds : List ReconciliationSeed) :
    MergesWithoutLoss seeds (mergeReconciliationSeeds seeds) where
  distinct := nodup_domains seeds
  domains _ := mem_domains
  coverage _ := isLUB_coverage
  resources seed member := by
    obtain ⟨first, others, -, rfl⟩ := mem_mergeReconciliationSeeds.mp member
    exact nodup_foldl_update (nodup_sortedResources first.resourceUris) others
  anyOrder _ := mergeReconciliationSeeds_perm

namespace ProviderTopology

variable {topology : ProviderTopology}

theorem operationSeeds_eq_foldl {start merged : List ReconciliationSeed}
    {operations : List Operation}
    (derived : topology.operationSeeds start operations = .ok merged) :
    ∃ found : List ReconciliationSeed,
      merged = found.foldl mergeReconciliationSeed start ∧
      ∀ seed, seed ∈ found ↔ ∃ operation ∈ operations,
        topology.operationReconciliationSeed operation = .ok (some seed) := by
  induction operations generalizing start with
  | nil =>
    cases derived
    exact ⟨[], rfl, by simp⟩
  | cons operation operations inductionHypothesis =>
    rw [operationSeeds] at derived
    cases asks : topology.operationReconciliationSeed operation with
    | error error =>
      rw [asks] at derived
      cases derived
    | ok asked =>
      rw [asks] at derived
      cases asked with
      | none =>
        obtain ⟨found, merges, asksExactly⟩ := inductionHypothesis derived
        refine ⟨found, merges, fun seed => ?_⟩
        rw [asksExactly, List.exists_mem_cons_iff, asks]
        simp
      | some asked =>
        obtain ⟨found, merges, asksExactly⟩ := inductionHypothesis derived
        refine ⟨asked :: found, merges, fun seed => ?_⟩
        rw [List.mem_cons, asksExactly, List.exists_mem_cons_iff, asks]
        simp [eq_comm]

/-- What recovery asks for covers every operation that was acted on. -/
theorem operationSeeds_covers {merged : List ReconciliationSeed}
    {operations : List Operation} {operation : Operation}
    {seed : ReconciliationSeed}
    (derived : topology.operationSeeds [] operations = .ok merged)
    (member : operation ∈ operations)
    (asks : topology.operationReconciliationSeed operation = .ok (some seed)) :
    ∃ asked ∈ merged, asked.domain = seed.domain ∧
      seed.coverage ≤ asked.coverage := by
  obtain ⟨found, rfl, asksExactly⟩ := operationSeeds_eq_foldl derived
  have isFound := (asksExactly seed).mpr ⟨operation, member, asks⟩
  obtain ⟨asked, isAsked, own⟩ := List.mem_map.mp
    (mem_domains.mpr (List.mem_map_of_mem (f := domain) isFound))
  exact ⟨asked, isAsked, own,
    (isLUB_coverage isAsked).1 ⟨seed, isFound, own.symm, rfl⟩⟩

end ProviderTopology

end Spotuify
