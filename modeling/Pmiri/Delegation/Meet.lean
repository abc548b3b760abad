import Mathlib.Data.Set.BooleanAlgebra
import Mathlib.Order.CompletePartialOrder
import Mathlib.Order.WithBot
import Pmiri.Delegation

/-!
# The meet of delegation scopes

An authority gives each key nothing at all, or a set of values. Authorities are
ordered key by key, and `intersect_authority` computes the greatest one below
every scope. It depends on which scopes there are, not on their order or number.
-/

namespace Pmiri

open Py

/-! ## Authorities -/

section Authority

open scoped Classical in
/-- Under each key that is there, the values that are granted. -/
noncomputable def authority {κ ν : Type*} (has : κ → Prop) (grants : κ → ν → Prop) : κ → WithBot (Set ν) :=
  fun key => if has key then ((({v | grants key v} : Set ν)) : WithBot (Set ν)) else ⊥

variable {κ ν : Type*} {has has' : κ → Prop} {grants grants' : κ → ν → Prop}

theorem le_authority {a : κ → WithBot (Set ν)} :
    a ≤ authority has grants ↔ ∀ key (s : Set ν), a key = s → has key ∧ ∀ v ∈ s, grants key v := by
  rw [Pi.le_def]
  refine forall_congr' fun key => ?_
  rw [authority]
  split
  · rename_i hkey
    simp only [WithBot.le_coe_iff]
    constructor
    · intro h s hs
      exact ⟨hkey, h s hs⟩
    · intro h s hs
      exact (h s hs).2
  · rename_i hkey
    simp only [hkey, false_and, imp_false, le_bot_iff]
    exact WithBot.eq_bot_iff_forall_ne.trans (forall_congr' fun s => ne_comm)

theorem authority_eq {key : κ} {s : Set ν} : authority has grants key = s ↔ has key ∧ {v | grants key v} = s := by
  rw [authority]
  split
  · rename_i hkey
    rw [WithBot.coe_inj]
    exact (and_iff_right hkey).symm
  · rename_i hkey
    simp [hkey]

theorem authority_le : authority has grants ≤ authority has' grants' ↔
    ∀ key, has key → has' key ∧ ∀ v, grants key v → grants' key v := by
  rw [le_authority]
  refine forall_congr' fun key => ?_
  simp only [authority_eq]
  constructor
  · intro h hkey
    exact h _ ⟨hkey, rfl⟩
  · intro h s hs
    obtain ⟨hkey, rfl⟩ := hs
    exact h hkey

/-- What has the keys that every member of a family has, with the values that every member grants, is their meet. -/
theorem isGLB_authority {ι : Type*} {members : ι → Prop} {hasOf : ι → κ → Prop} {grantsOf : ι → κ → ν → Prop}
    (hhas : ∀ key, has key ↔ ∀ i, members i → hasOf i key)
    (hgrants : ∀ key v, grants key v ↔ ∀ i, members i → grantsOf i key v) :
    IsGLB {a | ∃ i, members i ∧ a = authority (hasOf i) (grantsOf i)} (authority has grants) := by
  constructor
  · intro a ha
    obtain ⟨i, hi, rfl⟩ := ha
    rw [authority_le]
    intro key hkey
    exact ⟨(hhas key).mp hkey i hi, fun v hv => (hgrants key v).mp hv i hi⟩
  · intro a ha
    rw [le_authority]
    intro key s hs
    have hle : ∀ i, members i → hasOf i key ∧ ∀ v ∈ s, grantsOf i key v := by
      intro i hi
      exact le_authority.mp (ha ⟨i, hi, rfl⟩) key s hs
    refine ⟨(hhas key).mpr fun i hi => (hle i hi).1, ?_⟩
    intro v hv
    exact (hgrants key v).mpr fun i hi => (hle i hi).2 v hv

end Authority

/-! ## The intersection, by what each scope has -/

theorem sortedSet_congr {l l' : List String} (h : ∀ x, x ∈ l ↔ x ∈ l') : sortedSet l = sortedSet l' := by
  have hperm : l.dedup.Perm l'.dedup := (List.perm_ext_iff_of_nodup l.nodup_dedup l'.nodup_dedup).mpr fun x => by
    rw [List.mem_dedup, List.mem_dedup, h]
  have hsorted := ((List.perm_insertionSort (· ≤ ·) l.dedup).trans hperm).trans (List.perm_insertionSort (· ≤ ·) l'.dedup).symm
  exact hsorted.eq_of_pairwise' (List.pairwise_insertionSort _ _) (List.pairwise_insertionSort _ _)

/-- An intersection lists the common keys in order, and under each the common values. -/
theorem intersectAuthority_eq {scopes : List Scope} (hne : scopes ≠ []) :
    ∃ (keys : List String) (values : String → List String), intersectAuthority scopes = (sortedSet keys).map (fun key => (key, sortedSet (values key))) ∧
      (∀ key, key ∈ keys ↔ ∀ s ∈ scopes, key ∈ s.keys) ∧ ∀ key v, v ∈ values key ↔ ∀ s ∈ scopes, v ∈ s.granted key := by
  obtain ⟨first, rest, rfl⟩ := List.exists_cons_of_ne_nil hne
  have hk := keys_normalizedScope
  simp only [Scope.keys] at hk
  refine ⟨_, fun key => commonValues key (rest.map normalizedScope) (((normalizedScope first).lookup key).getD []), rfl, ?_, ?_⟩
  · intro key
    simp only [List.mem_filter, hk, List.all_map, List.all_eq_true, Function.comp_apply, List.contains_iff_mem,
      List.forall_mem_cons, Scope.keys]
  · intro key v
    rw [mem_commonValues, List.forall_mem_cons, List.forall_mem_map]
    exact and_congr mem_granted_normalizedScope (forall₂_congr fun s _ => mem_granted_normalizedScope)

/-- The same scopes, in whatever order and however often, have the same intersection. -/
theorem intersectAuthority_congr {scopes scopes' : List Scope} (hne : scopes ≠ []) (h : ∀ s, s ∈ scopes' ↔ s ∈ scopes) :
    intersectAuthority scopes' = intersectAuthority scopes := by
  obtain ⟨s, hs⟩ := List.exists_mem_of_ne_nil scopes hne
  have hne' : scopes' ≠ [] := List.ne_nil_of_mem ((h s).mpr hs)
  obtain ⟨keys, values, heq, hkeys, hvalues⟩ := intersectAuthority_eq hne
  obtain ⟨keys', values', heq', hkeys', hvalues'⟩ := intersectAuthority_eq hne'
  have hk : sortedSet keys' = sortedSet keys := sortedSet_congr fun key => by
    rw [hkeys, hkeys']
    simp only [h]
  have hv : ∀ key, sortedSet (values' key) = sortedSet (values key) := fun key => sortedSet_congr fun v => by
    rw [hvalues, hvalues']
    simp only [h]
  rw [heq, heq', hk]
  simp only [hv]

/-! ## Scopes as they are written -/

/-- `intersect_authority`, of scopes as they are written. -/
def intersectScopes (scopes : List DelegationScope) : Except Exc Scope := do
  let normalized ← scopes.mapM DelegationScope.read
  return intersectAuthority normalized

theorem intersectScopes_ok {scopes : List DelegationScope} {result : Scope} :
    intersectScopes scopes = .ok result ↔
      (∀ s ∈ scopes, s.Readable) ∧ result = intersectAuthority (scopes.map DelegationScope.scope) := by
  rw [intersectScopes, bind_ok]
  simp only [mapM_ok fun s t => DelegationScope.read_ok (s := s) (t := t)]
  constructor
  · rintro ⟨read, ⟨hreadable, rfl⟩, h⟩
    exact ⟨hreadable, (Except.ok.inj h).symm⟩
  · rintro ⟨hreadable, rfl⟩
    exact ⟨_, ⟨hreadable, rfl⟩, rfl⟩

namespace Scope

/-- A value belongs to a key. -/
def Holds (s : Scope) (key v : String) : Prop := ∃ values, (key, values) ∈ s ∧ v ∈ values

noncomputable def authority (s : Scope) : String → WithBot (Set String) := Pmiri.authority (· ∈ s.keys) s.Holds

end Scope

noncomputable def DelegationScope.authority (s : DelegationScope) : String → WithBot (Set String) :=
  Pmiri.authority s.HasDimension s.Grants

theorem holds_intersection {scopes : List DelegationScope} (hne : scopes ≠ []) {key v : String} :
    (intersectAuthority (scopes.map DelegationScope.scope)).Holds key v ↔ ∀ s ∈ scopes, s.Grants key v := by
  constructor
  · intro h
    obtain ⟨values, hmem, hv⟩ := h
    exact (mem_of_mem_delegations hmem v).mp hv
  · intro h
    have hshared : Shared scopes key := ⟨v, h⟩
    obtain ⟨⟨_, values⟩, hmem, rfl⟩ := List.mem_map.mp (mem_keys_of_delegations.mpr ⟨hne, hshared.common⟩)
    exact ⟨values, hmem, (mem_of_mem_delegations hmem v).mpr h⟩

/-- What one intersection has of another: it adds no key and no value. -/
def Scope.Narrows (narrower wider : Scope) : Prop :=
  (∀ key ∈ narrower.keys, key ∈ wider.keys) ∧ ∀ key v, narrower.Holds key v → wider.Holds key v

theorem intersectAuthority_narrows {scopes scopes' : List DelegationScope} (hne : scopes ≠ []) (hsub : scopes ⊆ scopes') :
    (intersectAuthority (scopes'.map DelegationScope.scope)).Narrows (intersectAuthority (scopes.map DelegationScope.scope)) := by
  obtain ⟨s, hs⟩ := List.exists_mem_of_ne_nil scopes hne
  have hne' : scopes' ≠ [] := List.ne_nil_of_mem (hsub hs)
  constructor
  · intro key hkey
    obtain ⟨-, hcommon⟩ := mem_keys_of_delegations.mp hkey
    exact mem_keys_of_delegations.mpr ⟨hne, fun s hs => hcommon s (hsub hs)⟩
  · intro key v hv
    exact (holds_intersection hne).mpr fun s hs => (holds_intersection hne').mp hv s (hsub hs)

/-- An intersection is the meet of its scopes. It has the keys that every scope has, and under each the values that every
scope has there; it is the same for the same scopes in another order or number, and further scopes only narrow it. -/
theorem intersectScopes_meet {scopes : List DelegationScope} (hne : scopes ≠ []) {result : Scope}
    (h : intersectScopes scopes = .ok result) :
    IsGLB {a | ∃ s, s ∈ scopes ∧ a = s.authority} result.authority ∧
      (∀ key v, result.Holds key v ↔ ∀ s ∈ scopes, s.Grants key v) ∧
      (∀ key, key ∈ result.keys ↔ ∀ s ∈ scopes, s.HasDimension key) ∧
      (∀ scopes', (∀ s, s ∈ scopes' ↔ s ∈ scopes) → intersectScopes scopes' = .ok result) ∧
      ∀ scopes' narrower, scopes ⊆ scopes' → intersectScopes scopes' = .ok narrower → narrower.Narrows result := by
  obtain ⟨hreadable, rfl⟩ := intersectScopes_ok.mp h
  have hkeys : ∀ key, key ∈ (intersectAuthority (scopes.map DelegationScope.scope)).keys ↔ ∀ s ∈ scopes, s.HasDimension key :=
    fun key => mem_keys_of_delegations.trans (and_iff_right hne)
  refine ⟨isGLB_authority hkeys fun key v => holds_intersection hne, fun key v => holds_intersection hne, hkeys, ?_, ?_⟩
  · intro scopes' hsame
    refine intersectScopes_ok.mpr ⟨fun s hs => hreadable s ((hsame s).mp hs), ?_⟩
    symm
    apply intersectAuthority_congr
    · rwa [ne_eq, List.map_eq_nil_iff]
    · intro s
      simp only [List.mem_map, hsame]
  · intro scopes' narrower hsub h'
    obtain ⟨-, rfl⟩ := intersectScopes_ok.mp h'
    exact intersectAuthority_narrows hne hsub

theorem intersectScopes_meet_example :
    intersectScopes [exampleDelegation "alpha", exampleDelegation "beta"] = .ok [("operation", ["read"]), ("project", [])] ∧
      IsGLB {a | ∃ s, s ∈ [exampleDelegation "alpha", exampleDelegation "beta"] ∧ a = s.authority}
        (Scope.authority [("operation", ["read"]), ("project", [])]) :=
  ⟨rfl, (intersectScopes_meet (by simp) rfl).1⟩

/-- The authority of a chain is the intersection of its scopes, so a chain with further scopes has no wider authority. -/
theorem AuthorizationSubjectChain.deriveFrom_narrows {service attestation operation purpose : String}
    {scopes scopes' : List DelegationScope} {human workload human' workload' : Option String} {grants grants' : List String}
    {chain chain' : AuthorizationSubjectChain}
    (h : deriveFrom service attestation operation purpose scopes human workload grants = .ok chain)
    (h' : deriveFrom service attestation operation purpose scopes' human' workload' grants' = .ok chain') (hsub : scopes ⊆ scopes') :
    chain'.effectiveAuthority.Narrows chain.effectiveAuthority := by
  obtain ⟨-, -, hne, -, rfl⟩ := deriveFrom_ok.mp h
  obtain ⟨-, -, -, -, rfl⟩ := deriveFrom_ok.mp h'
  exact intersectAuthority_narrows hne hsub

end Pmiri
