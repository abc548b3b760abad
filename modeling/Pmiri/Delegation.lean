import Pmiri.Security
import Pmiri.Python.Comprehension

/-!
# Delegation scopes

`AuthorizationSubjectChain.derive` for every list of delegation scopes, as
its callers write them: `_normalized_scope` refuses a bare text where a
collection belongs, and `intersect_authority` keeps under each common key what
every scope grants. A chain is refused when nothing at all is left; an empty
dimension beside a granted one is not.
-/

namespace Pmiri

open Py

/-! ## What an intersection grants -/

namespace Scope

/-- The values a scope grants under `key`. -/
def granted (s : Scope) (key : String) : List String := (s.lookup key).getD []

def keys (s : Scope) : List String := s.map Prod.fst

end Scope

theorem keys_normalizedScope (s : Scope) : Scope.keys (normalizedScope s) = s.keys := by
  simp [normalizedScope, Scope.keys, Function.comp_def]

theorem lookup_normalizedScope (s : Scope) (key : String) :
    (normalizedScope s).lookup key = (s.lookup key).map sortedSet := by
  induction s with
  | nil => rfl
  | cons p s ih =>
    rw [show normalizedScope (p :: s) = (p.1, sortedSet p.2) :: normalizedScope s from rfl, List.lookup_cons,
      List.lookup_cons, ih]
    split <;> rfl

theorem mem_granted_normalizedScope {s : Scope} {key v : String} :
    v ∈ (normalizedScope s).granted key ↔ v ∈ s.granted key := by
  rw [Scope.granted, Scope.granted, lookup_normalizedScope]
  cases s.lookup key with
  | none => rfl
  | some l => exact mem_sortedSet

theorem mem_commonValues {key v : String} {scopes : List Scope} {first : List String} :
    v ∈ commonValues key scopes first ↔ v ∈ first ∧ ∀ s ∈ scopes, v ∈ s.granted key := by
  simp [commonValues, Scope.granted]

/-- The keys of an intersection are the keys that every scope has. -/
theorem mem_keys_intersectAuthority {scopes : List Scope} {key : String} :
    key ∈ (intersectAuthority scopes).keys ↔ scopes ≠ [] ∧ ∀ s ∈ scopes, key ∈ s.keys := by
  cases scopes with
  | nil => simp [intersectAuthority, Scope.keys]
  | cons s rest =>
    have hk := keys_normalizedScope
    simp only [Scope.keys] at hk
    simp only [intersectAuthority, List.map_cons, Scope.keys, List.map_map, Function.comp_def, List.map_id', mem_sortedSet,
      List.mem_filter, hk, List.all_map, List.all_eq_true, List.contains_iff_mem, ne_eq, reduceCtorEq, not_false_eq_true,
      true_and, List.forall_mem_cons]

/-- What an intersection keeps under a key is what every scope grants there. -/
theorem mem_of_mem_intersectAuthority {scopes : List Scope} {key : String} {vs : List String}
    (h : (key, vs) ∈ intersectAuthority scopes) (v : String) : v ∈ vs ↔ ∀ s ∈ scopes, v ∈ s.granted key := by
  cases scopes with
  | nil => cases h
  | cons s rest =>
    simp only [intersectAuthority, List.map_cons, List.mem_map, Prod.mk.injEq] at h
    obtain ⟨key', -, rfl, rfl⟩ := h
    rw [mem_sortedSet, mem_commonValues, List.forall_mem_cons]
    refine and_congr mem_granted_normalizedScope ?_
    simp only [List.forall_mem_map, mem_granted_normalizedScope]

/-! ## Scopes as they are written -/

/-- What a delegation scope gives under one key: a collection of values, or a
bare text. -/
inductive Grant
  | text (s : String)
  | values (l : List String)
deriving DecidableEq

def Grant.collected : Grant → List String
  | .text _ => []
  | .values l => l

structure DelegationScope where
  items : List (String × Grant)
  keys_nodup : (items.map Prod.fst).Nodup

namespace DelegationScope

/-- `_normalized_scope`, one item; sorting is left to `intersectAuthority`. -/
def readItem : String × Grant → Except Exc (String × List String)
  | (_, .text _) => .error (securityContractViolation "authority_scope_must_be_array")
  | (key, .values l) => .ok (key, l)

def read (s : DelegationScope) : Except Exc Scope := s.items.mapM readItem

def HasDimension (s : DelegationScope) (dim : String) : Prop := dim ∈ s.items.map Prod.fst

def Grants (s : DelegationScope) (dim v : String) : Prop := ∃ l, (dim, .values l) ∈ s.items ∧ v ∈ l

/-- Every key has a collection. -/
def Readable (s : DelegationScope) : Prop := ∀ p ∈ s.items, ∃ l, p.2 = .values l

def scope (s : DelegationScope) : Scope := s.items.map fun p => (p.1, p.2.collected)

theorem readItem_ok {p : String × Grant} {q : String × List String} :
    readItem p = .ok q ↔ (∃ l, p.2 = .values l) ∧ q = (p.1, p.2.collected) := by
  obtain ⟨key, _ | l⟩ := p
  · simp [readItem]
  · simp [readItem, Grant.collected, eq_comm]

theorem read_ok {s : DelegationScope} {t : Scope} : s.read = .ok t ↔ s.Readable ∧ t = s.scope :=
  mapM_ok fun _ _ => readItem_ok

theorem keys_scope (s : DelegationScope) : s.scope.keys = s.items.map Prod.fst := by
  simp [scope, Scope.keys, Function.comp_def]

theorem granted_scope {s : DelegationScope} {dim v : String} : v ∈ s.scope.granted dim ↔ s.Grants dim v := by
  obtain ⟨items, hn⟩ := s
  simp only [scope, Scope.granted, Grants]
  induction items with
  | nil => simp
  | cons p items ih =>
    obtain ⟨key, g⟩ := p
    rw [List.map_cons, List.nodup_cons] at hn
    rw [List.map_cons, List.lookup_cons]
    by_cases hkey : dim = key
    · subst hkey
      have hrest : ∀ g', (dim, g') ∉ items := fun g' hm => hn.1 (List.mem_map.mpr ⟨_, hm, rfl⟩)
      cases g with
      | text t => simp [Grant.collected, hrest]
      | values l => simp [Grant.collected, hrest]
    · rw [beq_eq_false_iff_ne.mpr hkey, ih hn.2]
      simp [hkey]

end DelegationScope

namespace AuthorizationSubjectChain

/-- `derive` on scopes as they are written: the references are looked at
before any scope is read. -/
def deriveFrom (servicePrincipalRef attestationRef operationRef purposeBindingRef : String)
    (scopes : List DelegationScope) (humanPrincipalRef workloadPrincipalRef : Option String)
    (delegationGrantRefs : List String) : Except Exc AuthorizationSubjectChain := do
  raiseIf (!([servicePrincipalRef, attestationRef, operationRef, purposeBindingRef].all (· != "")))
    (securityContractViolation "subject_chain_required_component_missing")
  let read ← scopes.mapM DelegationScope.read
  derive servicePrincipalRef attestationRef operationRef purposeBindingRef read humanPrincipalRef workloadPrincipalRef
    delegationGrantRefs

end AuthorizationSubjectChain

/-! ## Authority in every dimension -/

/-- Every scope has the dimension. -/
def Common (scopes : List DelegationScope) (dim : String) : Prop := ∀ s ∈ scopes, s.HasDimension dim

/-- Some value of the dimension is granted by every scope. -/
def Shared (scopes : List DelegationScope) (dim : String) : Prop := ∃ v, ∀ s ∈ scopes, s.Grants dim v

theorem Shared.common {scopes : List DelegationScope} {dim : String} (h : Shared scopes dim) : Common scopes dim := by
  obtain ⟨v, hv⟩ := h
  intro s hs
  obtain ⟨l, hl, -⟩ := hv s hs
  exact List.mem_map.mpr ⟨_, hl, rfl⟩

theorem mem_keys_of_delegations {scopes : List DelegationScope} {dim : String} :
    dim ∈ (intersectAuthority (scopes.map DelegationScope.scope)).keys ↔ scopes ≠ [] ∧ Common scopes dim := by
  rw [mem_keys_intersectAuthority, List.forall_mem_map, ne_eq, List.map_eq_nil_iff]
  simp only [DelegationScope.keys_scope]
  rfl

theorem mem_of_mem_delegations {scopes : List DelegationScope} {dim : String} {vs : List String}
    (h : (dim, vs) ∈ intersectAuthority (scopes.map DelegationScope.scope)) (v : String) :
    v ∈ vs ↔ ∀ s ∈ scopes, s.Grants dim v := by
  rw [mem_of_mem_intersectAuthority h, List.forall_mem_map]
  simp only [DelegationScope.granted_scope]

/-- A dimension keeps a value where every scope grants it. -/
theorem shared_iff_ne_nil {scopes : List DelegationScope} {dim : String} {vs : List String}
    (h : (dim, vs) ∈ intersectAuthority (scopes.map DelegationScope.scope)) : vs ≠ [] ↔ Shared scopes dim := by
  have hmem : (∃ v, v ∈ vs) ↔ Shared scopes dim := exists_congr fun v => mem_of_mem_delegations h v
  rw [← hmem]
  exact ⟨List.exists_mem_of_ne_nil vs, fun ⟨_, hv⟩ => List.ne_nil_of_mem hv⟩

theorem exists_granted_iff {scopes : List DelegationScope} (hs : scopes ≠ []) :
    (∃ dim vs, (dim, vs) ∈ intersectAuthority (scopes.map DelegationScope.scope) ∧ vs ≠ []) ↔ ∃ dim, Shared scopes dim := by
  constructor
  · rintro ⟨dim, vs, hmem, hne⟩
    exact ⟨dim, (shared_iff_ne_nil hmem).mp hne⟩
  · rintro ⟨dim, hshared⟩
    obtain ⟨⟨_, vs⟩, hmem, rfl⟩ := List.mem_map.mp (mem_keys_of_delegations.mpr ⟨hs, hshared.common⟩)
    exact ⟨_, vs, hmem, (shared_iff_ne_nil hmem).mpr hshared⟩

namespace AuthorizationSubjectChain

/-- The dimensions of the chain's authority are those common to all scopes,
and each of them has values, every one granted by every scope. -/
def AuthoritativeFor (chain : AuthorizationSubjectChain) (scopes : List DelegationScope) : Prop :=
  ∀ dim, (dim ∈ chain.effectiveAuthority.keys ↔ Common scopes dim) ∧
    ∀ values, (dim, values) ∈ chain.effectiveAuthority → values ≠ [] ∧ ∀ v ∈ values, ∀ s ∈ scopes, s.Grants dim v

/-- Every component that a chain cannot do without is there. -/
def Complete (servicePrincipalRef attestationRef operationRef purposeBindingRef : String) : Prop :=
  servicePrincipalRef ≠ "" ∧ attestationRef ≠ "" ∧ operationRef ≠ "" ∧ purposeBindingRef ≠ ""

section

variable {servicePrincipalRef attestationRef operationRef purposeBindingRef : String}
variable {humanPrincipalRef workloadPrincipalRef : Option String} {delegationGrantRefs : List String}

theorem derive_ok {scopes : List Scope} {chain : AuthorizationSubjectChain} :
    derive servicePrincipalRef attestationRef operationRef purposeBindingRef scopes humanPrincipalRef
        workloadPrincipalRef delegationGrantRefs = .ok chain ↔
      Complete servicePrincipalRef attestationRef operationRef purposeBindingRef ∧
      (∃ dim vs, (dim, vs) ∈ intersectAuthority scopes ∧ vs ≠ []) ∧
      chain = ⟨servicePrincipalRef, attestationRef, operationRef, purposeBindingRef, intersectAuthority scopes,
        humanPrincipalRef, workloadPrincipalRef, sortedSet delegationGrantRefs⟩ := by
  have hcomplete : (!([servicePrincipalRef, attestationRef, operationRef, purposeBindingRef].all (· != ""))) = false ↔
      Complete servicePrincipalRef attestationRef operationRef purposeBindingRef := by
    simp [Complete]
  have hany : ((intersectAuthority scopes).isEmpty || !(intersectAuthority scopes).any (fun p => !p.2.isEmpty)) = false ↔
      ∃ dim vs, (dim, vs) ∈ intersectAuthority scopes ∧ vs ≠ [] := by
    simp only [Bool.or_eq_false_iff, Bool.not_eq_false', List.any_eq_true, Prod.exists, Bool.not_eq_true',
      List.isEmpty_eq_false_iff]
    refine and_iff_right_of_imp ?_
    rintro ⟨dim, vs, hmem, -⟩
    exact List.ne_nil_of_mem hmem
  rw [derive, seq_ok, raiseIf_ok, hcomplete, seq_ok, raiseIf_ok, hany]
  exact and_congr_right' (and_congr_right' ⟨fun h => (Except.ok.inj h).symm, fun h => congrArg Except.ok h.symm⟩)

/-- A chain is derived where its components are there, every scope gives
collections and something is left of their intersection. -/
theorem deriveFrom_ok {scopes : List DelegationScope} {chain : AuthorizationSubjectChain} :
    deriveFrom servicePrincipalRef attestationRef operationRef purposeBindingRef scopes humanPrincipalRef
        workloadPrincipalRef delegationGrantRefs = .ok chain ↔
      Complete servicePrincipalRef attestationRef operationRef purposeBindingRef ∧
      (∀ s ∈ scopes, s.Readable) ∧ scopes ≠ [] ∧ (∃ dim, Shared scopes dim) ∧
      chain = ⟨servicePrincipalRef, attestationRef, operationRef, purposeBindingRef,
        intersectAuthority (scopes.map DelegationScope.scope), humanPrincipalRef, workloadPrincipalRef,
        sortedSet delegationGrantRefs⟩ := by
  rw [deriveFrom, seq_ok, bind_ok, raiseIf_ok]
  simp only [mapM_ok fun s t => DelegationScope.read_ok (s := s) (t := t), derive_ok]
  constructor
  · rintro ⟨-, _, ⟨hreadable, rfl⟩, hcomplete, hgranted, rfl⟩
    have hne : scopes ≠ [] := by
      rintro rfl
      obtain ⟨dim, vs, hmem, -⟩ := hgranted
      cases hmem
    exact ⟨hcomplete, hreadable, hne, (exists_granted_iff hne).mp hgranted, rfl⟩
  · rintro ⟨hcomplete, hreadable, hne, hshared, rfl⟩
    obtain ⟨h₁, h₂, h₃, h₄⟩ := hcomplete
    exact ⟨by simp [h₁, h₂, h₃, h₄], _, ⟨hreadable, rfl⟩, ⟨h₁, h₂, h₃, h₄⟩, (exists_granted_iff hne).mpr hshared, rfl⟩

/-- Where a chain is derived, its authority has a value in every dimension
exactly if every common dimension is shared. -/
theorem authoritativeFor_iff {scopes : List DelegationScope} {chain : AuthorizationSubjectChain}
    (h : deriveFrom servicePrincipalRef attestationRef operationRef purposeBindingRef scopes humanPrincipalRef
      workloadPrincipalRef delegationGrantRefs = .ok chain) :
    chain.AuthoritativeFor scopes ↔ ∀ dim, Common scopes dim → Shared scopes dim := by
  obtain ⟨-, -, hne, -, rfl⟩ := deriveFrom_ok.mp h
  constructor
  · intro hchain dim hdim
    obtain ⟨⟨_, vs⟩, hmem, rfl⟩ := List.mem_map.mp (mem_keys_of_delegations.mpr ⟨hne, hdim⟩)
    exact (shared_iff_ne_nil hmem).mp (((hchain _).2 vs hmem).1)
  · intro hall dim
    refine ⟨mem_keys_of_delegations.trans (and_iff_right hne), fun values hmem => ⟨?_, ?_⟩⟩
    · have hdim := (mem_keys_of_delegations.mp (List.mem_map.mpr ⟨_, hmem, rfl⟩)).2
      exact (shared_iff_ne_nil hmem).mpr (hall dim hdim)
    · exact fun v hv => (mem_of_mem_delegations hmem v).mp hv

/-- `derive` gives authority in every dimension, and refuses scopes that are
disjoint in one, exactly where its scopes share a value in every common
dimension as soon as they share one at all. -/
theorem authorityEverywhere_iff (servicePrincipalRef attestationRef operationRef purposeBindingRef : String)
    (scopes : List DelegationScope) (humanPrincipalRef workloadPrincipalRef : Option String)
    (delegationGrantRefs : List String) :
    ((∀ chain, deriveFrom servicePrincipalRef attestationRef operationRef purposeBindingRef scopes humanPrincipalRef
          workloadPrincipalRef delegationGrantRefs = .ok chain → chain.AuthoritativeFor scopes) ∧
      ∀ dim, Common scopes dim → ¬ Shared scopes dim → ∀ chain,
        deriveFrom servicePrincipalRef attestationRef operationRef purposeBindingRef scopes humanPrincipalRef
          workloadPrincipalRef delegationGrantRefs ≠ .ok chain) ↔
    (Complete servicePrincipalRef attestationRef operationRef purposeBindingRef → (∀ s ∈ scopes, s.Readable) →
      ∀ dim dim', Shared scopes dim → Common scopes dim' → Shared scopes dim') := by
  constructor
  · rintro ⟨hchain, -⟩ hcomplete hreadable dim dim' hshared hcommon
    rcases scopes with _ | ⟨s, rest⟩
    · exact ⟨"", fun s hs => (by cases hs)⟩
    · have hok : deriveFrom servicePrincipalRef attestationRef operationRef purposeBindingRef (s :: rest)
          humanPrincipalRef workloadPrincipalRef delegationGrantRefs = .ok _ :=
        deriveFrom_ok.mpr ⟨hcomplete, hreadable, by simp, ⟨dim, hshared⟩, rfl⟩
      exact (authoritativeFor_iff hok).mp (hchain _ hok) dim' hcommon
  · intro hcond
    have hall : ∀ chain, deriveFrom servicePrincipalRef attestationRef operationRef purposeBindingRef scopes
        humanPrincipalRef workloadPrincipalRef delegationGrantRefs = .ok chain →
        ∀ dim, Common scopes dim → Shared scopes dim := by
      intro chain hok dim' hcommon
      obtain ⟨hcomplete, hreadable, -, ⟨dim, hshared⟩, -⟩ := deriveFrom_ok.mp hok
      exact hcond hcomplete hreadable dim dim' hshared hcommon
    refine ⟨fun chain hok => (authoritativeFor_iff hok).mpr (hall chain hok), ?_⟩
    intro dim hcommon hshared chain hok
    exact hshared (hall chain hok dim hcommon)

end

end AuthorizationSubjectChain

def exampleDelegation (project : String) : DelegationScope :=
  ⟨[("operation", .values ["read"]), ("project", .values [project])], by simp⟩

/-- Two delegations for different projects are accepted for the operation they
share. -/
theorem disjoint_projects_accepted :
    ∃ chain, AuthorizationSubjectChain.deriveFrom "service://pmiri" "zone://local" "operation://query"
        "purpose://retrieval" [exampleDelegation "alpha", exampleDelegation "beta"] none none [] = .ok chain ∧
      chain.effectiveAuthority = [("operation", ["read"]), ("project", [])] ∧
      ¬ chain.AuthoritativeFor [exampleDelegation "alpha", exampleDelegation "beta"] := by
  refine ⟨_, rfl, by decide, ?_⟩
  intro h
  exact ((h "project").2 [] (by decide)).1 rfl

end Pmiri
