import Pmiri.Models
import Mathlib.Data.List.Dedup

/-!
# Purpose bindings and subject chains

`security.py`, as far as request authorization uses it: the authority of a
subject is the intersection of every scope on its chain, and a purpose is
bound to the operation it was derived for.
-/

namespace Pmiri

open Py

/-- `SecurityContractViolation(msg)` -/
def securityContractViolation (msg : String) : Exc := .valueError "SecurityContractViolation" msg

/-- A scope: for each kind of authority the values it grants. -/
abbrev Scope := List (String × List String)

/-- `sorted(set(l))` -/
def sortedSet (l : List String) : List String := l.dedup.insertionSort (· ≤ ·)

theorem mem_sortedSet {l : List String} {x : String} : x ∈ sortedSet l ↔ x ∈ l := by
  rw [sortedSet, List.mem_insertionSort, List.mem_dedup]

theorem sortedSet_singleton (x : String) : sortedSet [x] = [x] := by simp [sortedSet]

theorem sortedSet_nil : sortedSet [] = [] := rfl

def normalizedScope (scope : Scope) : Scope := scope.map fun p => (p.1, sortedSet p.2)

/-- The values that every scope grants under `key`. -/
def commonValues (key : String) (scopes : List Scope) (first : List String) : List String :=
  first.filter fun v => scopes.all fun s => ((s.lookup key).getD []).contains v

def intersectAuthority (scopes : List Scope) : Scope :=
  match scopes.map normalizedScope with
  | [] => []
  | first :: rest =>
    let keys := sortedSet ((first.map Prod.fst).filter fun k => rest.all fun s => (s.map Prod.fst).contains k)
    keys.map fun k => (k, sortedSet (commonValues k rest ((first.lookup k).getD [])))

structure AuthorizationSubjectChain where
  servicePrincipalRef : String
  originatingTrustZoneAttestationRef : String
  operationRef : String
  purposeBindingRef : String
  effectiveAuthority : Scope
  humanPrincipalRef : Option String
  workloadPrincipalRef : Option String
  delegationGrantRefs : List String
deriving DecidableEq

namespace AuthorizationSubjectChain

def derive (servicePrincipalRef attestationRef operationRef purposeBindingRef : String) (scopes : List Scope)
    (humanPrincipalRef workloadPrincipalRef : Option String) (delegationGrantRefs : List String) :
    Except Exc AuthorizationSubjectChain := do
  raiseIf (!([servicePrincipalRef, attestationRef, operationRef, purposeBindingRef].all (· != "")))
    (securityContractViolation "subject_chain_required_component_missing")
  let effective := intersectAuthority scopes
  raiseIf (effective.isEmpty || !effective.any (fun p => !p.2.isEmpty))
    (securityContractViolation "effective_authority_empty")
  return ⟨servicePrincipalRef, attestationRef, operationRef, purposeBindingRef, effective, humanPrincipalRef,
    workloadPrincipalRef, sortedSet delegationGrantRefs⟩

variable [Runtime]

def fingerprint (c : AuthorizationSubjectChain) : String :=
  sha256Json (Dict.ofItems [
    ("human_principal_ref", optStr c.humanPrincipalRef),
    ("service_principal_ref", .str c.servicePrincipalRef),
    ("workload_principal_ref", optStr c.workloadPrincipalRef),
    ("delegation_grant_refs", strList c.delegationGrantRefs),
    ("originating_trust_zone_attestation_ref", .str c.originatingTrustZoneAttestationRef),
    ("operation_ref", .str c.operationRef),
    ("purpose_binding_ref", .str c.purposeBindingRef),
    ("effective_authority", .dict (c.effectiveAuthority.map fun p => (p.1, strList p.2)))]).toVal

end AuthorizationSubjectChain

structure PurposeBinding where
  purposeBindingId : String
  operationRef : String
  recognizedPurpose : String
  derivationRef : String
  fingerprint : String
deriving DecidableEq

namespace PurposeBinding

variable [Runtime]

def create (operationRef recognizedPurpose derivationRef : String) : Except Exc PurposeBinding := do
  raiseIf (!([operationRef, recognizedPurpose, derivationRef].all (· != "")))
    (securityContractViolation "purpose_binding_missing")
  let payload := Dict.ofItems [
    ("operation_ref", .str operationRef),
    ("recognized_purpose", .str recognizedPurpose),
    ("derivation_ref", .str derivationRef)]
  return ⟨ref "purpose" payload.toVal, operationRef, recognizedPurpose, derivationRef, sha256Json payload.toVal⟩

def verifyRequestedPurpose (p : PurposeBinding) (requestedPurpose : String) : Except Exc Unit :=
  raiseIf (requestedPurpose != p.recognizedPurpose) (securityContractViolation "purpose_relabeling_forbidden")

end PurposeBinding

end Pmiri
