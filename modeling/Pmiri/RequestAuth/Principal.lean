import Pmiri.Security
import Pmiri.Python.Datetime

/-!
# Principals and the authentication registry

`request_auth.py`: the times an authority is valid at, the attestation that
puts a principal in a trust zone, the principal itself, and the registry that
maps an authentication reference to the principal registered for it.
-/

namespace Pmiri

open Py

/-- `RequestAuthorizationError(msg)` -/
def requestAuthorizationError (msg : String) : Exc := .valueError "RequestAuthorizationError" msg

def ACTIVE : String := "ACTIVE"

/-! ## Times -/

/-- The instant a time stamp denotes, in UTC. -/
def parseTime (value : String) : Except Exc Int :=
  match fromisoformat (expandZ value) with
  | none => .error (valueError "Invalid isoformat string")
  | some d =>
    match d.instant? with
    | none => .error (valueError "timestamp_must_be_timezone_aware")
    | some t => if inRange t then .ok t else .error (.overflowError "date value out of range")

def validInterval (validFrom validUntil now : String) : Except Exc Bool :=
  falseOn Exc.isValueError do
    let a ← parseTime validFrom
    let b ← parseTime now
    if a ≤ b then
      let c ← parseTime validUntil
      return decide (b ≤ c)
    else return false

/-- An interval is valid at `now` exactly if all three time stamps denote
instants and they are in order. -/
theorem validInterval_true {validFrom validUntil now : String} :
    validInterval validFrom validUntil now = .ok true ↔
      ∃ a b c, parseTime validFrom = .ok a ∧ parseTime now = .ok b ∧ parseTime validUntil = .ok c ∧ a ≤ b ∧ b ≤ c := by
  rw [validInterval, falseOn_true]
  constructor
  · intro h
    obtain ⟨a, ha, h⟩ := bind_ok.mp h
    obtain ⟨b, hb, h⟩ := bind_ok.mp h
    split at h
    · rename_i hab
      obtain ⟨c, hc, h⟩ := bind_ok.mp h
      exact ⟨a, b, c, ha, hb, hc, hab, of_decide_eq_true (Except.ok.inj h)⟩
    · cases h
  · rintro ⟨a, b, c, ha, hb, hc, hab, hbc⟩
    simp [ha, hb, hc, hab, hbc, bind, Except.bind, pure, Except.pure]

/-! ## Attestations and principals -/

structure TrustZoneAttestation where
  attestationId : String
  principalRef : String
  zoneId : String
  issuerRef : String
  evidenceRefs : List String
  issuedAt : String
  validUntil : String
  status : String
  fingerprint : String
deriving DecidableEq

structure AuthenticatedPrincipal where
  authenticationRef : String
  principalRef : String
  principalType : String
  servicePrincipalRef : String
  workloadPrincipalRef : Option String
  humanPrincipalRef : Option String
  trustZoneAttestation : TrustZoneAttestation
  allowedProjects : List String
  allowedOperations : List String
  allowedPurposes : List String
  delegationGrantRefs : List String
  policyBundleRef : String
  policyVersion : String
  policyEpoch : Int
  issuedAt : String
  validUntil : String
  status : String
  fingerprint : String
deriving DecidableEq

namespace TrustZoneAttestation

def isValid (a : TrustZoneAttestation) (principalRef now : String) : Except Exc Bool :=
  if a.status == ACTIVE && a.principalRef == principalRef then validInterval a.issuedAt a.validUntil now else .ok false

variable [Runtime]

def issue (principalRef zoneId issuerRef : String) (evidenceRefs : List String) (issuedAt validUntil : String)
    (status : String := ACTIVE) : Except Exc TrustZoneAttestation := do
  let refs := sortedSet evidenceRefs
  raiseIf (!([principalRef, zoneId, issuerRef, issuedAt, validUntil].all (· != "")))
    (requestAuthorizationError "trust_zone_attestation_missing")
  raiseIfM (pyOr (.ok (refs.isEmpty || status != ACTIVE)) (pyNot (validInterval issuedAt validUntil issuedAt)))
    (requestAuthorizationError "trust_zone_attestation_invalid")
  let fingerprint := sha256Json (Dict.ofItems [
    ("principal_ref", .str principalRef),
    ("zone_id", .str zoneId),
    ("issuer_ref", .str issuerRef),
    ("evidence_refs", strList refs),
    ("issued_at", .str issuedAt),
    ("valid_until", .str validUntil),
    ("status", .str status)]).toVal
  return ⟨"trust-attestation://" ++ String.ofList (fingerprint.toList.take 32), principalRef, zoneId, issuerRef, refs,
    issuedAt, validUntil, status, fingerprint⟩

end TrustZoneAttestation

namespace AuthenticatedPrincipal

def trustZone (p : AuthenticatedPrincipal) : String := p.trustZoneAttestation.zoneId

def isValid (p : AuthenticatedPrincipal) (now : String) (currentPolicyEpoch : Int) : Except Exc Bool :=
  if p.status == ACTIVE && p.policyEpoch == currentPolicyEpoch then
    pyAnd (validInterval p.issuedAt p.validUntil now) (p.trustZoneAttestation.isValid p.principalRef now)
  else .ok false

theorem isValid_true {p : AuthenticatedPrincipal} {now : String} {epoch : Int}
    (h : p.isValid now epoch = .ok true) :
    p.status = ACTIVE ∧ p.policyEpoch = epoch ∧ validInterval p.issuedAt p.validUntil now = .ok true := by
  unfold isValid at h
  split at h
  · rename_i hc
    rw [Bool.and_eq_true, beq_iff_eq, beq_iff_eq] at hc
    refine ⟨hc.1, hc.2, ?_⟩
    obtain ⟨b, hb, h⟩ := bind_ok.mp h
    cases b
    · cases h
    · exact hb
  · cases h

variable [Runtime]

/-- The result of upstream authentication, checked and fingerprinted. -/
def verified (authenticationRef principalRef principalType servicePrincipalRef : String)
    (trustZoneAttestation : TrustZoneAttestation) (allowedProjects allowedOperations allowedPurposes : List String)
    (policyBundleRef policyVersion : String) (policyEpoch : Int) (issuedAt validUntil : String)
    (workloadPrincipalRef humanPrincipalRef : Option String := none) (delegationGrantRefs : List String := [])
    (status : String := ACTIVE) : Except Exc AuthenticatedPrincipal := do
  let projects := sortedSet allowedProjects
  let operations := sortedSet allowedOperations
  let purposes := sortedSet allowedPurposes
  let grants := sortedSet delegationGrantRefs
  raiseIf (!([authenticationRef, principalRef, principalType, servicePrincipalRef, policyBundleRef, policyVersion,
      issuedAt, validUntil].all (· != "")))
    (requestAuthorizationError "principal_required_field_missing")
  raiseIf (projects.isEmpty || operations.isEmpty || purposes.isEmpty ||
      !(projects ++ operations ++ purposes).all (· != ""))
    (requestAuthorizationError "principal_authority_empty")
  raiseIf (decide (policyEpoch < 0) || status != ACTIVE) (requestAuthorizationError "principal_state_invalid")
  raiseIf (trustZoneAttestation.principalRef != principalRef)
    (requestAuthorizationError "trust_zone_principal_mismatch")
  raiseIfM (pyNot (validInterval issuedAt validUntil issuedAt)) (requestAuthorizationError "principal_validity_invalid")
  let payload := Dict.ofItems [
    ("authentication_ref", .str authenticationRef),
    ("principal_ref", .str principalRef),
    ("principal_type", .str principalType),
    ("service_principal_ref", .str servicePrincipalRef),
    ("workload_principal_ref", optStr workloadPrincipalRef),
    ("human_principal_ref", optStr humanPrincipalRef),
    ("trust_zone_attestation_fingerprint", .str trustZoneAttestation.fingerprint),
    ("allowed_projects", strList projects),
    ("allowed_operations", strList operations),
    ("allowed_purposes", strList purposes),
    ("delegation_grant_refs", strList grants),
    ("policy_bundle_ref", .str policyBundleRef),
    ("policy_version", .str policyVersion),
    ("policy_epoch", .int policyEpoch),
    ("issued_at", .str issuedAt),
    ("valid_until", .str validUntil),
    ("status", .str status)]
  return ⟨authenticationRef, principalRef, principalType, servicePrincipalRef, workloadPrincipalRef,
    humanPrincipalRef, trustZoneAttestation, projects, operations, purposes, grants, policyBundleRef, policyVersion,
    policyEpoch, issuedAt, validUntil, status, sha256Json payload.toVal⟩

end AuthenticatedPrincipal

/-! ## Registries -/

/-- What the authorization service asks of a registry. -/
class RegistryPort (κ : Type) where
  /-- The principal registered under a non-empty authentication reference. -/
  lookup : κ → String → Except Exc (Option AuthenticatedPrincipal)
  /-- The registry is one that registrations lead to. -/
  Reached : κ → Prop
  /-- A principal is found under its own reference. -/
  keyed : ∀ {registry authenticationRef p}, Reached registry → lookup registry authenticationRef = .ok (some p) →
    p.authenticationRef = authenticationRef

/-- `registry.resolve(authentication_ref)` -/
def resolve {κ : Type} [RegistryPort κ] (registry : κ) : Option String → Except Exc (Option AuthenticatedPrincipal)
  | some authenticationRef => if authenticationRef = "" then .ok none else RegistryPort.lookup registry authenticationRef
  | none => .ok none

/-- A reference that resolves is not empty, and the principal carries it. -/
theorem resolve_some {κ : Type} [RegistryPort κ] {registry : κ} {a : Option String} {p : AuthenticatedPrincipal}
    (hr : RegistryPort.Reached registry) (h : resolve registry a = .ok (some p)) : a = some p.authenticationRef := by
  unfold resolve at h
  split at h
  · split at h
    · cases h
    · rw [RegistryPort.keyed hr h]
  · cases h

/-- The registry of one process. -/
structure AuthenticationRegistry where
  principals : List (String × AuthenticatedPrincipal)

namespace AuthenticationRegistry

def register (r : AuthenticationRegistry) (p : AuthenticatedPrincipal) : Except Exc AuthenticationRegistry :=
  match r.principals.lookup p.authenticationRef with
  | some existing =>
    if existing.fingerprint != p.fingerprint then .error (requestAuthorizationError "authentication_reference_rebound")
    else .ok ⟨(p.authenticationRef, p) :: r.principals.filter (·.1 != p.authenticationRef)⟩
  | none => .ok ⟨(p.authenticationRef, p) :: r.principals⟩

/-- Every principal is under its own reference. -/
def Keyed (r : AuthenticationRegistry) : Prop := ∀ kp ∈ r.principals, kp.1 = kp.2.authenticationRef

/-- The registries that registrations lead to. -/
inductive Reachable : AuthenticationRegistry → Prop
  | fresh : Reachable ⟨[]⟩
  | register {r r' p} : Reachable r → r.register p = .ok r' → Reachable r'

theorem Keyed.register {r r' : AuthenticationRegistry} {p : AuthenticatedPrincipal} (h : r.Keyed)
    (hr : r.register p = .ok r') : r'.Keyed := by
  unfold AuthenticationRegistry.register at hr
  intro kp hkp
  split at hr
  · split at hr
    · cases hr
    · cases hr
      rcases List.mem_cons.mp hkp with rfl | hkp
      exacts [rfl, h kp (List.mem_of_mem_filter hkp)]
  · cases hr
    rcases List.mem_cons.mp hkp with rfl | hkp
    exacts [rfl, h kp hkp]

theorem Reachable.keyed {r : AuthenticationRegistry} (h : r.Reachable) : r.Keyed := by
  induction h with
  | fresh => exact fun kp hkp => nomatch hkp
  | register _ hr ih => exact ih.register hr

instance : RegistryPort AuthenticationRegistry where
  lookup r authenticationRef := .ok (r.principals.lookup authenticationRef)
  Reached := Reachable
  keyed hr h := (hr.keyed _ (mem_of_lookup (Except.ok.inj h))).symm

end AuthenticationRegistry

end Pmiri
