import Pmiri.ControlPlane.Tables
import Pmiri.Collisions
import Pmiri.Python.Json
import Pmiri.Python.Raises
import Pmiri.Python.SortedSet

/-!
# Stored principals

`control_plane.py`: `_principal_payload` and `_principal_from_payload`. What is
read from the table is JSON of any shape, so the attestation and the principal
that are issued from it may have values of any kind where the constructors check
none.
-/

namespace Pmiri

open Py

/-! ## Attestations and principals of JSON values -/

/-- A `TrustZoneAttestation` with fields of any kind. -/
@[ext] structure StoredAttestation where
  attestationId : Val
  principalRef : Val
  zoneId : Val
  issuerRef : Val
  evidenceRefs : List Val
  issuedAt : Val
  validUntil : Val
  status : Val
  fingerprint : Val

/-- An `AuthenticatedPrincipal` with fields of any kind. -/
@[ext] structure StoredPrincipal where
  authenticationRef : Val
  principalRef : Val
  principalType : Val
  servicePrincipalRef : Val
  workloadPrincipalRef : Val
  humanPrincipalRef : Val
  trustZoneAttestation : StoredAttestation
  allowedProjects : List Val
  allowedOperations : List Val
  allowedPurposes : List Val
  delegationGrantRefs : List Val
  policyBundleRef : Val
  policyVersion : Val
  policyEpoch : Val
  issuedAt : Val
  validUntil : Val
  status : Val
  fingerprint : Val

def TrustZoneAttestation.stored (a : TrustZoneAttestation) : StoredAttestation where
  attestationId := .str a.attestationId
  principalRef := .str a.principalRef
  zoneId := .str a.zoneId
  issuerRef := .str a.issuerRef
  evidenceRefs := a.evidenceRefs.map .str
  issuedAt := .str a.issuedAt
  validUntil := .str a.validUntil
  status := .str a.status
  fingerprint := .str a.fingerprint

def AuthenticatedPrincipal.stored (p : AuthenticatedPrincipal) : StoredPrincipal where
  authenticationRef := .str p.authenticationRef
  principalRef := .str p.principalRef
  principalType := .str p.principalType
  servicePrincipalRef := .str p.servicePrincipalRef
  workloadPrincipalRef := optStr p.workloadPrincipalRef
  humanPrincipalRef := optStr p.humanPrincipalRef
  trustZoneAttestation := p.trustZoneAttestation.stored
  allowedProjects := p.allowedProjects.map .str
  allowedOperations := p.allowedOperations.map .str
  allowedPurposes := p.allowedPurposes.map .str
  delegationGrantRefs := p.delegationGrantRefs.map .str
  policyBundleRef := .str p.policyBundleRef
  policyVersion := .str p.policyVersion
  policyEpoch := .int p.policyEpoch
  issuedAt := .str p.issuedAt
  validUntil := .str p.validUntil
  status := .str p.status
  fingerprint := .str p.fingerprint

theorem optStr_inj {a b : Option String} (h : optStr a = optStr b) : a = b := by
  cases a <;> cases b <;> simp_all [optStr]

theorem TrustZoneAttestation.stored_inj {a b : TrustZoneAttestation} (h : a.stored = b.stored) : a = b := by
  have hinj : Function.Injective (List.map Val.str) := List.map_injective_iff.mpr fun _ _ => Val.str.inj
  cases a
  cases b
  simpa only [TrustZoneAttestation.stored, StoredAttestation.mk.injEq, Val.str.injEq, hinj.eq_iff,
    TrustZoneAttestation.mk.injEq] using h

theorem AuthenticatedPrincipal.stored_inj {p q : AuthenticatedPrincipal} (h : p.stored = q.stored) : p = q := by
  have hinj : Function.Injective (List.map Val.str) := List.map_injective_iff.mpr fun _ _ => Val.str.inj
  have hopt : Function.Injective optStr := fun _ _ => optStr_inj
  have hatt : Function.Injective TrustZoneAttestation.stored := fun _ _ => TrustZoneAttestation.stored_inj
  cases p
  cases q
  simpa only [AuthenticatedPrincipal.stored, StoredPrincipal.mk.injEq, Val.str.injEq, Val.int.injEq, hinj.eq_iff, hopt.eq_iff,
    hatt.eq_iff, AuthenticatedPrincipal.mk.injEq] using h

/-- `_valid_interval(a, b, a)`, for what is known to be strings. -/
def validTimes (issuedAt validUntil : Val) : Except Exc Bool :=
  validInterval issuedAt.strText validUntil.strText issuedAt.strText

namespace StoredAttestation

/-- `a == b` -/
def eq (a b : StoredAttestation) : Bool :=
  a.attestationId.eq b.attestationId && a.principalRef.eq b.principalRef && a.zoneId.eq b.zoneId &&
  a.issuerRef.eq b.issuerRef && Val.eqList a.evidenceRefs b.evidenceRefs && a.issuedAt.eq b.issuedAt &&
  a.validUntil.eq b.validUntil && a.status.eq b.status && a.fingerprint.eq b.fingerprint

/-- What an attestation is fingerprinted by. -/
def payload (a : StoredAttestation) : Dict := .ofItems [
  ("principal_ref", a.principalRef),
  ("zone_id", a.zoneId),
  ("issuer_ref", a.issuerRef),
  ("evidence_refs", .list a.evidenceRefs),
  ("issued_at", a.issuedAt),
  ("valid_until", a.validUntil),
  ("status", a.status)]

variable [Runtime]

def issue (principalRef zoneId issuerRef : Val) (evidenceRefs : List Val) (issuedAt validUntil status : Val) :
    Except Exc StoredAttestation := do
  let refs ← Val.sortedSet evidenceRefs
  raiseIf (!([principalRef, zoneId, issuerRef, issuedAt, validUntil].all Val.isNonemptyStr))
    (requestAuthorizationError "trust_zone_attestation_missing")
  raiseIfM (pyOr (.ok (refs.isEmpty || !status.eq (.str ACTIVE))) (pyNot (validTimes issuedAt validUntil)))
    (requestAuthorizationError "trust_zone_attestation_invalid")
  let a : StoredAttestation := ⟨.none, principalRef, zoneId, issuerRef, refs, issuedAt, validUntil, status, .none⟩
  let fingerprint := sha256Json a.payload.toVal
  return { a with
    attestationId := .str ("trust-attestation://" ++ String.ofList (fingerprint.toList.take 32))
    fingerprint := .str fingerprint }

/-- `TrustZoneAttestation(**d)` -/
def ofFields (d : Dict) (evidenceRefs : List Val) : Except Exc StoredAttestation := do
  raiseIf (!d.keysAre ["attestation_id", "principal_ref", "zone_id", "issuer_ref", "evidence_refs", "issued_at", "valid_until",
    "status", "fingerprint"]) (.typeError "TrustZoneAttestation.__init__() got other arguments")
  return ⟨d.get "attestation_id", d.get "principal_ref", d.get "zone_id", d.get "issuer_ref", evidenceRefs,
    d.get "issued_at", d.get "valid_until", d.get "status", d.get "fingerprint"⟩

end StoredAttestation

namespace StoredPrincipal

/-- What a principal is fingerprinted by. -/
def payload (p : StoredPrincipal) : Dict := .ofItems [
  ("authentication_ref", p.authenticationRef),
  ("principal_ref", p.principalRef),
  ("principal_type", p.principalType),
  ("service_principal_ref", p.servicePrincipalRef),
  ("workload_principal_ref", p.workloadPrincipalRef),
  ("human_principal_ref", p.humanPrincipalRef),
  ("trust_zone_attestation_fingerprint", p.trustZoneAttestation.fingerprint),
  ("allowed_projects", .list p.allowedProjects),
  ("allowed_operations", .list p.allowedOperations),
  ("allowed_purposes", .list p.allowedPurposes),
  ("delegation_grant_refs", .list p.delegationGrantRefs),
  ("policy_bundle_ref", p.policyBundleRef),
  ("policy_version", p.policyVersion),
  ("policy_epoch", p.policyEpoch),
  ("issued_at", p.issuedAt),
  ("valid_until", p.validUntil),
  ("status", p.status)]

variable [Runtime]

def verified (authenticationRef principalRef principalType servicePrincipalRef : Val)
    (trustZoneAttestation : StoredAttestation) (allowedProjects allowedOperations allowedPurposes : Val)
    (policyBundleRef policyVersion policyEpoch issuedAt validUntil : Val)
    (workloadPrincipalRef humanPrincipalRef delegationGrantRefs status : Val) : Except Exc StoredPrincipal := do
  let projects ← Val.sortedSet (← allowedProjects.elements)
  let operations ← Val.sortedSet (← allowedOperations.elements)
  let purposes ← Val.sortedSet (← allowedPurposes.elements)
  let grants ← Val.sortedSet (← delegationGrantRefs.elements)
  raiseIf (!([authenticationRef, principalRef, principalType, servicePrincipalRef, policyBundleRef, policyVersion,
      issuedAt, validUntil].all Val.isNonemptyStr))
    (requestAuthorizationError "principal_required_field_missing")
  raiseIf (projects.isEmpty || operations.isEmpty || purposes.isEmpty ||
      !(projects ++ operations ++ purposes).all Val.truthy)
    (requestAuthorizationError "principal_authority_empty")
  raiseIfM (pyOr (policyEpoch.lt (.int 0)) (.ok (!status.eq (.str ACTIVE))))
    (requestAuthorizationError "principal_state_invalid")
  raiseIf (!trustZoneAttestation.principalRef.eq principalRef) (requestAuthorizationError "trust_zone_principal_mismatch")
  raiseIfM (pyNot (validTimes issuedAt validUntil)) (requestAuthorizationError "principal_validity_invalid")
  let p : StoredPrincipal := ⟨authenticationRef, principalRef, principalType, servicePrincipalRef, workloadPrincipalRef,
    humanPrincipalRef, trustZoneAttestation, projects, operations, purposes, grants, policyBundleRef, policyVersion,
    policyEpoch, issuedAt, validUntil, status, .none⟩
  return { p with fingerprint := .str (sha256Json p.payload.toVal) }

end StoredPrincipal

/-! ## The payload and the way back -/

def attestationPayload (a : TrustZoneAttestation) : Dict := .ofItems [
  ("attestation_id", .str a.attestationId),
  ("principal_ref", .str a.principalRef),
  ("zone_id", .str a.zoneId),
  ("issuer_ref", .str a.issuerRef),
  ("evidence_refs", strList a.evidenceRefs),
  ("issued_at", .str a.issuedAt),
  ("valid_until", .str a.validUntil),
  ("status", .str a.status),
  ("fingerprint", .str a.fingerprint)]

/-- `_principal_payload` -/
@[irreducible] def principalPayload (p : AuthenticatedPrincipal) : Dict := .ofItems [
  ("authentication_ref", .str p.authenticationRef),
  ("principal_ref", .str p.principalRef),
  ("principal_type", .str p.principalType),
  ("service_principal_ref", .str p.servicePrincipalRef),
  ("workload_principal_ref", optStr p.workloadPrincipalRef),
  ("human_principal_ref", optStr p.humanPrincipalRef),
  ("trust_zone_attestation", (attestationPayload p.trustZoneAttestation).toVal),
  ("allowed_projects", strList p.allowedProjects),
  ("allowed_operations", strList p.allowedOperations),
  ("allowed_purposes", strList p.allowedPurposes),
  ("delegation_grant_refs", strList p.delegationGrantRefs),
  ("policy_bundle_ref", .str p.policyBundleRef),
  ("policy_version", .str p.policyVersion),
  ("policy_epoch", .int p.policyEpoch),
  ("issued_at", .str p.issuedAt),
  ("valid_until", .str p.validUntil),
  ("status", .str p.status),
  ("fingerprint", .str p.fingerprint)]

variable [Runtime]

/-- The attestation of `_principal_from_payload`, issued anew. -/
def attestationFromPayload (payload : Dict) : Except Exc StoredAttestation := do
  let rawAttestation ← dictOr (payload.get "trust_zone_attestation") (requestAuthorizationError "stored_attestation_invalid")
  let evidenceRefs ← (rawAttestation.getD "evidence_refs" (.list [])).elements
  let attestation ← StoredAttestation.ofFields (rawAttestation.insert "evidence_refs" (.list evidenceRefs)) evidenceRefs
  let expected ← StoredAttestation.issue attestation.principalRef attestation.zoneId attestation.issuerRef
    attestation.evidenceRefs attestation.issuedAt attestation.validUntil attestation.status
  raiseIf (!expected.eq attestation) (requestAuthorizationError "stored_attestation_fingerprint_mismatch")
  return attestation

/-- `_principal_from_payload`, of JSON of any shape. -/
def StoredPrincipal.fromPayload (payload : Val) : Except Exc StoredPrincipal := do
  let payload ← dictOr payload (.attributeError "object has no attribute 'get'")
  let attestation ← attestationFromPayload payload
  let principal ← StoredPrincipal.verified (← payload.item "authentication_ref") (← payload.item "principal_ref")
    (← payload.item "principal_type") (← payload.item "service_principal_ref") attestation
    (← payload.item "allowed_projects") (← payload.item "allowed_operations") (← payload.item "allowed_purposes")
    (← payload.item "policy_bundle_ref") (← payload.item "policy_version") (← payload.item "policy_epoch")
    (← payload.item "issued_at") (← payload.item "valid_until") (payload.get "workload_principal_ref")
    (payload.get "human_principal_ref") (payload.getD "delegation_grant_refs" (.list [])) (payload.getD "status" (.str ACTIVE))
  raiseIf (!principal.fingerprint.eq (payload.get "fingerprint"))
    (requestAuthorizationError "stored_principal_fingerprint_mismatch")
  return principal

/-! ## Typed principals -/

/-- Issued from strings, an attestation is the typed one. -/
theorem StoredAttestation.issue_str (principalRef zoneId issuerRef : String) (evidenceRefs : List String)
    (issuedAt validUntil status : String) :
    StoredAttestation.issue (.str principalRef) (.str zoneId) (.str issuerRef) (evidenceRefs.map .str) (.str issuedAt)
        (.str validUntil) (.str status) =
      (TrustZoneAttestation.issue principalRef zoneId issuerRef evidenceRefs issuedAt validUntil status).map
        TrustZoneAttestation.stored := by
  simp only [StoredAttestation.issue, TrustZoneAttestation.issue, Val.sortedSet_str, ok_bind, map_seq, List.all_cons, List.all_nil,
    Val.isNonemptyStr_str, List.isEmpty_map, Val.str_eq_str, validTimes, Val.strText]
  rfl

theorem StoredAttestation.issue_stored (a : TrustZoneAttestation) :
    StoredAttestation.issue a.stored.principalRef a.stored.zoneId a.stored.issuerRef a.stored.evidenceRefs a.stored.issuedAt
        a.stored.validUntil a.stored.status =
      (TrustZoneAttestation.issue a.principalRef a.zoneId a.issuerRef a.evidenceRefs a.issuedAt a.validUntil a.status).map
        TrustZoneAttestation.stored := StoredAttestation.issue_str ..

/-- Verified from strings, a principal is the typed one. -/
theorem StoredPrincipal.verified_str (authenticationRef principalRef principalType servicePrincipalRef : String)
    (a : TrustZoneAttestation) (allowedProjects allowedOperations allowedPurposes : List String)
    (policyBundleRef policyVersion : String) (policyEpoch : Int) (issuedAt validUntil : String)
    (workloadPrincipalRef humanPrincipalRef : Option String) (delegationGrantRefs : List String) (status : String) :
    StoredPrincipal.verified (.str authenticationRef) (.str principalRef) (.str principalType) (.str servicePrincipalRef) a.stored
        (strList allowedProjects) (strList allowedOperations) (strList allowedPurposes) (.str policyBundleRef)
        (.str policyVersion) (.int policyEpoch) (.str issuedAt) (.str validUntil) (optStr workloadPrincipalRef)
        (optStr humanPrincipalRef) (strList delegationGrantRefs) (.str status) =
      (AuthenticatedPrincipal.verified authenticationRef principalRef principalType servicePrincipalRef a allowedProjects
        allowedOperations allowedPurposes policyBundleRef policyVersion policyEpoch issuedAt validUntil workloadPrincipalRef
        humanPrincipalRef delegationGrantRefs status).map AuthenticatedPrincipal.stored := by
  have htruthy (l : List String) : (l.map Val.str).all Val.truthy = l.all (· != "") := by
    rw [List.all_map]
    rfl
  have hstate : pyOr ((Val.int policyEpoch).lt (.int 0)) (.ok (!status == ACTIVE)) =
      .ok (decide (policyEpoch < 0) || status != ACTIVE) := by
    rw [Val.lt_int, pyOr]
    cases decide (policyEpoch < 0) <;> rfl
  simp only [StoredPrincipal.verified, AuthenticatedPrincipal.verified, strList, Val.elements, Val.sortedSet_str, ok_bind, map_seq,
    List.all_cons, List.all_nil, Val.isNonemptyStr_str, List.isEmpty_map, Val.str_eq_str, validTimes, Val.strText,
    ← List.map_append, htruthy, hstate, TrustZoneAttestation.stored]
  rfl

/-! ## The round trip -/

omit [Runtime] in
theorem sortedSet_sortedSet (l : List String) : sortedSet (sortedSet l) = sortedSet l := by
  have hnodup : (sortedSet l).Nodup := (List.perm_insertionSort _ _).nodup_iff.mpr (List.nodup_dedup l)
  rw [sortedSet, hnodup.dedup]
  exact (List.pairwise_insertionSort _ l.dedup).insertionSort_eq

/-- A principal that is verified over an attestation that was issued. -/
structure AuthenticatedPrincipal.Genuine (p : AuthenticatedPrincipal) : Prop where
  issued : ∃ principalRef zoneId issuerRef evidenceRefs issuedAt validUntil status,
    TrustZoneAttestation.issue principalRef zoneId issuerRef evidenceRefs issuedAt validUntil status = .ok p.trustZoneAttestation
  verified : ∃ authenticationRef principalRef principalType servicePrincipalRef allowedProjects allowedOperations allowedPurposes
    policyBundleRef policyVersion policyEpoch issuedAt validUntil workloadPrincipalRef humanPrincipalRef delegationGrantRefs status,
    AuthenticatedPrincipal.verified authenticationRef principalRef principalType servicePrincipalRef p.trustZoneAttestation
      allowedProjects allowedOperations allowedPurposes policyBundleRef policyVersion policyEpoch issuedAt validUntil
      workloadPrincipalRef humanPrincipalRef delegationGrantRefs status = .ok p

/-- An attestation is issued again from its own fields. -/
theorem TrustZoneAttestation.issue_again {principalRef zoneId issuerRef : String} {evidenceRefs : List String}
    {issuedAt validUntil status : String} {a : TrustZoneAttestation}
    (h : TrustZoneAttestation.issue principalRef zoneId issuerRef evidenceRefs issuedAt validUntil status = .ok a) :
    TrustZoneAttestation.issue a.principalRef a.zoneId a.issuerRef a.evidenceRefs a.issuedAt a.validUntil a.status = .ok a := by
  have hsame : TrustZoneAttestation.issue principalRef zoneId issuerRef (sortedSet evidenceRefs) issuedAt validUntil status = .ok a := by
    simpa only [TrustZoneAttestation.issue, sortedSet_sortedSet] using h
  simp only [TrustZoneAttestation.issue, seq_ok] at h
  obtain ⟨-, -, h⟩ := h
  obtain rfl := Except.ok.inj h
  exact hsame

/-- A principal is verified again from its own fields. -/
theorem AuthenticatedPrincipal.Genuine.verified_again {p : AuthenticatedPrincipal} (h : p.Genuine) :
    AuthenticatedPrincipal.verified p.authenticationRef p.principalRef p.principalType p.servicePrincipalRef
      p.trustZoneAttestation p.allowedProjects p.allowedOperations p.allowedPurposes p.policyBundleRef p.policyVersion
      p.policyEpoch p.issuedAt p.validUntil p.workloadPrincipalRef p.humanPrincipalRef p.delegationGrantRefs p.status = .ok p := by
  obtain ⟨authenticationRef, principalRef, principalType, servicePrincipalRef, projects, operations, purposes, policyBundleRef,
    policyVersion, policyEpoch, issuedAt, validUntil, workloadPrincipalRef, humanPrincipalRef, grants, status, h⟩ := h.verified
  have hsame : AuthenticatedPrincipal.verified authenticationRef principalRef principalType servicePrincipalRef
      p.trustZoneAttestation (sortedSet projects) (sortedSet operations) (sortedSet purposes) policyBundleRef policyVersion
      policyEpoch issuedAt validUntil workloadPrincipalRef humanPrincipalRef (sortedSet grants) status = .ok p := by
    simpa only [AuthenticatedPrincipal.verified, sortedSet_sortedSet] using h
  simp only [AuthenticatedPrincipal.verified, seq_ok] at h
  obtain ⟨-, -, -, -, -, h⟩ := h
  have hp := Except.ok.inj h
  rw [← hp] at hsame ⊢
  exact hsame

/-- A genuine principal is what its payload gives. -/
theorem AuthenticatedPrincipal.Genuine.principalFromPayload {p : AuthenticatedPrincipal} (h : p.Genuine) :
    principalFromPayload p = .ok p := by
  obtain ⟨principalRef, zoneId, issuerRef, evidenceRefs, issuedAt, validUntil, status, hissue⟩ := h.issued
  simp only [Pmiri.principalFromPayload, TrustZoneAttestation.issue_again hissue, h.verified_again, ok_bind, bne_self_eq_false,
    raiseIf, Bool.false_eq_true, ↓reduceIte]
  rfl

omit [Runtime] in
theorem eqList_str_str (l l' : List String) : Val.eqList (l.map .str) (l'.map .str) = true ↔ l = l' :=
  Val.eqList_str.trans (List.map_inj_right fun _ _ => Val.str.inj)

omit [Runtime] in
theorem StoredAttestation.eq_stored (a b : TrustZoneAttestation) : a.stored.eq b.stored = (a == b) := by
  rw [Bool.eq_iff_iff, beq_iff_eq]
  cases a
  cases b
  simp only [StoredAttestation.eq, TrustZoneAttestation.stored, Bool.and_eq_true, Val.str_eq_str, beq_iff_eq, eqList_str_str,
    TrustZoneAttestation.mk.injEq, and_assoc]

omit [Runtime] in
theorem keysAre_attestationPayload (a : TrustZoneAttestation) (v : Val) :
    ((attestationPayload a).sortKeys.insert "evidence_refs" v).keysAre ["attestation_id", "principal_ref", "zone_id",
      "issuer_ref", "evidence_refs", "issued_at", "valid_until", "status", "fingerprint"] = true := by
  have hkeys (k : String) : k ∈ (attestationPayload a).sortKeys.keys ↔ k ∈ (attestationPayload a).keys := by
    rw [← Dict.contains_iff, ← Dict.contains_iff, Dict.contains, Dict.contains, Dict.get?_sortKeys, Option.isSome_map]
  rw [Dict.keysAre_iff]
  intro k
  rw [Dict.mem_keys_insert, hkeys, attestationPayload, Dict.mem_keys_ofItems]
  simp
  grind

/-- The attestation is read back as it was written. -/
theorem attestationFromPayload_sortKeys (p : AuthenticatedPrincipal) :
    attestationFromPayload (principalPayload p).sortKeys = (do
      let attestation := p.trustZoneAttestation
      let expected ← TrustZoneAttestation.issue attestation.principalRef attestation.zoneId attestation.issuerRef
        attestation.evidenceRefs attestation.issuedAt attestation.validUntil attestation.status
      raiseIf (expected != attestation) (requestAuthorizationError "stored_attestation_fingerprint_mismatch")
      return attestation.stored) := by
  have hraw : (principalPayload p).sortKeys.get "trust_zone_attestation" =
      (attestationPayload p.trustZoneAttestation).sortKeys.toVal := by
    rw [Dict.get_sortKeys, ← Dict.toVal_sortKeys]
    simp [principalPayload, Dict.ofItems, Dict.get_insert]
  have hrefs : ((attestationPayload p.trustZoneAttestation).sortKeys.getD "evidence_refs" (.list [])) =
      .list (p.trustZoneAttestation.evidenceRefs.map .str) := by
    rw [Dict.getD, Dict.get?_sortKeys]
    simp [attestationPayload, Dict.ofItems, Dict.get?_insert]
    exact Val.sortKeys_strList _
  have hfields : StoredAttestation.ofFields ((attestationPayload p.trustZoneAttestation).sortKeys.insert "evidence_refs"
      (.list (p.trustZoneAttestation.evidenceRefs.map .str))) (p.trustZoneAttestation.evidenceRefs.map .str) =
      .ok p.trustZoneAttestation.stored := by
    rw [StoredAttestation.ofFields, raiseIf, if_neg (by simpa using keysAre_attestationPayload p.trustZoneAttestation _)]
    simp only [Dict.get_insert, Dict.get_sortKeys, attestationPayload, Dict.ofItems, List.foldl_cons, List.foldl_nil]
    simp [TrustZoneAttestation.stored, Val.sortKeys]
  simp only [attestationFromPayload, hraw, dictOr, Val.asDict_toVal, ok_bind, hrefs, Val.elements, hfields]
  rw [StoredAttestation.issue_stored]
  cases TrustZoneAttestation.issue p.trustZoneAttestation.principalRef p.trustZoneAttestation.zoneId
      p.trustZoneAttestation.issuerRef p.trustZoneAttestation.evidenceRefs p.trustZoneAttestation.issuedAt
      p.trustZoneAttestation.validUntil p.trustZoneAttestation.status with
  | error e => rfl
  | ok expected =>
    simp only [Except.map, ok_bind, StoredAttestation.eq_stored]
    rfl

/-- A principal is read back from its JSON payload as from the payload that is
kept as a principal. -/
theorem fromPayload_principalPayload (p : AuthenticatedPrincipal) :
    StoredPrincipal.fromPayload (principalPayload p).toVal.sortKeys = (principalFromPayload p).map AuthenticatedPrincipal.stored := by
  have hget? (k : String) : (principalPayload p).sortKeys.get? k = ((principalPayload p).get? k).map Val.sortKeys :=
    Dict.get?_sortKeys _ k
  simp only [StoredPrincipal.fromPayload, Dict.toVal_sortKeys, dictOr, Val.asDict_toVal, ok_bind, attestationFromPayload_sortKeys,
    Dict.item, Dict.get, Dict.getD, hget?]
  simp only [principalPayload, Dict.ofItems, List.foldl_cons, List.foldl_nil, Dict.get?_insert, String.reduceEq, ↓reduceIte,
    Option.map_some, Option.getD_some, ok_bind, Val.sortKeys_strList, Val.sortKeys_optStr, Val.sortKeys]
  rw [principalFromPayload]
  cases TrustZoneAttestation.issue p.trustZoneAttestation.principalRef p.trustZoneAttestation.zoneId
      p.trustZoneAttestation.issuerRef p.trustZoneAttestation.evidenceRefs p.trustZoneAttestation.issuedAt
      p.trustZoneAttestation.validUntil p.trustZoneAttestation.status with
  | error e => rfl
  | ok expected =>
    simp only [ok_bind, bind_assoc, pure_bind, StoredPrincipal.verified_str, map_seq]
    generalize AuthenticatedPrincipal.verified _ _ _ _ _ _ _ _ _ _ _ _ _ _ _ _ _ = verified
    rcases verified with e | principal
    · rfl
    · have hfingerprint : (!principal.stored.fingerprint.eq (.str p.fingerprint)) = (principal.fingerprint != p.fingerprint) := by
        rw [AuthenticatedPrincipal.stored, Val.str_eq_str, bne]
      simp only [Except.map, ok_bind, hfingerprint]
      cases principal.fingerprint != p.fingerprint <;> rfl

/-- A genuine principal survives its JSON payload. -/
theorem AuthenticatedPrincipal.Genuine.fromPayload {p : AuthenticatedPrincipal} (h : p.Genuine) :
    StoredPrincipal.fromPayload (principalPayload p).toVal.sortKeys = .ok p.stored := by
  rw [fromPayload_principalPayload, h.principalFromPayload]
  rfl

/-! ## What is accepted -/

/-- An attestation carries the fingerprint of its fields. -/
structure StoredAttestation.Fingerprinted (a : StoredAttestation) : Prop where
  fingerprint : a.fingerprint = .str (sha256Json a.payload.toVal)
  attestationId : a.attestationId =
    .str ("trust-attestation://" ++ String.ofList ((sha256Json a.payload.toVal).toList.take 32))

theorem StoredAttestation.issue_ok {principalRef zoneId issuerRef : Val} {evidenceRefs : List Val} {issuedAt validUntil status : Val}
    {a : StoredAttestation} (h : StoredAttestation.issue principalRef zoneId issuerRef evidenceRefs issuedAt validUntil status = .ok a) :
    Val.sortedSet evidenceRefs = .ok a.evidenceRefs ∧ a.Fingerprinted ∧ a.principalRef = principalRef ∧ a.zoneId = zoneId ∧
      a.issuerRef = issuerRef ∧ a.issuedAt = issuedAt ∧ a.validUntil = validUntil ∧ a.status = status := by
  obtain ⟨refs, hrefs, h⟩ := bind_ok.mp h
  simp only [seq_ok] at h
  obtain ⟨-, -, h⟩ := h
  obtain rfl := Except.ok.inj h
  exact ⟨hrefs, ⟨rfl, rfl⟩, rfl, rfl, rfl, rfl, rfl, rfl⟩

/-- An attestation that equals the one issued from its fields is that one. -/
theorem StoredAttestation.eq_of_issue {a expected : StoredAttestation}
    (h : StoredAttestation.issue a.principalRef a.zoneId a.issuerRef a.evidenceRefs a.issuedAt a.validUntil a.status = .ok expected)
    (heq : expected.eq a = true) : expected = a := by
  obtain ⟨hrefs, ⟨hfingerprint, hid⟩, hprincipal, hzone, hissuer, hissued, huntil, hstatus⟩ := StoredAttestation.issue_ok h
  simp only [StoredAttestation.eq, Bool.and_eq_true, and_assoc] at heq
  obtain ⟨hideq, -, -, -, hrefseq, -, -, -, hfingerprinteq⟩ := heq
  rw [hid, Val.str_eq, ← hid] at hideq
  rw [hfingerprint, Val.str_eq, ← hfingerprint] at hfingerprinteq
  exact StoredAttestation.ext hideq.symm hprincipal hzone hissuer (Val.sortedSet_self hrefs hrefseq) hissued huntil hstatus
    hfingerprinteq.symm

theorem attestationFromPayload_ok {payload : Dict} {a : StoredAttestation} (h : attestationFromPayload payload = .ok a) :
    StoredAttestation.issue a.principalRef a.zoneId a.issuerRef a.evidenceRefs a.issuedAt a.validUntil a.status = .ok a ∧
      ∃ raw, (payload.get "trust_zone_attestation").asDict = some raw ∧
        (raw.getD "evidence_refs" (.list [])).elements = .ok a.evidenceRefs ∧
        a.principalRef = raw.get "principal_ref" ∧ a.zoneId = raw.get "zone_id" ∧ a.issuerRef = raw.get "issuer_ref" ∧
        a.issuedAt = raw.get "issued_at" ∧ a.validUntil = raw.get "valid_until" ∧ a.status = raw.get "status" := by
  obtain ⟨raw, hraw, h⟩ := bind_ok.mp h
  obtain ⟨refs, hrefs, h⟩ := bind_ok.mp h
  obtain ⟨attestation, hattestation, h⟩ := bind_ok.mp h
  obtain ⟨expected, hissue, h⟩ := bind_ok.mp h
  obtain ⟨heq, h⟩ := seq_ok.mp h
  obtain rfl := Except.ok.inj h
  obtain ⟨-, hattestation⟩ := seq_ok.mp hattestation
  rw [raiseIf_ok, Bool.not_eq_false'] at heq
  have hsame := StoredAttestation.eq_of_issue hissue heq
  refine ⟨hsame ▸ hissue, raw, dictOr_ok.mp hraw, ?_⟩
  obtain rfl := Except.ok.inj hattestation
  simp [hrefs, Dict.get_insert]

/-- Of a list that a principal is verified from, its elements count. -/
theorem StoredPrincipal.verified_congr {authenticationRef principalRef principalType servicePrincipalRef : Val}
    {a : StoredAttestation} {projects operations purposes projects' operations' purposes' : Val}
    {policyBundleRef policyVersion policyEpoch issuedAt validUntil workloadPrincipalRef humanPrincipalRef : Val}
    {grants grants' status : Val} (hprojects : projects.elements = projects'.elements)
    (hoperations : operations.elements = operations'.elements) (hpurposes : purposes.elements = purposes'.elements)
    (hgrants : grants.elements = grants'.elements) :
    StoredPrincipal.verified authenticationRef principalRef principalType servicePrincipalRef a projects operations purposes
        policyBundleRef policyVersion policyEpoch issuedAt validUntil workloadPrincipalRef humanPrincipalRef grants status =
      StoredPrincipal.verified authenticationRef principalRef principalType servicePrincipalRef a projects' operations' purposes'
        policyBundleRef policyVersion policyEpoch issuedAt validUntil workloadPrincipalRef humanPrincipalRef grants' status := by
  simp only [StoredPrincipal.verified, hprojects, hoperations, hpurposes, hgrants]

theorem StoredPrincipal.verified_ok {authenticationRef principalRef principalType servicePrincipalRef : Val} {a : StoredAttestation}
    {allowedProjects allowedOperations allowedPurposes policyBundleRef policyVersion policyEpoch issuedAt validUntil : Val}
    {workloadPrincipalRef humanPrincipalRef delegationGrantRefs status : Val} {q : StoredPrincipal}
    (h : StoredPrincipal.verified authenticationRef principalRef principalType servicePrincipalRef a allowedProjects
      allowedOperations allowedPurposes policyBundleRef policyVersion policyEpoch issuedAt validUntil workloadPrincipalRef
      humanPrincipalRef delegationGrantRefs status = .ok q) :
    ∃ projects operations purposes grants,
      (allowedProjects.elements = .ok projects ∧ Val.sortedSet projects = .ok q.allowedProjects) ∧
      (allowedOperations.elements = .ok operations ∧ Val.sortedSet operations = .ok q.allowedOperations) ∧
      (allowedPurposes.elements = .ok purposes ∧ Val.sortedSet purposes = .ok q.allowedPurposes) ∧
      (delegationGrantRefs.elements = .ok grants ∧ Val.sortedSet grants = .ok q.delegationGrantRefs) ∧
      q = ⟨authenticationRef, principalRef, principalType, servicePrincipalRef, workloadPrincipalRef, humanPrincipalRef, a,
        q.allowedProjects, q.allowedOperations, q.allowedPurposes, q.delegationGrantRefs, policyBundleRef, policyVersion,
        policyEpoch, issuedAt, validUntil, status, .str (sha256Json q.payload.toVal)⟩ := by
  simp only [StoredPrincipal.verified, bind_ok] at h
  obtain ⟨projects, hprojects, projects', hprojects', operations, hoperations, operations', hoperations', purposes, hpurposes,
    purposes', hpurposes', grants, hgrants, grants', hgrants', -, -, -, -, -, -, -, -, -, -, h⟩ := h
  obtain rfl := Except.ok.inj h
  exact ⟨projects, operations, purposes, grants, ⟨hprojects, hprojects'⟩, ⟨hoperations, hoperations'⟩, ⟨hpurposes, hpurposes'⟩,
    ⟨hgrants, hgrants'⟩, rfl⟩

/-- An accepted payload is an object whose attestation is accepted, it carries
the fingerprint of the principal, and the principal is verified from its values. -/
theorem StoredPrincipal.fromPayload_ok {payload : Val} {q : StoredPrincipal} (h : StoredPrincipal.fromPayload payload = .ok q) :
    ∃ d, payload.asDict = some d ∧ attestationFromPayload d = .ok q.trustZoneAttestation ∧ d.get "fingerprint" = q.fingerprint ∧
      StoredPrincipal.verified (d.get "authentication_ref") (d.get "principal_ref") (d.get "principal_type")
        (d.get "service_principal_ref") q.trustZoneAttestation (d.get "allowed_projects") (d.get "allowed_operations")
        (d.get "allowed_purposes") (d.get "policy_bundle_ref") (d.get "policy_version") (d.get "policy_epoch")
        (d.get "issued_at") (d.get "valid_until") (d.get "workload_principal_ref") (d.get "human_principal_ref")
        (d.getD "delegation_grant_refs" (.list [])) (d.getD "status" (.str ACTIVE)) = .ok q := by
  simp only [StoredPrincipal.fromPayload, bind_ok] at h
  obtain ⟨d, hd, a, ha, x₁, h₁, x₂, h₂, x₃, h₃, x₄, h₄, x₅, h₅, x₆, h₆, x₇, h₇, x₈, h₈, x₉, h₉, x₁₀, h₁₀, x₁₁, h₁₁, x₁₂, h₁₂,
    principal, hverified, ⟨⟩, hfingerprint, h⟩ := h
  obtain rfl := Except.ok.inj h
  rw [← Dict.get_of_item h₁, ← Dict.get_of_item h₂, ← Dict.get_of_item h₃, ← Dict.get_of_item h₄, ← Dict.get_of_item h₅,
    ← Dict.get_of_item h₆, ← Dict.get_of_item h₇, ← Dict.get_of_item h₈, ← Dict.get_of_item h₉, ← Dict.get_of_item h₁₀,
    ← Dict.get_of_item h₁₁, ← Dict.get_of_item h₁₂] at hverified
  obtain ⟨-, -, -, -, -, -, -, -, heq⟩ := StoredPrincipal.verified_ok hverified
  have hattestation : principal.trustZoneAttestation = a := congrArg StoredPrincipal.trustZoneAttestation heq
  have hstr : principal.fingerprint = .str (sha256Json principal.payload.toVal) := congrArg StoredPrincipal.fingerprint heq
  rw [raiseIf_ok, Bool.not_eq_false', hstr, Val.str_eq, ← hstr] at hfingerprint
  exact ⟨d, dictOr_ok.mp hd, hattestation ▸ ha, hfingerprint, hattestation ▸ hverified⟩

/-- A principal of strings that is accepted is genuine. -/
theorem genuine_of_fromPayload {payload : Val} {p : AuthenticatedPrincipal}
    (h : StoredPrincipal.fromPayload payload = .ok p.stored) : p.Genuine := by
  obtain ⟨d, -, hattestation, -, hverified⟩ := StoredPrincipal.fromPayload_ok h
  refine ⟨?_, ?_⟩
  · have hissue := (attestationFromPayload_ok hattestation).1
    rw [AuthenticatedPrincipal.stored, StoredAttestation.issue_stored] at hissue
    obtain ⟨a, ha, hstored⟩ := exceptMap_ok hissue
    obtain rfl := TrustZoneAttestation.stored_inj hstored
    exact ⟨_, _, _, _, _, _, _, ha⟩
  · obtain ⟨projects, operations, purposes, grants, ⟨hprojects, hprojects'⟩, ⟨hoperations, hoperations'⟩, ⟨hpurposes, hpurposes'⟩,
      ⟨hgrants, hgrants'⟩, heq⟩ := StoredPrincipal.verified_ok hverified
    obtain ⟨projects, rfl, -⟩ := Val.sortedSet_eq_str hprojects'
    obtain ⟨operations, rfl, -⟩ := Val.sortedSet_eq_str hoperations'
    obtain ⟨purposes, rfl, -⟩ := Val.sortedSet_eq_str hpurposes'
    obtain ⟨grants, rfl, -⟩ := Val.sortedSet_eq_str hgrants'
    -- only the values of the lists count, so they may be lists of strings
    have hstr : StoredPrincipal.verified (.str p.authenticationRef) (.str p.principalRef) (.str p.principalType)
        (.str p.servicePrincipalRef) p.trustZoneAttestation.stored (strList projects) (strList operations) (strList purposes)
        (.str p.policyBundleRef) (.str p.policyVersion) (.int p.policyEpoch) (.str p.issuedAt) (.str p.validUntil)
        (optStr p.workloadPrincipalRef) (optStr p.humanPrincipalRef) (strList grants) (.str p.status) = .ok p.stored := by
      simp only [AuthenticatedPrincipal.stored, StoredPrincipal.mk.injEq] at heq
      obtain ⟨h₁, h₂, h₃, h₄, h₅, h₆, -, -, -, -, -, h₇, h₈, h₉, h₁₀, h₁₁, h₁₂, -⟩ := heq
      rw [h₁, h₂, h₃, h₄, h₅, h₆, h₇, h₈, h₉, h₁₀, h₁₁, h₁₂, ← hverified]
      exact StoredPrincipal.verified_congr hprojects.symm hoperations.symm hpurposes.symm hgrants.symm
    rw [StoredPrincipal.verified_str] at hstr
    obtain ⟨q, hq, hstored⟩ := exceptMap_ok hstr
    obtain rfl := AuthenticatedPrincipal.stored_inj hstored
    exact ⟨_, _, _, _, _, _, _, _, _, _, _, _, _, _, _, _, hq⟩

/-! ## Fingerprints -/

/-- Neither the payloads of two principals nor those of their attestations collide. -/
def Distinguished (q r : StoredPrincipal) : Prop :=
  ¬ Collide q.payload.toVal r.payload.toVal ∧ ¬ Collide q.trustZoneAttestation.payload.toVal r.trustZoneAttestation.payload.toVal

theorem distinguished_self (q : StoredPrincipal) : Distinguished q q := ⟨fun h => h.1 rfl, fun h => h.1 rfl⟩

/-- What is accepted carries the fingerprints of its fields. -/
theorem StoredPrincipal.fingerprinted_of_fromPayload {payload : Val} {q : StoredPrincipal}
    (h : StoredPrincipal.fromPayload payload = .ok q) :
    q.fingerprint = .str (sha256Json q.payload.toVal) ∧ q.trustZoneAttestation.Fingerprinted := by
  obtain ⟨d, -, hattestation, -, hverified⟩ := StoredPrincipal.fromPayload_ok h
  obtain ⟨-, -, -, -, -, -, -, -, heq⟩ := StoredPrincipal.verified_ok hverified
  exact ⟨congrArg StoredPrincipal.fingerprint heq, (StoredAttestation.issue_ok (attestationFromPayload_ok hattestation).1).2.1⟩

omit [Runtime] in
theorem printed_elements {reads : String → Rat} {v : Val} (h : v.Printed reads) {vs : List Val} (hvs : v.elements = .ok vs) :
    ∀ x ∈ vs, x.Printed reads := by
  intro x hx
  cases v with
  | list xs =>
    obtain rfl := Except.ok.inj hvs
    exact Val.printedList_iff.mp h x hx
  | str s =>
    obtain rfl := Except.ok.inj hvs
    obtain ⟨c, -, rfl⟩ := List.mem_map.mp hx
    trivial
  | dict items =>
    obtain rfl := Except.ok.inj hvs
    obtain ⟨kv, -, rfl⟩ := List.mem_map.mp hx
    trivial
  | _ => cases hvs

omit [Runtime] in
theorem printed_sortedSet {reads : String → Rat} {v : Val} (h : v.Printed reads) {vs ws : List Val}
    (hvs : v.elements = .ok vs ∧ Val.sortedSet vs = .ok ws) : (Val.list ws).Printed reads :=
  Val.printedList_iff.mpr fun x hx => printed_elements h hvs.1 x (Val.mem_of_sortedSet hvs.2 hx)

omit [Runtime] in
theorem printed_getD {reads : String → Rat} {d : Dict} (h : d.toVal.Printed reads) (k : String) {default : Val}
    (hdefault : default.Printed reads) : (d.getD k default).Printed reads := by
  rw [Dict.getD]
  rcases hk : d.get? k with _ | v
  · exact hdefault
  · exact Val.printed_toVal.mp h _ (Dict.mem_items_iff.mpr hk)

omit [Runtime] in
theorem forall_mem_ofItems {l : List (String × Val)} {P : String × Val → Prop} (h : ∀ kv ∈ l, P kv) :
    ∀ kv ∈ (Dict.ofItems l).items, P kv := fun kv hkv => h kv (Dict.mem_ofItems hkv)

/-- What a principal and its attestation are fingerprinted by can be told from its text. -/
structure StoredPrincipal.Printed (reads : String → Rat) (q : StoredPrincipal) : Prop where
  payload : ∀ kv ∈ q.payload.items, kv.2.Printed reads
  attestation : ∀ kv ∈ q.trustZoneAttestation.payload.items, kv.2.Printed reads

/-- What is fingerprinted is made of values of the payload. -/
theorem StoredPrincipal.printed_of_fromPayload {reads : String → Rat} {payload : Val} {q : StoredPrincipal}
    (h : StoredPrincipal.fromPayload payload = .ok q) (hprinted : payload.Printed reads) : q.Printed reads := by
  obtain ⟨d, hd, hattestation, -, hverified⟩ := StoredPrincipal.fromPayload_ok h
  obtain ⟨_, _, _, _, hprojects, hoperations, hpurposes, hgrants, heq⟩ := StoredPrincipal.verified_ok hverified
  obtain ⟨hissue, raw, hraw, hrefs, hprincipal, hzone, hissuer, hissued, huntil, hstatus⟩ := attestationFromPayload_ok hattestation
  have hd := Val.printed_asDict hprinted hd
  have hraw := Val.printed_asDict (Val.printed_get hd _) hraw
  have hnil : (Val.list []).Printed reads := Val.printedList_iff.mpr fun x hx => nomatch hx
  have hrefs := printed_elements (printed_getD hraw _ hnil) hrefs
  have hget (k : String) : (d.get k).Printed reads := Val.printed_get hd k
  refine ⟨?_, ?_⟩
  · have hstatus' : (d.getD "status" (.str ACTIVE)).Printed reads := printed_getD hd _ trivial
    rw [congrArg StoredPrincipal.payload heq, StoredPrincipal.payload]
    refine forall_mem_ofItems ?_
    simp only [List.forall_mem_cons]
    refine ⟨hget _, hget _, hget _, hget _, hget _, hget _, ?_, printed_sortedSet (hget _) hprojects,
      printed_sortedSet (hget _) hoperations, printed_sortedSet (hget _) hpurposes,
      printed_sortedSet (printed_getD hd _ hnil) hgrants, hget _, hget _, hget _, hget _, hget _, hstatus', nofun⟩
    rw [(StoredAttestation.issue_ok hissue).2.1.fingerprint]
    trivial
  · rw [StoredAttestation.payload]
    refine forall_mem_ofItems ?_
    simp only [List.forall_mem_cons, hprincipal, hzone, hissuer, hissued, huntil, hstatus]
    exact ⟨Val.printed_get hraw _, Val.printed_get hraw _, Val.printed_get hraw _, Val.printedList_iff.mpr hrefs,
      Val.printed_get hraw _, Val.printed_get hraw _, Val.printed_get hraw _, nofun⟩

omit [Runtime] in
theorem printed_optStr {reads : String → Rat} (s : Option String) : (optStr s).Printed reads := by
  cases s <;> trivial

omit [Runtime] in
theorem AuthenticatedPrincipal.printed_stored (p : AuthenticatedPrincipal) (reads : String → Rat) : p.stored.Printed reads := by
  have hstrs (l : List String) : (Val.list (l.map .str)).Printed reads := Val.printed_strList l
  refine ⟨forall_mem_ofItems ?_, forall_mem_ofItems ?_⟩
  · simp only [List.forall_mem_cons]
    exact ⟨trivial, trivial, trivial, trivial, printed_optStr _, printed_optStr _, trivial, hstrs _, hstrs _, hstrs _, hstrs _,
      trivial, trivial, trivial, trivial, trivial, trivial, nofun⟩
  · simp only [List.forall_mem_cons]
    exact ⟨trivial, trivial, trivial, hstrs _, trivial, trivial, trivial, nofun⟩

omit [Runtime] in
theorem eq_strs_of_sortKeys {vs : List Val} {l : List String}
    (h : (Val.list vs).sortKeys = (Val.list (l.map .str)).sortKeys) : vs = l.map .str := by
  rw [show Val.list (l.map .str) = strList l from rfl, Val.sortKeys_strList, Val.sortKeys, Val.sortKeysList_eq_map, strList,
    Val.list.injEq, Val.map_sortKeys_eq_str] at h
  exact h

omit [Runtime] in
theorem eq_str_of_sortKeys {v : Val} {s : String} (h : v.sortKeys = (Val.str s).sortKeys) : v = .str s := by
  rw [Val.sortKeys, Val.sortKeys_eq_str] at h
  exact h

omit [Runtime] in
theorem eq_optStr_of_sortKeys {v : Val} {s : Option String} (h : v.sortKeys = (optStr s).sortKeys) : v = optStr s := by
  rw [Val.sortKeys_optStr, Val.sortKeys_eq_optStr] at h
  exact h

/-- An attestation with the payload of one of strings is that one. -/
theorem StoredAttestation.eq_of_payload {b : StoredAttestation} {a : TrustZoneAttestation} (hb : b.Fingerprinted)
    (ha : a.stored.Fingerprinted) (h : ∀ k, (b.payload.get k).sortKeys = (a.stored.payload.get k).sortKeys)
    (hfingerprint : b.fingerprint = a.stored.fingerprint) : b = a.stored := by
  have hfields := And.intro (h "principal_ref") (And.intro (h "zone_id") (And.intro (h "issuer_ref") (And.intro (h "evidence_refs")
    (And.intro (h "issued_at") (And.intro (h "valid_until") (h "status"))))))
  simp only [StoredAttestation.payload, Dict.ofItems, List.foldl_cons, List.foldl_nil, Dict.get_insert, String.reduceEq,
    ↓reduceIte] at hfields
  obtain ⟨hprincipal, hzone, hissuer, hrefs, hissued, huntil, hstatus⟩ := hfields
  have hid : b.attestationId = a.stored.attestationId := by
    rw [hb.fingerprint, ha.fingerprint, Val.str.injEq] at hfingerprint
    rw [hb.attestationId, ha.attestationId, hfingerprint]
  exact StoredAttestation.ext hid (eq_str_of_sortKeys hprincipal) (eq_str_of_sortKeys hzone) (eq_str_of_sortKeys hissuer)
    (eq_strs_of_sortKeys hrefs) (eq_str_of_sortKeys hissued) (eq_str_of_sortKeys huntil) (eq_str_of_sortKeys hstatus) hfingerprint

/-- What is accepted with the fingerprint of a genuine principal is that principal. -/
theorem StoredPrincipal.eq_of_fingerprint {reads : String → Rat} {payload : Val} {q : StoredPrincipal} {p : AuthenticatedPrincipal}
    (hq : StoredPrincipal.fromPayload payload = .ok q) (hp : p.Genuine) (hprinted : q.Printed reads)
    (hdistinguished : Distinguished q p.stored) (hfingerprint : q.fingerprint = .str p.fingerprint) : q = p.stored := by
  obtain ⟨hq', hqa⟩ := StoredPrincipal.fingerprinted_of_fromPayload hq
  obtain ⟨hp', hpa⟩ := StoredPrincipal.fingerprinted_of_fromPayload hp.fromPayload
  have hsame := get_eq_of_fingerprint hprinted.payload (p.printed_stored reads).payload hdistinguished.1
    (Val.str.inj (hq'.symm.trans (hfingerprint.trans hp')))
  have hfields := And.intro (hsame "authentication_ref") (And.intro (hsame "principal_ref") (And.intro (hsame "principal_type")
    (And.intro (hsame "service_principal_ref") (And.intro (hsame "workload_principal_ref") (And.intro (hsame "human_principal_ref")
    (And.intro (hsame "trust_zone_attestation_fingerprint") (And.intro (hsame "allowed_projects") (And.intro (hsame "allowed_operations")
    (And.intro (hsame "allowed_purposes") (And.intro (hsame "delegation_grant_refs") (And.intro (hsame "policy_bundle_ref")
    (And.intro (hsame "policy_version") (And.intro (hsame "policy_epoch") (And.intro (hsame "issued_at") (And.intro (hsame "valid_until")
    (hsame "status"))))))))))))))))
  simp only [StoredPrincipal.payload, Dict.ofItems, List.foldl_cons, List.foldl_nil, Dict.get_insert, String.reduceEq,
    ↓reduceIte] at hfields
  obtain ⟨h₁, h₂, h₃, h₄, h₅, h₆, hattestation, h₇, h₈, h₉, h₁₀, h₁₁, h₁₂, h₁₃, h₁₄, h₁₅, h₁₆⟩ := hfields
  have hattestation : q.trustZoneAttestation = p.stored.trustZoneAttestation := by
    have hfingerprint := eq_str_of_sortKeys hattestation
    refine StoredAttestation.eq_of_payload hqa hpa (get_eq_of_fingerprint hprinted.attestation (p.printed_stored reads).attestation
      hdistinguished.2 ?_) hfingerprint
    exact Val.str.inj (hqa.fingerprint.symm.trans (hfingerprint.trans hpa.fingerprint))
  exact StoredPrincipal.ext (eq_str_of_sortKeys h₁) (eq_str_of_sortKeys h₂) (eq_str_of_sortKeys h₃) (eq_str_of_sortKeys h₄)
    (eq_optStr_of_sortKeys h₅) (eq_optStr_of_sortKeys h₆) hattestation (eq_strs_of_sortKeys h₇) (eq_strs_of_sortKeys h₈)
    (eq_strs_of_sortKeys h₉) (eq_strs_of_sortKeys h₁₀) (eq_str_of_sortKeys h₁₁) (eq_str_of_sortKeys h₁₂)
    (Val.sortKeys_eq_int.mp (h₁₃.trans (Val.sortKeys_eq_int.mpr rfl))) (eq_str_of_sortKeys h₁₄) (eq_str_of_sortKeys h₁₅)
    (eq_str_of_sortKeys h₁₆) hfingerprint

end Pmiri
