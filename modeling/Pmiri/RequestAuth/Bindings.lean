import Pmiri.RequestAuth.Service

/-!
# Bindings that the service issues

When `buildBinding` returns and what it returns, and that a service
revalidates what it issued for as long as the principal stands.
-/

namespace Pmiri

open Py

/-- The principal has a value for every component of a subject chain. -/
structure AuthenticatedPrincipal.Chained (p : AuthenticatedPrincipal) : Prop where
  service : p.servicePrincipalRef ≠ ""
  attestation : p.trustZoneAttestation.attestationId ≠ ""
  policy : p.policyBundleRef ≠ ""

/-- A principal and a request within its projects share an authority. -/
theorem intersectAuthority_requestScopes {p : AuthenticatedPrincipal} {request : QueryRequest} (operation : String)
    (h : request.projectConstraint ∈ p.allowedProjects) :
    ∃ vs ≠ [], ("project", vs) ∈
      intersectAuthority (RequestAuthorizationService.requestScopes p request operation) := by
  let rest : List Scope := [normalizedScope
    [("project", [request.projectConstraint]), ("operation", [operation]), ("purpose", [request.purpose])]]
  refine ⟨sortedSet (commonValues "project" rest (sortedSet p.allowedProjects)), ?_, ?_⟩
  · refine List.ne_nil_of_mem (a := request.projectConstraint) (mem_sortedSet.mpr (List.mem_filter.mpr ?_))
    refine ⟨mem_sortedSet.mpr h, ?_⟩
    simp [rest, normalizedScope, mem_sortedSet]
  · rw [intersectAuthority]
    simp only [RequestAuthorizationService.requestScopes, List.map_cons, List.map_nil, List.mem_map, mem_sortedSet,
      List.mem_filter]
    exact ⟨"project", by simp [normalizedScope], by simp [normalizedScope, rest]⟩

section

variable [Runtime]

/-- The binding a service for `operation` derives for a request. -/
structure Issued (operation : String) (request : QueryRequest) (p : AuthenticatedPrincipal) (issuedAt : String)
    (b : RequestAuthorizationBinding) : Prop where
  requestId : b.requestId = request.requestId
  scope : b.operation = operation ∧ b.purpose = request.purpose ∧ b.projectConstraint = request.projectConstraint
  normalized : ∃ d, request.normalized = .ok d ∧ b.requestFingerprint = sha256Json d.toVal ∧
    b.fingerprint = sha256Json (b.payload d).toVal
  principal : b.authenticationRef = p.authenticationRef ∧ b.principalRef = p.principalRef ∧
    b.policyEpoch = p.policyEpoch ∧ b.policyVersion = p.policyVersion
  validity : b.issuedAt = issuedAt ∧ b.validUntil = p.validUntil

namespace RequestAuthorizationService

theorem buildBinding_issued {operation : String} {request : QueryRequest} {p : AuthenticatedPrincipal}
    {issuedAt : String} {b : RequestAuthorizationBinding} (h : buildBinding operation request p issuedAt = .ok b) :
    Issued operation request p issuedAt b := by
  obtain ⟨d, hd, h⟩ := bind_ok.mp h
  obtain ⟨purpose, -, h⟩ := bind_ok.mp h
  obtain ⟨-, h⟩ := seq_ok.mp h
  obtain ⟨subject, -, h⟩ := bind_ok.mp h
  cases h
  exact ⟨rfl, ⟨rfl, rfl, rfl⟩, ⟨d, hd, rfl, rfl⟩, ⟨rfl, rfl, rfl, rfl⟩, rfl, rfl⟩

/-- A binding can be built for every request within the projects of a chained
principal. -/
theorem buildBinding_of_chained {operation : String} {request : QueryRequest} {p : AuthenticatedPrincipal}
    (hp : p.Chained) (hpurpose : request.purpose ≠ "") (hd : ∃ d, request.normalized = .ok d)
    (hproject : request.projectConstraint ∈ p.allowedProjects) (issuedAt : String) :
    ∃ b, buildBinding operation request p issuedAt = .ok b := by
  obtain ⟨d, hd⟩ := hd
  have href : "pmiri://operation/" ++ operation ≠ "" := by simp
  have hcreate : ∃ purpose, PurposeBinding.create ("pmiri://operation/" ++ operation) request.purpose p.policyBundleRef =
      .ok purpose ∧ purpose.purposeBindingId ≠ "" ∧ purpose.recognizedPurpose = request.purpose := by
    simp only [PurposeBinding.create, List.all_cons, List.all_nil, bne_iff_ne.mpr href, bne_iff_ne.mpr hpurpose,
      bne_iff_ne.mpr hp.policy, Bool.and_self, Bool.not_true, raiseIf, Bool.false_eq_true, ↓reduceIte, ok_bind]
    exact ⟨_, rfl, ref_ne_empty (by decide) _, rfl⟩
  obtain ⟨purpose, hc, hid, hrecognized⟩ := hcreate
  obtain ⟨vs, hne, hmem⟩ := intersectAuthority_requestScopes operation hproject
  have hany : (intersectAuthority (requestScopes p request operation)).any (fun q => !q.2.isEmpty) = true :=
    List.any_eq_true.mpr ⟨_, hmem, by simpa using hne⟩
  have hempty : (intersectAuthority (requestScopes p request operation)).isEmpty = false :=
    List.isEmpty_eq_false_iff.mpr (List.ne_nil_of_mem hmem)
  simp only [buildBinding, hd, hc, ok_bind, PurposeBinding.verifyRequestedPurpose, hrecognized, bne_self_eq_false,
    AuthorizationSubjectChain.derive, List.all_cons, List.all_nil, bne_iff_ne.mpr hp.service,
    bne_iff_ne.mpr hp.attestation, bne_iff_ne.mpr href, bne_iff_ne.mpr hid, Bool.and_self, Bool.not_true, raiseIf,
    Bool.false_eq_true, ↓reduceIte, hempty, hany, Bool.or_self]
  exact ⟨_, rfl⟩

end RequestAuthorizationService

/-- A binding is integral for the request it was derived from. -/
theorem Issued.integrityValid {operation : String} {request : QueryRequest} {p : AuthenticatedPrincipal}
    {issuedAt : String} {b : RequestAuthorizationBinding} (h : Issued operation request p issuedAt b) :
    b.integrityValid request = true := by
  obtain ⟨d, hd, hr, hf⟩ := h.normalized
  simp [RequestAuthorizationBinding.integrityValid, hd, h.requestId, hr, ← hf]

namespace RequestAuthorizationService

variable {κ ρ γ : Type} [RegistryPort κ]

/-- A service revalidates what was built for a principal that it still
resolves and that is still current. -/
theorem revalidate_of_built {s : RequestAuthorizationService κ ρ γ} {request : QueryRequest} {p : AuthenticatedPrincipal}
    {issuedAt current : String} {b : RequestAuthorizationBinding}
    (hscreen : s.screen request (some p.authenticationRef) current = .ok (.ok p))
    (hb : buildBinding s.operation request p issuedAt = .ok b) (hvalid : b.isValid current s.policyEpoch = .ok true) :
    s.revalidate request b current = .ok true := by
  obtain ⟨⟨d, hd⟩, hresolve, hp, hproject, hoperation, hpurpose⟩ := screen_ok.mp hscreen
  have hi := buildBinding_issued hb
  obtain ⟨hreference, hprincipal, hepoch, -⟩ := hi.principal
  obtain ⟨d', hd', hfingerprint, -⟩ := hi.normalized
  obtain rfl : d = d' := Except.ok.inj (hd.symm.trans hd')
  rw [revalidate, falseOn_true, hd, ok_bind, hreference, hresolve, ok_bind]
  refine revalidatePrincipal_ok.mpr ⟨⟨hp, hproject, hoperation, hpurpose⟩, ⟨?_, hfingerprint, hprincipal⟩, ?_, hvalid⟩
  · rw [hepoch, (AuthenticatedPrincipal.isValid_true hp).2.1]
  · rw [hi.validity.1, hb]

end RequestAuthorizationService

end

/-! ## A principal of one year -/

theorem parseTime_exampleNow : parseTime "2026-01-01T00:00:00Z" = .ok 63902822400000000 := by decide +kernel
theorem parseTime_exampleUntil : parseTime "2026-12-31T00:00:00Z" = .ok 63934272000000000 := by decide +kernel

def examplePrincipal (epoch : Int) : AuthenticatedPrincipal where
  authenticationRef := "auth://example"
  principalRef := "principal://example"
  principalType := "service"
  servicePrincipalRef := "service://example"
  workloadPrincipalRef := none
  humanPrincipalRef := none
  trustZoneAttestation := {
    attestationId := "trust-attestation://example"
    principalRef := "principal://example"
    zoneId := "local"
    issuerRef := "issuer://local"
    evidenceRefs := ["evidence://example"]
    issuedAt := "2026-01-01T00:00:00Z"
    validUntil := "2026-12-31T00:00:00Z"
    status := "ACTIVE"
    fingerprint := "" }
  allowedProjects := ["project"]
  allowedOperations := ["provider_call"]
  allowedPurposes := ["provider_call"]
  delegationGrantRefs := []
  policyBundleRef := "policy://local"
  policyVersion := "local-policy-0.1"
  policyEpoch := epoch
  issuedAt := "2026-01-01T00:00:00Z"
  validUntil := "2026-12-31T00:00:00Z"
  status := "ACTIVE"
  fingerprint := ""

def exampleQuery (requestId : String) : QueryRequest where
  requestId := requestId
  projectConstraint := "project"
  query := "query"
  purpose := "provider_call"

/-- A service that knows the principal, over a replay guard. -/
def exampleService {γ : Type} (epoch : Int) (guard : γ) :
    RequestAuthorizationService AuthenticationRegistry FixedWindowRateLimiter γ where
  registry := ⟨[("auth://example", examplePrincipal epoch)]⟩
  currentPolicyEpoch := epoch
  rateLimiter := {}
  replayGuard := guard
  operation := "provider_call"

theorem validInterval_example :
    validInterval "2026-01-01T00:00:00Z" "2026-12-31T00:00:00Z" "2026-01-01T00:00:00Z" = .ok true :=
  validInterval_true.mpr ⟨_, _, _, parseTime_exampleNow, parseTime_exampleNow, parseTime_exampleUntil, by decide, by decide⟩

theorem validInterval_exampleUntil :
    validInterval "2026-01-01T00:00:00Z" "2026-12-31T00:00:00Z" "2026-12-31T00:00:00Z" = .ok true :=
  validInterval_true.mpr ⟨_, _, _, parseTime_exampleNow, parseTime_exampleUntil, parseTime_exampleUntil, by decide, by decide⟩

theorem exampleQuery_normalized {requestId : String} (hid : requestId ≠ "") :
    (exampleQuery requestId).normalized = .ok (exampleQuery requestId).asDict := by
  have hquery : (strip isSpace "query".toList).isEmpty = false := by decide
  have hcomplete : (exampleQuery requestId).complete = true := by
    rw [QueryRequest.complete, exampleQuery, hquery, bne_iff_ne.mpr hid]
    rfl
  exact QueryRequest.normalized_ok.mpr ⟨hcomplete, by simp [exampleQuery], by simp [exampleQuery], rfl⟩

section

variable {γ : Type} (epoch : Int) (guard : γ) {requestId : String} (current : String)

theorem exampleService_screens (hid : requestId ≠ "")
    {current : String} (hcurrent : validInterval "2026-01-01T00:00:00Z" "2026-12-31T00:00:00Z" current = .ok true) :
    (exampleService epoch guard).screen (exampleQuery requestId) (some "auth://example") current =
      .ok (.ok (examplePrincipal epoch)) := by
  have hvalid : (examplePrincipal epoch).isValid current epoch = .ok true := by
    simp [AuthenticatedPrincipal.isValid, examplePrincipal, ACTIVE, hcurrent, pyAnd, Except.bind,
      TrustZoneAttestation.isValid]
  exact RequestAuthorizationService.screen_ok.mpr ⟨⟨_, exampleQuery_normalized hid⟩,
    rfl, hvalid, List.mem_singleton.mpr rfl, List.mem_singleton.mpr rfl, List.mem_singleton.mpr rfl⟩

theorem exampleService_builds [Runtime] (hid : requestId ≠ "") :
    ∃ b, RequestAuthorizationService.buildBinding "provider_call" (exampleQuery requestId) (examplePrincipal epoch) current =
      .ok b :=
  RequestAuthorizationService.buildBinding_of_chained (by constructor <;> simp [examplePrincipal]) (by simp [exampleQuery])
    ⟨_, exampleQuery_normalized hid⟩ (List.mem_singleton.mpr rfl) _

end

end Pmiri
