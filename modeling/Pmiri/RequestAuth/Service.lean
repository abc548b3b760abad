import Pmiri.RequestAuth.Guards

/-!
# The request authorization service

`request_auth.py`: the exact-request binding, and the service that evaluates a
request and revalidates a binding. The service is generic in its registry, its
rate limiter and its replay guard, as the source injects them. An evaluation
returns the state it leaves behind also where it denies or raises.
-/

namespace Pmiri

open Py

/-! ## Bindings -/

structure RequestAuthorizationBinding where
  bindingId : String
  requestId : String
  requestFingerprint : String
  authenticationRef : String
  principalRef : String
  subjectChainFingerprint : String
  trustZoneAttestationFingerprint : String
  trustZone : String
  purposeBindingFingerprint : String
  operation : String
  purpose : String
  projectConstraint : String
  policyBundleRef : String
  policyVersion : String
  policyEpoch : Int
  issuedAt : String
  validUntil : String
  fingerprint : String
deriving DecidableEq

/-- The neutral binding that is returned to a caller. -/
structure PublicLineage where
  authorizationRef : String
  requestFingerprint : String
  scope : String
deriving DecidableEq

def PublicLineage.asDict (l : PublicLineage) : Dict :=
  .ofItems [
    ("authorization_ref", .str l.authorizationRef),
    ("request_fingerprint", .str l.requestFingerprint),
    ("scope", .str l.scope)]

section Bindings

variable [Runtime]

/-- The binding derived from a request alone. -/
def lineageOf (requestFingerprint project : String) : PublicLineage :=
  ⟨"auth_" ++ String.ofList ((sha256Json (Dict.ofItems [
      ("request_fingerprint", .str requestFingerprint),
      ("scope", .str "server-derived-local-read")]).toVal).toList.take 32), requestFingerprint, project⟩

namespace RequestAuthorizationBinding

def publicLineage (b : RequestAuthorizationBinding) : PublicLineage :=
  lineageOf b.requestFingerprint b.projectConstraint

omit [Runtime] in
/-- The dictionary a binding's fingerprint is taken over. -/
def payload (b : RequestAuthorizationBinding) (normalized : Dict) : Dict :=
  .ofItems [
    ("request", normalized.toVal),
    ("authentication_ref", .str b.authenticationRef),
    ("principal_ref", .str b.principalRef),
    ("subject_chain_fingerprint", .str b.subjectChainFingerprint),
    ("trust_zone_attestation_fingerprint", .str b.trustZoneAttestationFingerprint),
    ("trust_zone", .str b.trustZone),
    ("purpose_binding_fingerprint", .str b.purposeBindingFingerprint),
    ("operation", .str b.operation),
    ("project_constraint", .str b.projectConstraint),
    ("policy_bundle_ref", .str b.policyBundleRef),
    ("policy_version", .str b.policyVersion),
    ("policy_epoch", .int b.policyEpoch),
    ("issued_at", .str b.issuedAt),
    ("valid_until", .str b.validUntil)]

omit [Runtime] in
def isValid (b : RequestAuthorizationBinding) (now : String) (currentPolicyEpoch : Int) : Except Exc Bool :=
  if b.policyEpoch == currentPolicyEpoch then validInterval b.issuedAt b.validUntil now else .ok false

/-- The binding is the one the service derives for `request`. -/
def integrityValid (b : RequestAuthorizationBinding) (request : QueryRequest) : Bool :=
  match request.normalized with
  | .error _ => false
  | .ok normalized =>
    b.requestId == request.requestId && b.requestFingerprint == sha256Json normalized.toVal &&
      b.fingerprint == sha256Json (b.payload normalized).toVal

omit [Runtime] in
theorem isValid_true {b : RequestAuthorizationBinding} {now : String} {epoch : Int} :
    b.isValid now epoch = .ok true ↔ b.policyEpoch = epoch ∧ validInterval b.issuedAt b.validUntil now = .ok true := by
  unfold isValid
  split <;> rename_i h
  · simp [beq_iff_eq.mp h]
  · simpa using fun e => absurd (beq_iff_eq.mpr e) h

end RequestAuthorizationBinding

end Bindings

/-! ## The service -/

structure AuthorizationEvaluation where
  result : String
  reason : String
  binding : Option RequestAuthorizationBinding := none
deriving DecidableEq

def AUTHORIZATION_ALLOW : String := "ALLOW"
def AUTHORIZATION_DENY : String := "DENY"
def READ_OPERATION : String := "read"

namespace AuthorizationEvaluation

def allowed (e : AuthorizationEvaluation) : Bool := e.result == AUTHORIZATION_ALLOW

def deny (reason : String) : AuthorizationEvaluation := ⟨AUTHORIZATION_DENY, reason, none⟩

def allow (binding : RequestAuthorizationBinding) : AuthorizationEvaluation := ⟨AUTHORIZATION_ALLOW, "NONE", some binding⟩

@[simp] theorem allowed_deny (reason : String) : (deny reason).allowed = false := rfl
@[simp] theorem allowed_allow (b : RequestAuthorizationBinding) : (allow b).allowed = true := rfl

end AuthorizationEvaluation

structure RequestAuthorizationService (κ ρ γ : Type) where
  registry : κ
  currentPolicyEpoch : Int := 0
  policyEpochStore : Option Int := none
  rateLimiter : ρ
  replayGuard : γ
  operation : String := READ_OPERATION

namespace RequestAuthorizationService

variable {κ ρ γ : Type} [RegistryPort κ] [RatePort ρ] [ReplayPort γ]

omit [RegistryPort κ] [RatePort ρ] [ReplayPort γ] in
/-- `self._current_policy_epoch()` -/
def policyEpoch (s : RequestAuthorizationService κ ρ γ) : Int := s.policyEpochStore.getD s.currentPolicyEpoch

omit [RegistryPort κ] [RatePort ρ] [ReplayPort γ] in
def advancePolicyEpoch (s : RequestAuthorizationService κ ρ γ) (newEpoch : Int) :
    Except Exc (RequestAuthorizationService κ ρ γ) :=
  match s.policyEpochStore with
  | some current =>
    if newEpoch < 0 then .error (valueError "policy_epoch_invalid")
    else if newEpoch < current then .error (valueError "policy_epoch_cannot_move_backwards")
    else .ok { s with policyEpochStore := some newEpoch, currentPolicyEpoch := newEpoch }
  | none =>
    if newEpoch < s.currentPolicyEpoch then .error (valueError "policy_epoch_cannot_move_backwards")
    else .ok { s with currentPolicyEpoch := newEpoch }

/-- The scopes a subject's authority is the intersection of: what the
principal may do, and what the request asks for. -/
def requestScopes (p : AuthenticatedPrincipal) (request : QueryRequest) (operation : String) : List Scope :=
  [[("project", p.allowedProjects), ("operation", p.allowedOperations), ("purpose", p.allowedPurposes)],
   [("project", [request.projectConstraint]), ("operation", [operation]), ("purpose", [request.purpose])]]

variable [Runtime]

/-- `_build_binding` for a service that performs `operation`. -/
def buildBinding (operation : String) (request : QueryRequest) (p : AuthenticatedPrincipal) (issuedAt : String) :
    Except Exc RequestAuthorizationBinding := do
  let normalized ← request.normalized
  let operationRef := "pmiri://operation/" ++ operation
  let purpose ← PurposeBinding.create operationRef request.purpose p.policyBundleRef
  purpose.verifyRequestedPurpose request.purpose
  let subject ← AuthorizationSubjectChain.derive p.servicePrincipalRef p.trustZoneAttestation.attestationId
    operationRef purpose.purposeBindingId (requestScopes p request operation) p.humanPrincipalRef
    p.workloadPrincipalRef p.delegationGrantRefs
  let draft : RequestAuthorizationBinding := {
    bindingId := ""
    requestId := request.requestId
    requestFingerprint := sha256Json normalized.toVal
    authenticationRef := p.authenticationRef
    principalRef := p.principalRef
    subjectChainFingerprint := subject.fingerprint
    trustZoneAttestationFingerprint := p.trustZoneAttestation.fingerprint
    trustZone := p.trustZone
    purposeBindingFingerprint := purpose.fingerprint
    operation := operation
    purpose := request.purpose
    projectConstraint := request.projectConstraint
    policyBundleRef := p.policyBundleRef
    policyVersion := p.policyVersion
    policyEpoch := p.policyEpoch
    issuedAt := issuedAt
    validUntil := p.validUntil
    fingerprint := "" }
  let fingerprint := sha256Json (draft.payload normalized).toVal
  return { draft with
    bindingId := "request-auth://" ++ String.ofList (fingerprint.toList.take 32), fingerprint := fingerprint }

omit [Runtime] in
/-- The checks of `evaluate` on the principal: the principal, or the reason for
denying. -/
def screenPrincipal (operation : String) (request : QueryRequest) (current : String) (epoch : Int)
    (p : AuthenticatedPrincipal) : Except Exc (Except String AuthenticatedPrincipal) := do
  if !(← p.isValid current epoch) then return .error "AUTHORITY_STALE_OR_INVALID"
  else if !p.allowedProjects.contains request.projectConstraint then return .error "SCOPE_MISMATCH"
  else if !p.allowedOperations.contains operation then return .error "OPERATION_NOT_ALLOWED"
  else if !p.allowedPurposes.contains request.purpose then return .error "PURPOSE_NOT_ALLOWED"
  else return .ok p

omit [RatePort ρ] [ReplayPort γ] [Runtime] in
/-- The checks of `evaluate` before it consumes anything. -/
def screen (s : RequestAuthorizationService κ ρ γ) (request : QueryRequest) (authenticationRef : Option String)
    (current : String) : Except Exc (Except String AuthenticatedPrincipal) := do
  let _ ← request.normalized
  match ← resolve s.registry authenticationRef with
  | none => return .error "AUTHENTICATION_UNKNOWN"
  | some p => screenPrincipal s.operation request current s.policyEpoch p

/-- The outcome of an exception inside `evaluate`. -/
def denyCaught (e : Exc) : Except Exc AuthorizationEvaluation :=
  if e.isTypeValueOrKeyError then .ok (.deny "AUTHORIZATION_INVALID") else .error e

/-- `evaluate` at `current`; `clock` is the reading of the limiter's clock. -/
def evaluate (s : RequestAuthorizationService κ ρ γ) (request : QueryRequest) (authenticationRef : Option String)
    (current : String) (clock : Rat) : Except Exc AuthorizationEvaluation × RequestAuthorizationService κ ρ γ :=
  match s.screen request authenticationRef current with
  | .error e => (denyCaught e, s)
  | .ok (.error reason) => (.ok (.deny reason), s)
  | .ok (.ok p) =>
    let (admitted, limiter) := RatePort.consume s.rateLimiter (p.principalRef ++ ":" ++ s.operation) clock
    let s := { s with rateLimiter := limiter }
    if !admitted then (.ok (.deny "RATE_LIMITED"), s)
    else
      match buildBinding s.operation request p current with
      | .error e => (denyCaught e, s)
      | .ok binding =>
        match ReplayPort.consume s.replayGuard request.requestId binding.fingerprint binding.validUntil current with
        | .error e => (denyCaught e, s)
        | .ok (false, guard) => (.ok (.deny "REQUEST_REPLAY"), { s with replayGuard := guard })
        | .ok (true, guard) => (.ok (.allow binding), { s with replayGuard := guard })

/-- The checks of `revalidate` on the principal. -/
def revalidatePrincipal (operation : String) (request : QueryRequest) (binding : RequestAuthorizationBinding)
    (current : String) (epoch : Int) (normalized : Dict) (p : AuthenticatedPrincipal) : Except Exc Bool := do
  if !(← p.isValid current epoch) then return false
  else if binding.policyEpoch != epoch then return false
  else if binding.requestFingerprint != sha256Json normalized.toVal then return false
  else if binding.principalRef != p.principalRef then return false
  else if !p.allowedProjects.contains request.projectConstraint then return false
  else if !p.allowedPurposes.contains request.purpose || !p.allowedOperations.contains operation then return false
  else
    let candidate ← buildBinding operation request p binding.issuedAt
    pyAnd (.ok (decide (candidate = binding))) (binding.isValid current epoch)

/-- `revalidate` at `current` -/
def revalidate (s : RequestAuthorizationService κ ρ γ) (request : QueryRequest)
    (binding : RequestAuthorizationBinding) (current : String) : Except Exc Bool :=
  falseOn Exc.isTypeValueOrKeyError do
    let normalized ← request.normalized
    match ← resolve s.registry (some binding.authenticationRef) with
    | none => return false
    | some p => revalidatePrincipal s.operation request binding current s.policyEpoch normalized p

/-! ## What an evaluation did -/

omit [Runtime] in
/-- The checks pass exactly for a current principal whose scope includes the
request. -/
theorem screenPrincipal_ok {operation current : String} {request : QueryRequest} {epoch : Int} {p q : AuthenticatedPrincipal} :
    screenPrincipal operation request current epoch q = .ok (.ok p) ↔
      q = p ∧ q.isValid current epoch = .ok true ∧ request.projectConstraint ∈ q.allowedProjects ∧
        operation ∈ q.allowedOperations ∧ request.purpose ∈ q.allowedPurposes := by
  rw [screenPrincipal, bind_ok]
  simp only [pure, Except.pure]
  constructor
  · rintro ⟨valid, hvalid, h⟩
    split at h
    · cases h
    split at h
    · cases h
    split at h
    · cases h
    split at h
    · cases h
    rename_i h₁ h₂ h₃ h₄
    simp only [Bool.not_eq_true', Bool.not_eq_false, List.contains_eq_mem, decide_eq_true_eq] at h₁ h₂ h₃ h₄
    cases h
    exact ⟨rfl, h₁ ▸ hvalid, h₂, h₃, h₄⟩
  · rintro ⟨rfl, hvalid, h₂, h₃, h₄⟩
    exact ⟨true, hvalid, by simp [h₂, h₃, h₄]⟩

omit [RatePort ρ] [ReplayPort γ] [Runtime] in
theorem screen_ok {s : RequestAuthorizationService κ ρ γ} {request : QueryRequest} {a : Option String}
    {current : String} {p : AuthenticatedPrincipal} :
    s.screen request a current = .ok (.ok p) ↔
      (∃ d, request.normalized = .ok d) ∧ resolve s.registry a = .ok (some p) ∧
        p.isValid current s.policyEpoch = .ok true ∧ request.projectConstraint ∈ p.allowedProjects ∧
        s.operation ∈ p.allowedOperations ∧ request.purpose ∈ p.allowedPurposes := by
  rw [screen, bind_ok]
  simp only [bind_ok]
  constructor
  · rintro ⟨d, hd, found, hfound, h⟩
    rcases found with _ | q
    · cases h
    · have hscreen := screenPrincipal_ok.mp h
      obtain rfl := hscreen.1
      exact ⟨⟨d, hd⟩, hfound, hscreen.2⟩
  · rintro ⟨⟨d, hd⟩, hfound, h⟩
    exact ⟨d, hd, some p, hfound, screenPrincipal_ok.mpr ⟨rfl, h⟩⟩

/-- What is revalidated was built for a current principal whose scope includes
the request, and is valid itself. -/
theorem revalidatePrincipal_ok {operation current : String} {request : QueryRequest} {b : RequestAuthorizationBinding}
    {epoch : Int} {d : Dict} {p : AuthenticatedPrincipal} :
    revalidatePrincipal operation request b current epoch d p = .ok true ↔
      (p.isValid current epoch = .ok true ∧ request.projectConstraint ∈ p.allowedProjects ∧
        operation ∈ p.allowedOperations ∧ request.purpose ∈ p.allowedPurposes) ∧
      (b.policyEpoch = epoch ∧ b.requestFingerprint = sha256Json d.toVal ∧ b.principalRef = p.principalRef) ∧
      buildBinding operation request p b.issuedAt = .ok b ∧ b.isValid current epoch = .ok true := by
  rw [revalidatePrincipal, bind_ok]
  simp only [pure, Except.pure, unless_ok_true, bind_ok, pyAnd_ok_true, ok_bool, decide_eq_true_eq, Bool.not_eq_true',
    Bool.not_eq_false, bne_iff_ne, ne_eq, not_not, Bool.or_eq_true, not_or, List.contains_eq_mem, decide_eq_false_iff_not]
  constructor
  · rintro ⟨_, hvalid, rfl, hepoch, hfingerprint, hprincipal, hproject, ⟨hpurpose, hoperation⟩, c, hc, rfl, hb⟩
    exact ⟨⟨hvalid, hproject, hoperation, hpurpose⟩, ⟨hepoch, hfingerprint, hprincipal⟩, hc, hb⟩
  · rintro ⟨⟨hvalid, hproject, hoperation, hpurpose⟩, ⟨hepoch, hfingerprint, hprincipal⟩, hc, hb⟩
    exact ⟨_, hvalid, rfl, hepoch, hfingerprint, hprincipal, hproject, ⟨hpurpose, hoperation⟩, _, hc, rfl, hb⟩

omit [Runtime] in
theorem denyCaught_allowed {e : Exc} {ev : AuthorizationEvaluation} (h : denyCaught e = .ok ev) :
    ev.allowed = false := by
  unfold denyCaught at h
  split at h
  · cases h; rfl
  · cases h

/-- An evaluation that allows passed the checks and the limiter, built the
binding it returns, and had the replay guard accept the request id. -/
structure Admits (s : RequestAuthorizationService κ ρ γ) (request : QueryRequest) (a : Option String)
    (current : String) (clock : Rat) (p : AuthenticatedPrincipal) (binding : RequestAuthorizationBinding)
    (guard : γ) : Prop where
  screened : s.screen request a current = .ok (.ok p)
  admitted : (RatePort.consume s.rateLimiter (p.principalRef ++ ":" ++ s.operation) clock).1 = true
  built : buildBinding s.operation request p current = .ok binding
  fresh : ReplayPort.consume s.replayGuard request.requestId binding.fingerprint binding.validUntil current =
    .ok (true, guard)

theorem evaluate_allow {s s' : RequestAuthorizationService κ ρ γ} {request : QueryRequest} {a : Option String}
    {current : String} {clock : Rat} {ev : AuthorizationEvaluation}
    (h : s.evaluate request a current clock = (.ok ev, s')) (hev : ev.allowed = true) :
    ∃ p binding, ev = .allow binding ∧ s.Admits request a current clock p binding s'.replayGuard := by
  unfold evaluate at h
  split at h
  · rw [denyCaught_allowed (Prod.mk.inj h).1] at hev; cases hev
  · cases h; cases hev
  · rename_i p hp
    simp only at h
    split at h
    · cases h; cases hev
    · rename_i ha
      split at h
      · rw [denyCaught_allowed (Prod.mk.inj h).1] at hev; cases hev
      · rename_i binding hb
        split at h
        · rw [denyCaught_allowed (Prod.mk.inj h).1] at hev; cases hev
        · cases h; cases hev
        · rename_i guard hg
          cases h
          exact ⟨p, binding, rfl, hp, by simpa using ha, hb, hg⟩

omit [Runtime] in
theorem denyCaught_ok {e : Exc} {ev : AuthorizationEvaluation} (h : denyCaught e = .ok ev) :
    ev = .deny "AUTHORIZATION_INVALID" := by
  unfold denyCaught at h
  split at h
  · exact (Except.ok.inj h).symm
  · cases h

/-- An evaluation that does not allow denies, for some reason, without a binding. -/
theorem evaluate_deny {s s' : RequestAuthorizationService κ ρ γ} {request : QueryRequest} {a : Option String}
    {current : String} {clock : Rat} {ev : AuthorizationEvaluation}
    (h : s.evaluate request a current clock = (.ok ev, s')) (hev : ev.allowed = false) : ∃ reason, ev = .deny reason := by
  unfold evaluate at h
  split at h
  · exact ⟨_, denyCaught_ok (Prod.mk.inj h).1⟩
  · cases h; exact ⟨_, rfl⟩
  · simp only at h
    split at h
    · cases h; exact ⟨_, rfl⟩
    · split at h
      · exact ⟨_, denyCaught_ok (Prod.mk.inj h).1⟩
      · split at h
        · exact ⟨_, denyCaught_ok (Prod.mk.inj h).1⟩
        · cases h; exact ⟨_, rfl⟩
        · cases h; cases hev

/-- The converse: the evaluation of an admitted request allows it. -/
theorem evaluate_of_admits {s : RequestAuthorizationService κ ρ γ} {request : QueryRequest} {a : Option String}
    {current : String} {clock : Rat} {p : AuthenticatedPrincipal} {binding : RequestAuthorizationBinding} {guard : γ}
    (h : s.Admits request a current clock p binding guard) :
    s.evaluate request a current clock = (.ok (.allow binding), { s with
      rateLimiter := (RatePort.consume s.rateLimiter (p.principalRef ++ ":" ++ s.operation) clock).2
      replayGuard := guard }) := by
  unfold evaluate
  simp only [h.screened, h.admitted, h.built, h.fresh, Bool.not_true, Bool.false_eq_true, ↓reduceIte]

end RequestAuthorizationService

end Pmiri
