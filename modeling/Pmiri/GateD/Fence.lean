import Pmiri.GateD.Envelope

/-!
# The emission fence

`gate_d.py`: `authorizeEmission` is the last check before a transport runs. It
returns, or it raises; `FenceAccepts` is what it returns on.
-/

namespace Pmiri

open Py

/-- `_RUNTIME_INTEGRATED_REQUIRED_FIELDS` -/
def RUNTIME_INTEGRATED_REQUIRED_FIELDS : List String := [
  "record_type", "schema_version", "decision_id", "request_authorization_fingerprint", "authorization_lineage_ref",
  "authorization_lineage_fingerprint", "source_evidence_set_ref", "source_evidence_set_fingerprint", "context_intent_ref",
  "context_intent_fingerprint", "inherited_epistemic_ceiling_ref", "inherited_epistemic_ceiling_fingerprint",
  "semantic_obligations_ref", "semantic_obligations_fingerprint", "subject_chain_fingerprint", "purpose_fingerprint",
  "operation", "purpose", "material_manifest_fingerprint", "destination_binding_ref", "destination_binding_fingerprint",
  "trust_assertion_set_fingerprint", "capability_observation_set_fingerprint", "policy_version", "freshness_profile_id",
  "freshness_profile_fingerprint", "invalidation_epoch", "emission_mode", "authority_manifest_fingerprint", "validity_ref",
  "trust_state", "capability_state", "action_result", "content_lifecycle", "outbound_network_decision_ref",
  "outbound_network_decision_fingerprint", "fetched_content_lifecycle_ref", "fetched_content_lifecycle_fingerprint",
  "fetched_content_origin_binding_ref", "fetched_content_destination_binding_ref", "fetched_content_admission_state",
  "fetched_content_retrieval_visibility", "fetched_content_history_terminal_state",
  "fetched_content_terminal_response_fingerprint", "reason_class", "decision_fingerprint",
  "constrained_artifact_fingerprint", "network_binding_fingerprint", "constraint_refs"]

/-- `_RUNTIME_OUTBOUND_REQUIRED_FIELDS` -/
def RUNTIME_OUTBOUND_REQUIRED_FIELDS : List String := [
  "record_type", "schema_version", "decision_id", "operation", "purpose", "destination_binding_ref",
  "destination_identity_ref", "canonicalization_profile_id", "canonicalization_profile_fingerprint", "normalized_target",
  "connection_binding_ref", "connection_binding_fingerprint", "selected_target_resolution_ref", "selected_target_ip",
  "selected_target_family", "resolution_set_status", "connection_binding_status", "final_revalidation_event_sequence",
  "final_revalidation_result", "tls_identity_status", "tls_identity_fingerprint", "connection_epoch",
  "invalidation_epoch", "freshness_profile_id", "freshness_profile_fingerprint", "purpose_binding_ref",
  "trust_decision_ref", "capability_decision_ref", "limits_profile_ref", "authority_manifest_fingerprint",
  "action_result", "content_lifecycle", "fetched_content_lifecycle_ref", "fetched_content_lifecycle_fingerprint",
  "fetched_content_origin_binding_ref", "fetched_content_destination_binding_ref", "fetched_content_admission_state",
  "fetched_content_retrieval_visibility", "fetched_content_history_terminal_state",
  "fetched_content_terminal_response_fingerprint", "reason_class", "validity_ref", "decision_fingerprint"]

/-- The request an emission is authorized for, as a caller may pass it. -/
inductive AuthorizationRequest where
  | query (q : QueryRequest)
  | mapping (d : Dict)
  | absent

/-- The `revalidate` method of a revalidator, which may raise. -/
abbrev Revalidator := QueryRequest → RequestAuthorizationBinding → String → Except Exc Bool

/-- What a caller presents to the fence. -/
structure EmissionInput where
  envelope : Dict
  trustDecision : Dict
  capabilityDecision : Dict
  networkDecision : Option Dict
  lifecycle : Option Dict := none
  authorizationBinding : Option RequestAuthorizationBinding := none
  authorizationRequest : AuthorizationRequest := .absent
  authorizationRevalidator : Option Revalidator := none

/-- What `sha256_json` does with the records that a caller presents. -/
structure EmissionSerializations where
  envelope : Serialization
  trust : Serialization
  capability : Serialization
  network : Serialization
  lifecycle : Serialization

/-- All of them can be written. -/
def EmissionSerializations.written : EmissionSerializations := ⟨.written, .written, .written, .written, .written⟩

section

variable [Runtime]

/-- `_authorization_request` -/
def authorizationRequest : AuthorizationRequest → Option QueryRequest
  | .query q => some q
  | .mapping d => requestFromMapping d
  | .absent => none

/-- The envelope's fields that the binding determines. -/
def expectedBindingFields (b : RequestAuthorizationBinding) : List (String × Val) := [
  ("request_authorization_fingerprint", .str b.fingerprint),
  ("authorization_lineage_ref", .str b.bindingId),
  ("authorization_lineage_fingerprint", .str b.fingerprint),
  ("subject_chain_fingerprint", .str b.subjectChainFingerprint),
  ("purpose_fingerprint", .str b.purposeBindingFingerprint),
  ("operation", .str b.operation),
  ("purpose", .str b.purpose),
  ("policy_version", .str b.policyVersion),
  ("invalidation_epoch", .int b.policyEpoch)]

namespace GateDDecisionEngine

variable (g : GateDDecisionEngine)

/-- The part of the fence about the records alone. -/
def checkEnvelope (s : EmissionSerializations) (i : EmissionInput) : Except Exc Unit := do
  validateIntegratedEnvelope i.envelope
  trustDecisionChecks s.trust i.trustDecision
  capabilityDecisionChecks s.capability i.capabilityDecision
  s.envelope.outcome
  raiseIf (differs i.envelope "decision_fingerprint" (decisionFingerprint i.envelope))
    (contractViolation "integrated_decision_fingerprint_mismatch")
  raiseIf (!(i.envelope.get "invalidation_epoch").eq (.int g.invalidationEpoch)) (contractViolation "POLICY_EPOCH_CHANGED")
  raiseIf (!i.envelope.agrees "trust_state" i.trustDecision "trust_state")
    (contractViolation "trust_state_binding_mismatch")
  raiseIf (!i.envelope.agrees "capability_state" i.capabilityDecision "capability_state")
    (contractViolation "capability_state_binding_mismatch")
  raiseIf (differs i.envelope "emission_mode" "EXTERNAL") (contractViolation "LOCAL_ONLY_EMISSION")
  raiseIfM ((i.envelope.get "action_result").notIn PERMITTING)
    (contractViolation (i.envelope.getD "reason_class" (.str "DENIED")).toStr)

/-- The part about the binding: the request it is for and the binding. -/
def checkBinding (i : EmissionInput) : Except Exc Unit :=
  match i.authorizationBinding with
  | none => .error (contractViolation "AUTHORITY_MISSING")
  | some b => do
    raiseIfM (pyNot (b.isValid g.now g.invalidationEpoch)) (contractViolation "AUTHORITY_STALE_OR_INVALID")
    raiseIf (b.policyVersion != g.policyVersion) (contractViolation "POLICY_VERSION_MISMATCH")
    match authorizationRequest i.authorizationRequest with
    | none => .error (contractViolation "REQUEST_BINDING_MISMATCH")
    | some query =>
      raiseIf (!b.integrityValid query) (contractViolation "REQUEST_BINDING_MISMATCH")
      raiseIf ((expectedBindingFields b).any fun kv => !(i.envelope.get kv.1).eq kv.2)
        (contractViolation "AUTHORIZATION_BINDING_MISMATCH")
      match i.authorizationRevalidator with
      | none => .error (contractViolation "AUTHORITY_REVALIDATION_FAILED")
      | some revalidate =>
        raiseIfM (pyNot (revalidate query b g.now)) (contractViolation "AUTHORITY_REVALIDATION_FAILED")

/-- `_require_runtime_record_shape` -/
def requireRuntimeRecordShape (record : Dict) (expected : List String) (label : String) : Except Exc Unit :=
  raiseIf (!record.keysAre expected) (contractViolation (label ++ "_schema_shape_invalid"))

/-- The part about the network decision. -/
def checkNetwork (s : EmissionSerializations) (i : EmissionInput) : Except Exc Unit :=
  match i.networkDecision with
  | none => .error (contractViolation "network_decision_missing")
  | some n => do
    requireRuntimeRecordShape i.envelope RUNTIME_INTEGRATED_REQUIRED_FIELDS "integrated_envelope"
    requireRuntimeRecordShape n RUNTIME_OUTBOUND_REQUIRED_FIELDS "outbound_network_decision"
    raiseIf (!i.envelope.agrees "network_binding_fingerprint" n "connection_binding_fingerprint")
      (contractViolation "network_binding_fingerprint_mismatch")
    raiseIf (!i.envelope.agrees "outbound_network_decision_ref" n "decision_id" ||
      !i.envelope.agrees "outbound_network_decision_fingerprint" n "decision_fingerprint")
      (contractViolation "outbound_network_decision_binding_mismatch")
    raiseIf (!i.envelope.agrees "destination_binding_ref" n "destination_binding_ref")
      (contractViolation "destination_binding_mismatch")
    externalEmissionChecks s.network s.lifecycle i.envelope n i.lifecycle

/-- `authorize_emission`, of records that are serialized as `s` says. -/
def fence (s : EmissionSerializations) (i : EmissionInput) : Except Exc Unit := do
  g.checkEnvelope s i
  g.checkBinding i
  checkNetwork s i

def authorizeEmission (i : EmissionInput) : Except Exc Unit := g.fence .written i

/-! ## What the fence accepts -/

/-- The records alone. -/
structure EnvelopeAccepted (i : EmissionInput) : Prop where
  trust : TrustDecision i.trustDecision
  capability : CapabilityDecision i.capabilityDecision
  fingerprint : i.envelope.get "decision_fingerprint" = .str (decisionFingerprint i.envelope)
  epoch : (i.envelope.get "invalidation_epoch").eq (.int g.invalidationEpoch) = true
  trustState : i.envelope.get "trust_state" = i.trustDecision.get "trust_state"
  capabilityState : i.envelope.get "capability_state" = i.capabilityDecision.get "capability_state"
  external : i.envelope.get "emission_mode" = .str "EXTERNAL"
  action : ∃ x ∈ PERMITTING, i.envelope.get "action_result" = .str x

/-- The binding, for the request and under the revalidator. -/
structure BindingAccepted (i : EmissionInput) (b : RequestAuthorizationBinding) (query : QueryRequest)
    (revalidate : Revalidator) : Prop where
  binding : i.authorizationBinding = some b
  request : authorizationRequest i.authorizationRequest = some query
  revalidator : i.authorizationRevalidator = some revalidate
  valid : b.isValid g.now g.invalidationEpoch = .ok true
  version : b.policyVersion = g.policyVersion
  integrity : b.integrityValid query = true
  fields : ∀ kv ∈ expectedBindingFields b, (i.envelope.get kv.1).eq kv.2 = true
  revalidated : revalidate query b g.now = .ok true

omit g in
/-- The network decision, with the lifecycle of what it fetched. -/
structure NetworkAccepted (i : EmissionInput) (n : Dict) : Prop where
  network : i.networkDecision = some n
  envelopeShape : ∀ k, k ∈ i.envelope.keys ↔ k ∈ RUNTIME_INTEGRATED_REQUIRED_FIELDS
  networkShape : ∀ k, k ∈ n.keys ↔ k ∈ RUNTIME_OUTBOUND_REQUIRED_FIELDS
  connection : i.envelope.agrees "network_binding_fingerprint" n "connection_binding_fingerprint" = true
  decision : i.envelope.agrees "outbound_network_decision_ref" n "decision_id" = true
  decisionFingerprint : i.envelope.agrees "outbound_network_decision_fingerprint" n "decision_fingerprint" = true
  destination : i.envelope.agrees "destination_binding_ref" n "destination_binding_ref" = true
  emission : ExternalEmission i.envelope n i.lifecycle

/-- What `authorizeEmission` returns on. -/
structure FenceAccepts (i : EmissionInput) : Prop where
  envelope : g.EnvelopeAccepted i
  binding : ∃ b query revalidate, g.BindingAccepted i b query revalidate
  network : ∃ n, NetworkAccepted i n

theorem checkEnvelope_ok {s : EmissionSerializations} {i : EmissionInput} :
    g.checkEnvelope s i = .ok () ↔
      (s.trust.Passes ∧ s.capability.Passes ∧ s.envelope.Passes) ∧ IntegratedEnvelope i.envelope ∧ g.EnvelopeAccepted i := by
  simp only [checkEnvelope, seq_ok, raiseIf_ok, raiseIfM_ok, validateIntegratedEnvelope_ok, trustDecisionChecks_ok,
    capabilityDecisionChecks_ok, Bool.not_eq_false', differs_false, Val.notIn_ok_false]
  constructor
  · rintro ⟨h₁, ⟨htrust, h₂⟩, ⟨hcapability, h₃⟩, henvelope, h₄, h₅, h₆, h₇, h₈, h₉⟩
    obtain ⟨x, -, hs⟩ := h₂.state
    obtain ⟨c, -, hc⟩ := h₃.state
    rw [Dict.agrees, hs, Val.eq_str, ← hs] at h₆
    rw [Dict.agrees, hc, Val.eq_str, ← hc] at h₇
    exact ⟨⟨htrust, hcapability, henvelope⟩, h₁, h₂, h₃, h₄, h₅, h₆, h₇, h₈, h₉⟩
  · rintro ⟨⟨htrust, hcapability, henvelope⟩, h₁, h⟩
    refine ⟨h₁, ⟨htrust, h.trust⟩, ⟨hcapability, h.capability⟩, henvelope, h.fingerprint, h.epoch, ?_, ?_, h.external, h.action⟩
    · rw [Dict.agrees, h.trustState, Val.eq_refl]
    · rw [Dict.agrees, h.capabilityState, Val.eq_refl]

theorem checkBinding_ok {i : EmissionInput} :
    g.checkBinding i = .ok () ↔ ∃ b query revalidate, g.BindingAccepted i b query revalidate := by
  constructor
  · intro h
    unfold checkBinding at h
    split at h
    · cases h
    · rename_i b hb
      rw [seq_ok, seq_ok, raiseIfM_ok, pyNot_ok, raiseIf_ok] at h
      obtain ⟨hvalid, hversion, h⟩ := h
      split at h
      · cases h
      · rename_i query hq
        rw [seq_ok, seq_ok, raiseIf_ok, raiseIf_ok] at h
        obtain ⟨hintegrity, hfields, h⟩ := h
        split at h
        · cases h
        · rename_i revalidate hr
          rw [raiseIfM_ok, pyNot_ok] at h
          exact ⟨b, query, revalidate, hb, hq, hr, hvalid, by simpa using hversion, by simpa using hintegrity,
            by simpa using hfields, h⟩
  · rintro ⟨b, query, revalidate, h⟩
    simp only [checkBinding, h.binding, h.request, h.revalidator, seq_ok, raiseIfM_ok, raiseIf_ok, pyNot_ok,
      Bool.not_false, h.valid, h.revalidated, h.integrity, h.version, bne_self_eq_false, Bool.not_true, true_and,
      and_true, List.any_eq_false, Bool.not_eq_true', Bool.not_eq_false]
    exact h.fields

omit g in
theorem checkNetwork_ok {i : EmissionInput} : checkNetwork .written i = .ok () ↔ ∃ n, NetworkAccepted i n := by
  rw [checkNetwork]
  rcases hn : i.networkDecision with _ | n
  · simp only [reduceCtorEq, false_iff, not_exists]
    exact fun n h => by cases hn.symm.trans h.network
  · simp only [requireRuntimeRecordShape, seq_ok, raiseIf_ok, Bool.not_eq_false', Dict.keysAre_iff,
      Bool.or_eq_false_iff, EmissionSerializations.written, ← validateExternalEmission.eq_1, validateExternalEmission_ok]
    constructor
    · rintro ⟨h₁, h₂, h₃, ⟨h₄, h₅⟩, h₆, h₇⟩
      exact ⟨n, hn, h₁, h₂, h₃, h₄, h₅, h₆, h₇⟩
    · rintro ⟨m, h⟩
      obtain rfl : n = m := Option.some.inj (hn.symm.trans h.network)
      exact ⟨h.envelopeShape, h.networkShape, h.connection, ⟨h.decision, h.decisionFingerprint⟩, h.destination, h.emission⟩

/-- The fence returns exactly on what `FenceAccepts` says. -/
theorem authorizeEmission_ok {i : EmissionInput} : g.authorizeEmission i = .ok () ↔ g.FenceAccepts i := by
  rw [authorizeEmission, fence, seq_ok, seq_ok, g.checkEnvelope_ok, g.checkBinding_ok, checkNetwork_ok]
  constructor
  · rintro ⟨⟨-, -, h₁⟩, h₂, h₃⟩
    exact ⟨h₁, h₂, h₃⟩
  · rintro ⟨h₁, h₂, n, h₃⟩
    exact ⟨⟨⟨rfl, rfl, rfl⟩, h₃.emission.envelope, h₁⟩, h₂, n, h₃⟩

end GateDDecisionEngine

end

end Pmiri
