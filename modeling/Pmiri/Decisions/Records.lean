import Pmiri.Canonical
import Pmiri.Python.Datetime
import Pmiri.Python.Checks

/-!
# Trust, capability and lifecycle records

`decisions.py`: the vocabularies of Gate D, and the validators of the records
that one authority makes on its own. Each validator returns or raises
`ContractViolation`; a record may hold anything in any field. The
specification of a validator is the structure of what it accepts.
-/

namespace Pmiri

open Py

/-! ## Vocabularies -/

def OPERATIONS : List String := ["provider_call", "connector_fetch", "attachment_fetch", "external_fetch"]
def PURPOSES : List String := ["retrieval", "context_delivery", "external_fetch", "attachment_import", "provider_call"]
def ACTIONS : List String :=
  ["ALLOW", "ALLOW_WITH_CONSTRAINTS", "DENY", "REQUIRE_REVIEW", "REQUIRE_REVALIDATION", "LOCAL_ONLY"]
def LIFECYCLES : List String :=
  ["NOT_APPLICABLE", "QUARANTINED", "ADMITTED_TYPED_DATA", "REJECTED", "DISCARDED", "ABORTED"]
def LEGAL_TRANSITIONS : List ((String × String) × String) := [
  (("NOT_APPLICABLE", "QUARANTINED"), "FETCH_COMPLETED"),
  (("QUARANTINED", "ADMITTED_TYPED_DATA"), "ADMISSION_APPROVED"),
  (("QUARANTINED", "REJECTED"), "REJECTED"),
  (("QUARANTINED", "DISCARDED"), "DISCARDED"),
  (("QUARANTINED", "ABORTED"), "ABORTED"),
  (("ADMITTED_TYPED_DATA", "DISCARDED"), "DISCARDED"),
  (("ADMITTED_TYPED_DATA", "ABORTED"), "ABORTED")]
def TRUST_STATES : List String :=
  ["TRUSTED_FOR_BOUND_PURPOSE", "CONDITIONALLY_TRUSTED", "UNTRUSTED", "UNKNOWN", "EXPIRED", "REVOKED", "CONTRADICTED",
    "INVALID"]
def CAPABILITY_STATES : List String :=
  ["FRESH", "STALE", "MISSING", "REVOKED", "CONTRADICTED", "INVALID", "OUT_OF_SCOPE"]
def REASON_CLASSES : List String := [
  "NONE", "AUTHORITY_MISSING", "AUTHORITY_CONFLICT", "EXACT_BINDING_MISSING", "SCOPE_MISMATCH",
  "POLICY_UNKNOWN", "POLICY_STALE", "POLICY_CONTRADICTION", "STALE_EVIDENCE", "REVOKED_EVIDENCE",
  "CLASSIFICATION_MISMATCH", "MATERIAL_FINGERPRINT_MISMATCH", "CAPABILITY_MISSING", "CAPABILITY_OUT_OF_SCOPE",
  "DESTINATION_NOT_ALLOWLISTED", "CREDENTIAL_SCOPE_INVALID", "CREDENTIAL_VISIBILITY_RISK", "URL_INVALID",
  "UNSUPPORTED_SCHEME", "PRIVATE_ADDRESS", "DNS_REBINDING", "REDIRECT_UNAUTHORIZED", "TLS_IDENTITY_MISMATCH",
  "RESOURCE_LIMIT_EXCEEDED", "CONTENT_TYPE_DISALLOWED", "SEMANTIC_OBLIGATION_UNSATISFIABLE", "CITATION_INVALID",
  "HIDDEN_RETRIEVAL_ATTEMPT", "POLICY_EPOCH_CHANGED", "TEARDOWN_UNPROVEN", "UNTRUSTED_EXTERNAL_CONTROL_TEXT",
  "INTERNAL_CONTRACT_INVALID", "REVIEW_REQUIRED"]

/-- `{"ALLOW", "ALLOW_WITH_CONSTRAINTS"}` -/
def PERMITTING : List String := ["ALLOW", "ALLOW_WITH_CONSTRAINTS"]

/-- `ContractViolation(msg)` -/
def contractViolation (msg : String) : Exc := .valueError "ContractViolation" msg

/-- `except ContractViolation` catches it. -/
def isContractViolation : Exc → Bool
  | .valueError cls _ => cls == "ContractViolation"
  | _ => false

/-! ## Common checks -/

/-- `_required` -/
def required (record : Dict) (fields : List String) (label : String) : Except Exc Unit :=
  let missing := fields.filter (!record.contains ·)
  raiseIf (!missing.isEmpty) (contractViolation (label ++ "_missing:" ++ ",".intercalate missing))

theorem required_ok {record : Dict} {fields : List String} {label : String} :
    required record fields label = .ok () ↔ ∀ f ∈ fields, record.contains f = true := by
  simp [required, List.filter_eq_nil_iff]

/-- What `sha256_json` does with the fields that a fingerprint covers before it hashes them: they can be written, or it raises
what is no `ContractViolation`. -/
structure Serialization where
  outcome : Except Exc Unit
  uncaught : ∀ e, outcome = .error e → isContractViolation e = false

namespace Serialization

/-- Of fields that can be written. -/
def written : Serialization := ⟨.ok (), nofun⟩

def Passes (s : Serialization) : Prop := s.outcome = .ok ()

@[simp] theorem outcome_written : written.outcome = .ok () := rfl

@[simp] theorem passes_written : written.Passes := rfl

end Serialization

/-- The field `own` is the fingerprint of the other fields. -/
def SelfFingerprint [Runtime] (record : Dict) (own : String) : Prop :=
  record.get own = .str (sha256Json (record.without own).toVal)

section Validators

variable [Runtime]

/-! ## Trust decisions -/

def trustDecisionFields : List String := [
  "record_type", "schema_version", "decision_id", "destination_binding_ref", "purpose_binding_ref",
  "material_manifest_ref", "trust_assertion_refs", "capability_decision_ref", "authority_manifest_fingerprint",
  "freshness_profile_id", "freshness_profile_fingerprint", "validity_ref", "trust_state", "action_result",
  "content_lifecycle", "reason_class", "decision_fingerprint"]

def trustDecisionOptional : List String := ["constraint_artifact_ref", "allowed_feature_refs", "redaction_profile_ref"]

def nonTrustedStates : List String := ["UNTRUSTED", "UNKNOWN", "EXPIRED", "REVOKED", "CONTRADICTED", "INVALID"]

/-- `validate_trust_decision`, of a record whose other fields are serialized for its fingerprint as `s` says. -/
def trustDecisionChecks (s : Serialization) (record : Dict) : Except Exc Unit := do
  required record trustDecisionFields "trust_decision"
  raiseIf (!record.keysWithin (trustDecisionFields ++ trustDecisionOptional) ||
    differs record "record_type" "PMIRI_D2_TRUST_DECISION" || differs record "schema_version" "0.3")
    (contractViolation "trust_decision_schema_invalid")
  raiseIf (!(record.get "trust_assertion_refs").isNonemptyList) (contractViolation "trust_assertion_refs_invalid")
  raiseIf (!(record.get "trust_assertion_refs").isStrList) (contractViolation "trust_assertion_refs_invalid")
  raiseIf (!isSha256 (record.get "authority_manifest_fingerprint") ||
    !isSha256 (record.get "freshness_profile_fingerprint")) (contractViolation "trust_fingerprint_invalid")
  raiseIf (!isSha256 (record.get "decision_fingerprint")) (contractViolation "trust_decision_fingerprint_invalid")
  s.outcome
  raiseIf (differs record "decision_fingerprint" (sha256Json (record.without "decision_fingerprint").toVal))
    (contractViolation "trust_decision_fingerprint_mismatch")
  raiseIfM ((record.get "trust_state").notIn TRUST_STATES) (contractViolation "trust_state_unknown")
  raiseIfM ((record.get "reason_class").notIn REASON_CLASSES) (contractViolation "trust_reason_class_invalid")
  raiseIfM ((record.get "action_result").notIn ACTIONS) (contractViolation "action_unknown")
  raiseIf (differs record "content_lifecycle" "NOT_APPLICABLE")
    (contractViolation "trust_content_lifecycle_must_be_not_applicable")
  raiseIfM (pyAnd ((record.get "trust_state").isIn nonTrustedStates) ((record.get "action_result").isIn PERMITTING))
    (contractViolation "non_trusted_trust_cannot_allow")
  raiseIf (!differs record "trust_state" "CONDITIONALLY_TRUSTED" &&
    differs record "action_result" "ALLOW_WITH_CONSTRAINTS") (contractViolation "conditional_trust_requires_constraints")
  raiseIf (!differs record "action_result" "ALLOW_WITH_CONSTRAINTS" &&
    !(["constraint_artifact_ref", "redaction_profile_ref"].all fun field => (record.get field).isNonemptyStr))
    (contractViolation "trust_constraints_missing")
  raiseIf (record.contains "allowed_feature_refs" && !(record.get "allowed_feature_refs").isStrList)
    (contractViolation "trust_allowed_features_invalid")

def validateTrustDecision (record : Dict) : Except Exc Unit := trustDecisionChecks .written record

/-- What `validateTrustDecision` accepts. -/
structure TrustDecision (d : Dict) : Prop where
  present : ∀ f ∈ trustDecisionFields, d.contains f = true
  known : ∀ k ∈ d.keys, k ∈ trustDecisionFields ++ trustDecisionOptional
  recordType : d.get "record_type" = .str "PMIRI_D2_TRUST_DECISION"
  schemaVersion : d.get "schema_version" = .str "0.3"
  assertions : (d.get "trust_assertion_refs").isNonemptyList = true ∧ (d.get "trust_assertion_refs").isStrList = true
  authority : isSha256 (d.get "authority_manifest_fingerprint") = true
  freshness : isSha256 (d.get "freshness_profile_fingerprint") = true
  fingerprint : SelfFingerprint d "decision_fingerprint"
  state : ∃ x ∈ TRUST_STATES, d.get "trust_state" = .str x
  reason : ∃ x ∈ REASON_CLASSES, d.get "reason_class" = .str x
  action : ∃ x ∈ ACTIONS, d.get "action_result" = .str x
  lifecycle : d.get "content_lifecycle" = .str "NOT_APPLICABLE"
  nonTrusted : (∃ x ∈ nonTrustedStates, d.get "trust_state" = .str x) → ∀ x ∈ PERMITTING, d.get "action_result" ≠ .str x
  conditional : d.get "trust_state" = .str "CONDITIONALLY_TRUSTED" → d.get "action_result" = .str "ALLOW_WITH_CONSTRAINTS"
  constraints : d.get "action_result" = .str "ALLOW_WITH_CONSTRAINTS" →
    (d.get "constraint_artifact_ref").isNonemptyStr = true ∧ (d.get "redaction_profile_ref").isNonemptyStr = true
  features : d.contains "allowed_feature_refs" = true → (d.get "allowed_feature_refs").isStrList = true

theorem trustDecisionChecks_ok {s : Serialization} {d : Dict} :
    trustDecisionChecks s d = .ok () ↔ s.Passes ∧ TrustDecision d := by
  simp only [trustDecisionChecks, seq_ok, required_ok, raiseIf_ok, raiseIfM_ok, Bool.or_eq_false_iff,
    Bool.and_eq_false_imp, Bool.not_eq_true', Bool.not_eq_false', differs_false, Val.notIn_ok_false,
    Dict.keysWithin_iff, List.all_cons, List.all_nil, Bool.and_eq_true, and_true]
  constructor
  · rintro ⟨h₁, ⟨⟨h₂, h₃⟩, h₄⟩, h₅, h₆, ⟨h₇, h₈⟩, -, hs, h₉, h₁₀, h₁₁, h₁₂, h₁₃, h₁₄, h₁₅, h₁₆, h₁₇⟩
    exact ⟨hs, h₁, h₂, h₃, h₄, ⟨h₅, h₆⟩, h₇, h₈, h₉, h₁₀, h₁₁, h₁₂, h₁₃,
      (pyAnd_isIn_ok_false (h₁₀.imp fun _ => And.right) (h₁₂.imp fun _ => And.right)).mp h₁₄, h₁₅, h₁₆, h₁₇⟩
  · intro hboth
    obtain ⟨hs, h⟩ := hboth
    have hf : isSha256 (d.get "decision_fingerprint") = true := by rw [h.fingerprint]; simp
    have hp := (pyAnd_isIn_ok_false (h.state.imp fun _ => And.right) (h.action.imp fun _ => And.right)).mpr h.nonTrusted
    exact ⟨h.present, ⟨⟨h.known, h.recordType⟩, h.schemaVersion⟩, h.assertions.1, h.assertions.2,
      ⟨h.authority, h.freshness⟩, hf, hs, h.fingerprint, h.state, h.reason, h.action, h.lifecycle, hp, h.conditional,
      h.constraints, h.features⟩

theorem validateTrustDecision_ok {d : Dict} : validateTrustDecision d = .ok () ↔ TrustDecision d :=
  trustDecisionChecks_ok.trans (and_iff_right Serialization.passes_written)

/-! ## Capability decisions -/

def capabilityDecisionFields : List String := [
  "record_type", "schema_version", "decision_id", "subject_binding", "purpose", "material_manifest_ref",
  "material_manifest_fingerprint", "capability_profile_fingerprint", "observation_refs", "policy_version",
  "invalidation_epoch", "authority_manifest_fingerprint", "freshness_profile_id", "freshness_profile_fingerprint",
  "capability_state", "action_result", "reason_class", "validity_ref", "decision_fingerprint"]

def capabilityFingerprints : List String := [
  "material_manifest_fingerprint", "capability_profile_fingerprint", "authority_manifest_fingerprint",
  "freshness_profile_fingerprint", "decision_fingerprint"]

/-- `validate_capability_decision`, of a record whose other fields are serialized for its fingerprint as `s` says. -/
def capabilityDecisionChecks (s : Serialization) (record : Dict) : Except Exc Unit := do
  required record capabilityDecisionFields "capability_decision"
  raiseIf (!record.keysAre capabilityDecisionFields ||
    differs record "record_type" "PMIRI_D2_CAPABILITY_DECISION" || differs record "schema_version" "0.2")
    (contractViolation "capability_decision_schema_invalid")
  raiseIf (!(record.get "observation_refs").isStrList) (contractViolation "capability_observation_refs_invalid")
  raiseIf (differs record "capability_state" "MISSING" && !(record.get "observation_refs").truthy)
    (contractViolation "capability_observation_refs_missing")
  raiseIf (!capabilityFingerprints.all fun field => isSha256 (record.get field))
    (contractViolation "capability_decision_fingerprint_invalid")
  s.outcome
  raiseIf (differs record "decision_fingerprint" (sha256Json (record.without "decision_fingerprint").toVal))
    (contractViolation "capability_decision_fingerprint_mismatch")
  raiseIf (!(record.get "invalidation_epoch").isNatural) (contractViolation "capability_decision_epoch_invalid")
  raiseIfM (pyOr ((record.get "capability_state").notIn CAPABILITY_STATES) ((record.get "action_result").notIn ACTIONS))
    (contractViolation "capability_vocabulary_invalid")
  raiseIfM ((record.get "reason_class").notIn REASON_CLASSES) (contractViolation "capability_reason_class_invalid")
  raiseIfM (pyAnd (.ok (differs record "capability_state" "FRESH")) ((record.get "action_result").isIn PERMITTING))
    (contractViolation "non_fresh_capability_cannot_allow")
  raiseIf (!differs record "capability_state" "MISSING" && differs record "reason_class" "CAPABILITY_MISSING")
    (contractViolation "capability_missing_reason_mismatch")

def validateCapabilityDecision (record : Dict) : Except Exc Unit := capabilityDecisionChecks .written record

/-- What `validateCapabilityDecision` accepts. -/
structure CapabilityDecision (d : Dict) : Prop where
  keys : ∀ k, k ∈ d.keys ↔ k ∈ capabilityDecisionFields
  recordType : d.get "record_type" = .str "PMIRI_D2_CAPABILITY_DECISION"
  schemaVersion : d.get "schema_version" = .str "0.2"
  observations : (d.get "observation_refs").isStrList = true
  observed : d.get "capability_state" ≠ .str "MISSING" → (d.get "observation_refs").truthy = true
  fingerprints : ∀ f ∈ capabilityFingerprints, isSha256 (d.get f) = true
  fingerprint : SelfFingerprint d "decision_fingerprint"
  epoch : (d.get "invalidation_epoch").isNatural = true
  state : ∃ x ∈ CAPABILITY_STATES, d.get "capability_state" = .str x
  action : ∃ x ∈ ACTIONS, d.get "action_result" = .str x
  reason : ∃ x ∈ REASON_CLASSES, d.get "reason_class" = .str x
  nonFresh : d.get "capability_state" ≠ .str "FRESH" → ∀ x ∈ PERMITTING, d.get "action_result" ≠ .str x
  missing : d.get "capability_state" = .str "MISSING" → d.get "reason_class" = .str "CAPABILITY_MISSING"

theorem capabilityDecisionChecks_ok {s : Serialization} {d : Dict} :
    capabilityDecisionChecks s d = .ok () ↔ s.Passes ∧ CapabilityDecision d := by
  simp only [capabilityDecisionChecks, seq_ok, required_ok, raiseIf_ok, raiseIfM_ok, Bool.or_eq_false_iff,
    Bool.and_eq_false_imp, Bool.not_eq_true', Bool.not_eq_false', differs_false, differs_true, Val.notIn_ok_false,
    Dict.keysAre_iff, List.all_eq_true, pyOr_ok_false]
  constructor
  · rintro ⟨-, ⟨⟨h₁, h₂⟩, h₃⟩, h₄, h₅, h₆, hs, h₇, h₈, ⟨h₉, h₁₀⟩, h₁₁, h₁₂, h₁₃⟩
    refine ⟨hs, h₁, h₂, h₃, h₄, h₅, h₆, h₇, h₈, h₉, h₁₀, h₁₁, fun hstate => ?_, h₁₃⟩
    exact (pyAnd_ok_isIn_ok_false (h₁₀.imp fun _ => And.right)).mp h₁₂ (differs_true.mpr hstate)
  · intro hboth
    obtain ⟨hs, h⟩ := hboth
    have hp := (pyAnd_ok_isIn_ok_false (c := differs d "capability_state" "FRESH")
      (h.action.imp fun _ => And.right)).mpr fun e => h.nonFresh (differs_true.mp e)
    exact ⟨fun f hf => Dict.contains_iff.mpr ((h.keys f).mpr hf), ⟨⟨h.keys, h.recordType⟩, h.schemaVersion⟩,
      h.observations, h.observed, h.fingerprints, hs, h.fingerprint, h.epoch, ⟨h.state, h.action⟩, h.reason, hp, h.missing⟩

theorem validateCapabilityDecision_ok {d : Dict} : validateCapabilityDecision d = .ok () ↔ CapabilityDecision d :=
  capabilityDecisionChecks_ok.trans (and_iff_right Serialization.passes_written)

/-! ## Lifecycle records -/

def lifecycleFields : List String := [
  "record_type", "schema_version", "content_id", "operation", "purpose", "origin_binding_ref",
  "destination_binding_ref", "response_fingerprint", "terminal_response_fingerprint", "observed_content_type",
  "response_size_bytes", "initial_classification", "trust_state", "history_start_state", "history_terminal_state",
  "admission_state", "retrieval_visibility", "canonical_or_control_influence_prohibited", "transitions",
  "authority_manifest_fingerprint", "lifecycle_fingerprint"]

def lifecycleOptional : List String := ["admission_predicate", "typed_data_schema_ref", "typed_data_fingerprint"]

def lifecycleIdentity : List String :=
  ["content_id", "origin_binding_ref", "destination_binding_ref", "observed_content_type", "initial_classification"]

def predicateFields : List String := [
  "explicit_operation", "explicit_operation_ref", "origin_bound", "parser_result_ref", "classification_ref",
  "validation_result_ref", "content_policy_result_ref", "instruction_influence_prohibited",
  "control_influence_prohibited"]

def transitionFields : List String :=
  ["sequence", "from_state", "to_state", "event", "observed_at", "actor_ref", "reason_class"]

/-- The visibility of content in a terminal state; `None` for any other value. -/
def visibilityOf (state : Val) : Val :=
  match state with
  | .str "QUARANTINED" => .str "QUARANTINE_ONLY"
  | .str "ADMITTED_TYPED_DATA" => .str "TYPED_DATA_ONLY"
  | .str "REJECTED" | .str "DISCARDED" | .str "ABORTED" => .str "NONE"
  | _ => .none

/-- The instant of a transition, if its time stamp denotes one and it is not
before the previous one. -/
def transitionTime (observedAt : String) (previous : Option Int) : Option Int := do
  let timestamp ← (← fromisoformat (expandZ observedAt)).instant?
  match previous with
  | some t => if timestamp < t then none else some timestamp
  | none => some timestamp

/-- One round of the loop over the transitions: the state and the time it
leaves for the next round. -/
def checkTransition (sequence : Nat) (previous : Val × Option Int) (transition : Val) :
    Except Exc (Val × Option Int) := do
  match transition.asDict with
  | none => .error (contractViolation "lifecycle_transition_invalid")
  | some t =>
    raiseIf (!t.keysAre transitionFields) (contractViolation "lifecycle_transition_schema_invalid")
    raiseIf (!(t.get "sequence").eq (.int sequence) || !(t.get "from_state").eq previous.1)
      (contractViolation "lifecycle_history_disconnected")
    raiseIfM ((t.get "reason_class").notIn REASON_CLASSES) (contractViolation "lifecycle_transition_reason_invalid")
    match transitionTime (t.get "observed_at").toStr previous.2 with
    | none => .error (contractViolation "lifecycle_transition_time_invalid")
    | some timestamp =>
      match LEGAL_TRANSITIONS.lookup ((t.get "from_state").toStr, (t.get "to_state").toStr) with
      | none => .error (contractViolation "lifecycle_transition_forbidden")
      | some event =>
        raiseIf (differs t "event" event) (contractViolation "lifecycle_transition_forbidden")
        return (t.get "to_state", some timestamp)

/-- The loop over the transitions. -/
def checkTransitions (sequence : Nat) (previous : Val × Option Int) : List Val → Except Exc (Val × Option Int)
  | [] => .ok previous
  | t :: ts => do checkTransitions (sequence + 1) (← checkTransition sequence previous t) ts

/-- What a lifecycle that fetched something says of its admission. -/
def checkAdmission (record : Dict) : Except Exc Unit :=
  match (record.get "admission_predicate").asDict with
  | none => .error (contractViolation "lifecycle_admission_predicate_missing")
  | some predicate => do
    raiseIf (!predicate.keysAre predicateFields) (contractViolation "lifecycle_admission_predicate_schema_invalid")
    required predicate predicateFields "lifecycle_admission_predicate"
    raiseIf (!(predicate.get "explicit_operation").eq (record.get "operation") ||
      !(predicate.get "origin_bound").isTrue) (contractViolation "lifecycle_admission_binding_invalid")
    raiseIf (!(predicate.get "instruction_influence_prohibited").isTrue ||
      !(predicate.get "control_influence_prohibited").isTrue)
      (contractViolation "lifecycle_control_influence_not_prohibited")
    raiseIf (!(record.get "retrieval_visibility").eq (visibilityOf (record.get "history_terminal_state")))
      (contractViolation "lifecycle_visibility_mismatch")
    raiseIf (!differs record "history_terminal_state" "ADMITTED_TYPED_DATA" &&
      !(["typed_data_schema_ref", "typed_data_fingerprint"].all fun field => (record.get field).isNonemptyStr))
      (contractViolation "lifecycle_typed_data_proof_missing")
    raiseIf (differs record "history_terminal_state" "ADMITTED_TYPED_DATA" &&
      (record.contains "typed_data_schema_ref" || record.contains "typed_data_fingerprint"))
      (contractViolation "lifecycle_typed_data_projection_invalid")

/-- What the record projects agrees with its terminal state. -/
def checkProjection (record : Dict) : Except Exc Unit :=
  if differs record "history_terminal_state" "NOT_APPLICABLE" then checkAdmission record
  else
    raiseIf (differs record "retrieval_visibility" "NONE" || record.contains "admission_predicate" ||
      record.contains "typed_data_schema_ref" || record.contains "typed_data_fingerprint")
      (contractViolation "lifecycle_not_applicable_projection_invalid")

/-- The transitions lead from `NOT_APPLICABLE` to the terminal state. -/
def checkHistory (record : Dict) : Except Exc Unit :=
  match record.get "transitions" with
  | .list transitions => do
    let (previous, _) ← checkTransitions 0 (.str "NOT_APPLICABLE", none) transitions
    raiseIf (differs record "history_terminal_state" "NOT_APPLICABLE" && transitions.isEmpty)
      (contractViolation "lifecycle_history_missing")
    raiseIf (!transitions.isEmpty && !previous.eq (record.get "history_terminal_state"))
      (contractViolation "lifecycle_terminal_transition_mismatch")
  | _ => .error (contractViolation "lifecycle_transitions_invalid")

/-- `validate_lifecycle`, of a record whose other fields are serialized for its fingerprint as `s` says. -/
def lifecycleChecks (s : Serialization) (record : Dict) : Except Exc Unit := do
  required record lifecycleFields "lifecycle"
  raiseIf (!record.keysWithin (lifecycleFields ++ lifecycleOptional) ||
    differs record "record_type" "PMIRI_D2_FETCHED_CONTENT_LIFECYCLE" || differs record "schema_version" "0.3")
    (contractViolation "lifecycle_schema_invalid")
  raiseIf (!lifecycleIdentity.all fun field => (record.get field).isNonemptyStr)
    (contractViolation "lifecycle_identity_field_invalid")
  raiseIfM (pyOr ((record.get "operation").notIn OPERATIONS) ((record.get "purpose").notIn PURPOSES))
    (contractViolation "lifecycle_operation_or_purpose_invalid")
  raiseIfM (pyOr (.ok (differs record "history_start_state" "NOT_APPLICABLE"))
    ((record.get "history_terminal_state").notIn LIFECYCLES)) (contractViolation "lifecycle_state_invalid")
  raiseIf (!(record.get "admission_state").eq (record.get "history_terminal_state"))
    (contractViolation "lifecycle_terminal_state_mismatch")
  raiseIf (!isSha256 (record.get "response_fingerprint") || !isSha256 (record.get "terminal_response_fingerprint") ||
    !isSha256 (record.get "authority_manifest_fingerprint")) (contractViolation "lifecycle_response_fingerprint_invalid")
  raiseIf (!(record.get "terminal_response_fingerprint").eq (record.get "response_fingerprint"))
    (contractViolation "lifecycle_terminal_response_mismatch")
  raiseIf (!(record.get "response_size_bytes").isNatural) (contractViolation "lifecycle_response_size_invalid")
  raiseIf (!(record.get "canonical_or_control_influence_prohibited").isTrue)
    (contractViolation "lifecycle_control_influence_not_prohibited")
  s.outcome
  raiseIf (!isSha256 (record.get "lifecycle_fingerprint") ||
    differs record "lifecycle_fingerprint" (sha256Json (record.without "lifecycle_fingerprint").toVal))
    (contractViolation "lifecycle_fingerprint_invalid")
  checkProjection record
  checkHistory record

def validateLifecycle (record : Dict) : Except Exc Unit := lifecycleChecks .written record

/-- What `validateLifecycle` asks of a record apart from its history. -/
structure LifecycleRecord (d : Dict) : Prop where
  present : ∀ f ∈ lifecycleFields, d.contains f = true
  known : ∀ k ∈ d.keys, k ∈ lifecycleFields ++ lifecycleOptional
  recordType : d.get "record_type" = .str "PMIRI_D2_FETCHED_CONTENT_LIFECYCLE"
  schemaVersion : d.get "schema_version" = .str "0.3"
  identity : ∀ f ∈ lifecycleIdentity, (d.get f).isNonemptyStr = true
  operation : ∃ x ∈ OPERATIONS, d.get "operation" = .str x
  purpose : ∃ x ∈ PURPOSES, d.get "purpose" = .str x
  start : d.get "history_start_state" = .str "NOT_APPLICABLE"
  terminal : ∃ x ∈ LIFECYCLES, d.get "history_terminal_state" = .str x
  admission : d.get "admission_state" = d.get "history_terminal_state"
  response : isSha256 (d.get "response_fingerprint") = true
  terminalResponse : d.get "terminal_response_fingerprint" = d.get "response_fingerprint"
  authority : isSha256 (d.get "authority_manifest_fingerprint") = true
  size : (d.get "response_size_bytes").isNatural = true
  inert : (d.get "canonical_or_control_influence_prohibited").isTrue = true
  fingerprint : SelfFingerprint d "lifecycle_fingerprint"
  admitted : d.get "history_terminal_state" ≠ .str "NOT_APPLICABLE" → checkAdmission d = .ok ()
  notApplicable : d.get "history_terminal_state" = .str "NOT_APPLICABLE" →
    d.get "retrieval_visibility" = .str "NONE" ∧ d.contains "admission_predicate" = false ∧
      d.contains "typed_data_schema_ref" = false ∧ d.contains "typed_data_fingerprint" = false

/-- What `validateLifecycle` accepts. -/
structure Lifecycle (d : Dict) : Prop extends LifecycleRecord d where
  history : checkHistory d = .ok ()

omit [Runtime] in
theorem checkProjection_ok {d : Dict} :
    checkProjection d = .ok () ↔
      (d.get "history_terminal_state" ≠ .str "NOT_APPLICABLE" → checkAdmission d = .ok ()) ∧
      (d.get "history_terminal_state" = .str "NOT_APPLICABLE" →
        d.get "retrieval_visibility" = .str "NONE" ∧ d.contains "admission_predicate" = false ∧
          d.contains "typed_data_schema_ref" = false ∧ d.contains "typed_data_fingerprint" = false) := by
  rw [checkProjection, ← differs_true, ← differs_false]
  cases differs d "history_terminal_state" "NOT_APPLICABLE" with
  | true => simp
  | false => simp [and_assoc]

theorem lifecycleChecks_ok {s : Serialization} {d : Dict} : lifecycleChecks s d = .ok () ↔ s.Passes ∧ Lifecycle d := by
  simp only [lifecycleChecks, seq_ok, required_ok, raiseIf_ok, raiseIfM_ok, Bool.or_eq_false_iff,
    Bool.not_eq_false', differs_false, Val.notIn_ok_false, Dict.keysWithin_iff, List.all_eq_true, pyOr_ok_false,
    ok_bool, checkProjection_ok]
  constructor
  · rintro ⟨h₁, ⟨⟨h₂, h₃⟩, h₄⟩, h₅, ⟨h₆, h₇⟩, ⟨h₈, h₉⟩, h₁₀, ⟨⟨h₁₁, h₁₂⟩, h₁₃⟩, h₁₄, h₁₅, h₁₆, hs, ⟨-, h₁₇⟩, ⟨h₁₈, h₁₉⟩, h₂₀⟩
    obtain ⟨x, -, hx⟩ := id h₉
    obtain ⟨y, hy, -⟩ := isSha256_str h₁₁
    rw [hx, Val.eq_str, ← hx] at h₁₀
    rw [hy, Val.eq_str, ← hy] at h₁₄
    exact ⟨hs, ⟨h₁, h₂, h₃, h₄, h₅, h₆, h₇, h₈, h₉, h₁₀, h₁₁, h₁₄, h₁₃, h₁₅, h₁₆, h₁₇, h₁₈, h₁₉⟩, h₂₀⟩
  · intro hboth
    obtain ⟨hs, h⟩ := hboth
    have hf : isSha256 (d.get "lifecycle_fingerprint") = true := by rw [h.fingerprint]; simp
    have ha : (d.get "admission_state").eq (d.get "history_terminal_state") = true := by rw [h.admission, Val.eq_refl]
    have ht : (d.get "terminal_response_fingerprint").eq (d.get "response_fingerprint") = true := by
      rw [h.terminalResponse, Val.eq_refl]
    exact ⟨h.present, ⟨⟨h.known, h.recordType⟩, h.schemaVersion⟩, h.identity, ⟨h.operation, h.purpose⟩,
      ⟨h.start, h.terminal⟩, ha, ⟨⟨h.response, h.terminalResponse ▸ h.response⟩, h.authority⟩, ht, h.size, h.inert,
      hs, ⟨hf, h.fingerprint⟩, ⟨h.admitted, h.notApplicable⟩, h.history⟩

theorem validateLifecycle_ok {d : Dict} : validateLifecycle d = .ok () ↔ Lifecycle d :=
  lifecycleChecks_ok.trans (and_iff_right Serialization.passes_written)

end Validators

end Pmiri
