import Pmiri.Decisions.Emission
import Pmiri.RequestAuth.Service

/-!
# Capability observations

`gate_d.py`: the validator of the observations a capability decision is
evaluated from, and the window an observation is fresh in.
-/

namespace Pmiri

open Py

/-! ## Fresh windows -/

/-- `_fresh_window` -/
def freshWindow [Runtime] (record : Dict) (now : String) : Except Exc Bool :=
  falseOn Exc.isTypeValueOrKeyError do
    let observedAt ← parseTime (← record.item "observed_at").toStr
    let current ← parseTime now
    if observedAt ≤ current then
      let validUntil ← parseTime (← record.item "valid_until").toStr
      return decide (current ≤ validUntil)
    else return false

/-! ## Observed values -/

/-- The fields of the observed value, by the capability it is about. -/
def CAPABILITY_VALUE_FIELDS : List (String × List String) := [
  ("attachment_input", ["value_type", "supported", "accepted_content_types", "max_attachment_bytes"]),
  ("structured_output", ["value_type", "supported", "schema_profile_ref"]),
  ("provider_model_feature", ["value_type", "feature_name", "supported", "feature_profile_ref"]),
  ("retention_deletion", ["value_type", "retention_mode", "deletion_mode"]),
  ("training_use", ["value_type", "training_use"]),
  ("subprocessors", ["value_type", "subprocessors_fingerprint", "subprocessor_count"]),
  ("processing_region", ["value_type", "region", "region_scope"]),
  ("credential_operation_scope", ["value_type", "allowed_operations", "audience"]),
  ("redirect_fetch_behavior", ["value_type", "redirects_allowed", "max_redirect_hops", "revalidate_each_hop"]),
  ("destination_identity", ["value_type", "identity_ref", "normalized_authority", "scheme"]),
  ("resource_limits", ["value_type", "limits_profile_ref"])]

/-- `type(v) is bool` -/
def isBool : Val → Bool
  | .bool _ => true
  | _ => false

/-- A non-empty list of distinct operations. -/
def isOperationList : Val → Bool
  | .list xs => !xs.isEmpty && xs.all (fun x => OPERATIONS.any fun o => x.eq (.str o)) &&
      decide (xs.filterMap fun | .str s => some s | _ => none).Nodup
  | _ => false

/-- `_validate_capability_value`, as the condition it tests. -/
def capabilityValueValid (key : String) (value : Dict) : Except Exc Bool :=
  let nonempty (field : String) : Bool := (value.get field).isNonemptyStr
  let boolean (field : String) : Bool := isBool (value.get field)
  match key with
  | "attachment_input" => .ok (boolean "supported" && (value.get "accepted_content_types").isNonemptyList &&
      (value.get "accepted_content_types").isStrList && (value.get "max_attachment_bytes").isNatural)
  | "structured_output" => .ok (boolean "supported" && nonempty "schema_profile_ref")
  | "provider_model_feature" => .ok (nonempty "feature_name" && boolean "supported" && nonempty "feature_profile_ref")
  | "retention_deletion" =>
    pyAnd ((value.get "retention_mode").isIn ["NONE", "LIMITED", "INDEFINITE", "UNKNOWN"])
      ((value.get "deletion_mode").isIn ["SUPPORTED", "NOT_SUPPORTED", "CONDITIONAL", "UNKNOWN"])
  | "training_use" => (value.get "training_use").isIn ["PROHIBITED", "ALLOWED", "CONDITIONAL", "UNKNOWN"]
  | "subprocessors" =>
    .ok (isSha256 (value.get "subprocessors_fingerprint") && (value.get "subprocessor_count").isNatural)
  | "processing_region" =>
    pyAnd (.ok (nonempty "region")) ((value.get "region_scope").isIn ["SINGLE_REGION", "MULTI_REGION", "UNKNOWN"])
  | "credential_operation_scope" => .ok (isOperationList (value.get "allowed_operations") && nonempty "audience")
  | "redirect_fetch_behavior" => .ok (boolean "redirects_allowed" && (value.get "max_redirect_hops").isNatural &&
      (value.get "revalidate_each_hop").isTrue)
  | "destination_identity" =>
    .ok (nonempty "identity_ref" && nonempty "normalized_authority" && !differs value "scheme" "HTTPS")
  | "resource_limits" => .ok (nonempty "limits_profile_ref")
  | _ => .ok false

/-! ## The validator -/

def observationFields : List String := [
  "record_type", "schema_version", "capability_contract_version", "capability_observation_id", "subject_binding",
  "capability_key", "observed_value", "scope", "source_authority", "evidence_refs", "observed_at", "valid_from",
  "valid_until", "invalidation_epoch", "status", "observation_fingerprint"]

def observationIdentity : List String :=
  ["capability_observation_id", "subject_binding", "source_authority", "observed_at", "valid_from", "valid_until"]

def OBSERVATION_STATUSES : List String := ["ACTIVE", "EXPIRED", "REVOKED", "SUPERSEDED", "CONTRADICTED", "INVALID"]

/-- The instants of an observation are in order. -/
def checkObservationTimes (record : Dict) : Except Exc Unit := do
  let instants : Except Exc (Int × Int × Int) := do
    let observedAt ← parseTime (record.get "observed_at").strText
    let validFrom ← parseTime (record.get "valid_from").strText
    let validUntil ← parseTime (record.get "valid_until").strText
    return (observedAt, validFrom, validUntil)
  match instants with
  | .error e =>
    .error (if e.isValueError then contractViolation "capability_observation_timestamp_invalid" else e)
  | .ok (observedAt, validFrom, validUntil) =>
    raiseIf (!(validFrom ≤ observedAt && observedAt ≤ validUntil))
      (contractViolation "capability_observation_timestamp_order_invalid")

def checkObservationScope (scope : Val) : Except Exc Unit :=
  match scope.asDict with
  | none => .error (contractViolation "capability_observation_scope_invalid")
  | some s => do
    raiseIf (!s.keysAre ["purpose", "material_classes", "region", "feature_profile"])
      (contractViolation "capability_observation_scope_invalid")
    raiseIf (!(s.get "purpose").isNonemptyStr || !(s.get "material_classes").isNonemptyList ||
      !(s.get "material_classes").isStrList) (contractViolation "capability_observation_scope_invalid")
    raiseIf (!(s.get "region").isNonemptyStr || !(s.get "feature_profile").isNonemptyStr)
      (contractViolation "capability_observation_scope_invalid")

/-- `_validate_capability_observation` -/
def validateCapabilityObservation [Runtime] (record : Dict) : Except Exc Unit := do
  raiseIf (!observationFields.all record.contains) (contractViolation "capability_observation_missing")
  raiseIf (!record.keysAre observationFields || differs record "record_type" "PMIRI_D2_CAPABILITY_OBSERVATION" ||
    differs record "schema_version" "0.3" || differs record "capability_contract_version" "0.1")
    (contractViolation "capability_observation_schema_invalid")
  raiseIf (!observationIdentity.all fun field => (record.get field).isNonemptyStr)
    (contractViolation "capability_observation_identity_invalid")
  raiseIfM (pyOr ((record.get "capability_key").notIn (CAPABILITY_VALUE_FIELDS.map Prod.fst))
    (.ok !(record.get "observed_value").isMapping)) (contractViolation "capability_observation_value_invalid")
  let key := (record.get "capability_key").strText
  let value := (record.get "observed_value").asDict.getD .empty
  raiseIf (!value.keysAre ((CAPABILITY_VALUE_FIELDS.lookup key).getD []) || differs value "value_type" key)
    (contractViolation "capability_observation_value_binding_invalid")
  checkObservationScope (record.get "scope")
  raiseIf (!(record.get "evidence_refs").isNonemptyList) (contractViolation "capability_observation_evidence_invalid")
  raiseIf (!(record.get "evidence_refs").isStrList) (contractViolation "capability_observation_evidence_invalid")
  raiseIfM ((record.get "status").notIn OBSERVATION_STATUSES) (contractViolation "capability_observation_status_invalid")
  raiseIf (!(record.get "invalidation_epoch").isNatural) (contractViolation "capability_observation_epoch_invalid")
  checkObservationTimes record
  raiseIfM (pyNot (capabilityValueValid key value)) (contractViolation "capability_observation_value_type_invalid")
  raiseIf (!isSha256 (record.get "observation_fingerprint") ||
    differs record "observation_fingerprint" (sha256Json (record.without "observation_fingerprint").toVal))
    (contractViolation "capability_observation_fingerprint_invalid")

end Pmiri
