import Pmiri.Replay.CleanRoom

/-!
# Preflight records

`preflight.py`: the shape of a preflight record. A record is readiness
evidence for one case, from sixteen checks.
-/

namespace Pmiri

open Py

def RUNNER_ID : String := "pmiri-gc-c1-replay"
def RUNNER_VERSION : String := "0.1.0"

def preflightFields : List String := [
  "preflight_id", "spec_version", "status", "runner", "inputs", "selected_fixture_id", "selected_case_id", "environment",
  "checks", "artifacts", "overall_result", "captured_at"]

/-- The sections of a record and their fields. -/
def preflightSections : List (String × List String) := [
  ("runner", ["runner_id", "runner_version", "source_fingerprint", "manifest_fingerprint"]),
  ("inputs", ["authority_bundle_fingerprint", "schema_fingerprint", "catalog_fingerprint", "matrix_fingerprint"]),
  ("environment", ["environment_fingerprint", "network", "credentials", "filesystem", "determinism", "resource_limits", "teardown"]),
  ("artifacts",
    ["output_fingerprint", "artifact_manifest_fingerprint", "isolation_attestation_ref", "privacy_record_ref", "seal_status"])]

def allowedEnvironment : List (String × List String) := [
  ("network", ["DENIED", "UNVERIFIED"]),
  ("credentials", ["DENIED", "UNVERIFIED"]),
  ("filesystem", ["ALLOWLIST_VERIFIED", "UNVERIFIED"]),
  ("determinism", ["VERIFIED", "UNVERIFIED"]),
  ("resource_limits", ["VERIFIED", "UNVERIFIED"]),
  ("teardown", ["AVAILABLE", "UNVERIFIED"])]

/-- `[f"PF-{index:02d}" for index in range(1, 17)]` -/
def preflightCheckIds : List String := [
  "PF-01", "PF-02", "PF-03", "PF-04", "PF-05", "PF-06", "PF-07", "PF-08", "PF-09", "PF-10", "PF-11", "PF-12", "PF-13",
  "PF-14", "PF-15", "PF-16"]

section

variable [Runtime]

/-- The errors of a section. -/
def sectionErrors (record : Dict) (name : String) (fields : List String) : List String :=
  match (record.get name).asDict with
  | none => [name ++ "_must_be_object"]
  | some value => (fields.filter fun field => !value.contains field).map fun field => name ++ ".missing:" ++ field

/-- The errors of a check. -/
def preflightCheckErrors (item : Val) : Except Exc (List String) := do
  let checkId := (← item.getOf "check_id").toStr
  let shape ← pyOr (fieldDiffers item "severity" "HARD_BLOCK")
    (pyOr (do return !(← item.getOf "assertion").truthy) (do return !(← item.getOf "observation").truthy))
  let result ← item.getOf "result"
  let unknown ← result.notIn ["READY", "BLOCKED", "VALIDATION_ERROR", "ISOLATION_VIOLATION"]
  let unexplained ← pyAnd (.ok (!result.eq (.str "READY"))) (do return !(← item.getOf "failure_reason").truthy)
  let fingerprints ← dictOr item (.attributeError "object has no attribute 'get'")
  let observed ← (fingerprints.getD "observed_fingerprints" (.list [])).elements
  return errorIf shape ("check_shape_invalid:" ++ checkId) ++
    errorIf unknown ("check_result_invalid:" ++ checkId) ++
    errorIf unexplained ("check_failure_reason_missing:" ++ checkId) ++
    errorIf (observed.any fun fingerprint => !isSha256 fingerprint) ("check_fingerprint_invalid:" ++ checkId)

/-- The errors of the checks. -/
def preflightChecksErrors (checks : Val) : Except Exc (List String) :=
  match checks with
  | .list items =>
    if items.length = 16 then do
      let ids ← items.mapM fun item => item.getOf "check_id"
      let errors ← items.mapM preflightCheckErrors
      return errorIf (!Val.eqList ids (preflightCheckIds.map .str)) "check_ids_not_complete_or_ordered" ++ errors.flatten
    else .ok ["checks_must_contain_16"]
  | _ => .ok ["checks_must_contain_16"]

/-- `validate_preflight_record_shape` -/
def validatePreflightRecordShape (record : Dict) : Except Exc (List String) := do
  let status ← pyOr (.ok (differs record "spec_version" "0.1"))
    ((record.get "status").notIn ["DESIGN_ONLY", "RECORDED", "INVALIDATED"])
  let runner := record.getD "runner" (.dict [])
  let identity ← pyOr (fieldDiffers runner "runner_id" RUNNER_ID) (fieldDiffers runner "runner_version" RUNNER_VERSION)
  let inputs := record.getD "inputs" (.dict [])
  let unbound ← ["authority_bundle_fingerprint", "schema_fingerprint", "catalog_fingerprint", "matrix_fingerprint"].filterM
    fun field => do return !isSha256 (← inputs.getOf field)
  let environment := record.getD "environment" (.dict [])
  let observed ← allowedEnvironment.filterM fun entry => do (← environment.getOf entry.1).notIn entry.2
  let artifacts := record.getD "artifacts" (.dict [])
  let sealStatus ← (← artifacts.getOf "seal_status").notIn ["SEALED", "INVALID", "UNSEALED"]
  let checks ← preflightChecksErrors (record.get "checks")
  return (preflightFields.filter fun key => !record.contains key).map ("missing:" ++ ·) ++
    errorIf status "root_status_invalid" ++
    preflightSections.flatMap (fun entry => sectionErrors record entry.1 entry.2) ++
    errorIf identity "runner_identity_invalid" ++
    unbound.map ("inputs.invalid_fingerprint:" ++ ·) ++
    observed.map (fun entry => "environment.invalid:" ++ entry.1) ++
    errorIf sealStatus "artifacts.seal_status_invalid" ++
    checks

end

end Pmiri
