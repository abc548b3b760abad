import Pmiri.Preflight.Members
import Pmiri.Replay.Gate

/-!
# Running the preflight

`run_preflight` looks at the documentation bundle, at what was observed of the
clean room and at who takes part, and makes a record of its sixteen checks.
`_case_preflight` reads such a record before a case may run.
-/

namespace Pmiri

open Py

/-- What the preflight asks of the project: the file system, and of a path what reading it as JSON gives. -/
structure PreflightFiles extends MemberFiles where
  root : List String
  /-- `root.as_posix()` -/
  rootText : String
  readJson : List String → Option Val

/-- The arguments of `run_preflight`, and what `utc_now` says as it goes on. -/
structure PreflightCall where
  identity : Dict := .empty
  isolation : Option Isolation := none
  independentReviewer : Option String := none
  operator : Option String := none
  selectedFixtureId : Option String := none
  selectedCaseId : Option String := none
  startedAt : String
  capturedAt : String

structure CheckResult where
  checkId : String
  name : String
  status : String
  failureResult : String
  reason : String
  evidenceRef : Option String := none

structure PreflightRecord where
  preflightId : String
  specVersion : String
  status : String
  runner : Dict
  inputs : Dict
  selectedFixtureId : String
  selectedCaseId : String
  environment : Dict
  checks : List CheckResult
  artifacts : Dict
  overallResult : String
  capturedAt : String

def CHECKS : List (String × String × String) := [
  ("PF-01", "RUNNER_IDENTITY", "BLOCKED"),
  ("PF-02", "RUNNER_PACKAGE_INTEGRITY", "BLOCKED"),
  ("PF-03", "MANIFEST_INTEGRITY", "VALIDATION_ERROR"),
  ("PF-04", "AUTHORITY_BUNDLE_INTEGRITY", "BLOCKED"),
  ("PF-05", "SCHEMA_INTEGRITY", "VALIDATION_ERROR"),
  ("PF-06", "FIXTURE_CATALOG_INTEGRITY", "VALIDATION_ERROR"),
  ("PF-07", "MATRIX_CATALOG_COVERAGE", "BLOCKED"),
  ("PF-08", "CLEAN_ROOM_CAPABILITY", "ISOLATION_VIOLATION"),
  ("PF-09", "NETWORK_CREDENTIAL_DENIAL", "ISOLATION_VIOLATION"),
  ("PF-10", "FILESYSTEM_ALLOWLIST", "ISOLATION_VIOLATION"),
  ("PF-11", "RESOURCE_LIMITS", "BLOCKED"),
  ("PF-12", "DETERMINISTIC_RUNTIME", "BLOCKED"),
  ("PF-13", "OUTPUT_PATH_AND_SEALING", "BLOCKED"),
  ("PF-14", "PRIVACY_CONTROLS", "BLOCKED"),
  ("PF-15", "EVIDENCE_SCHEMA_READINESS", "VALIDATION_ERROR"),
  ("PF-16", "REVIEW_SEPARATION", "BLOCKED")]

/-! ## The parts of the project -/

namespace PreflightFiles

variable (files : PreflightFiles)

def docs : List String := files.root ++ ["PMIRI_ALL_DOCUMENTATION_CHECKPOINT_17"]

def runnerManifest : List String := files.docs ++ ["GC-C1", "PMIRI_GC-C1_REPLAY_RUNNER_0.1.0", "runner-manifest.json"]

def runnerSource : List String := parentPath files.runnerManifest ++ ["pmiri_gc_c1_replay_runner.py"]

def authorityManifest : List String := files.docs ++ ["GATE-D-R2", "PMIRI_GD-R2_AUTHORITY_BUNDLE_MANIFEST_v0.1.json"]

def c1AuthorityManifest : List String := files.docs ++ ["GC-C1", "PMIRI_GC-C1-08_AUTHORITY_BUNDLE_MANIFEST.json"]

def evidenceSchema : List String := files.docs ++ ["GC-C1", "PMIRI_GC-C1-02_EVIDENCE_RECORD.schema.json"]

def fixtureCatalog : List String := files.docs ++ ["GC-C1", "PMIRI_GC-C1-02_REPLAY_FIXTURE_CATALOG.json"]

def preflightMatrix : List String := files.docs ++ ["GC-C1", "PMIRI_GC-C1-05_CONTROLLED_PREFLIGHT_SCENARIO_MATRIX.json"]

/-- `_json_file` -/
def jsonFile (path : List String) : Bool × String :=
  if (files.readJson path).isSome then (true, "parsed") else (false, "file_missing_or_invalid_json")

/-- The manifest that the authority fingerprint is taken of. -/
def authorityInput : List String := if files.pathExists files.authorityManifest then files.authorityManifest else files.c1AuthorityManifest

end PreflightFiles

/-- `raise`, where a verification is under way. -/
def Stop.raising {α : Type} (x : Except Exc α) : Except Stop α := x.mapError .raises

/-- The loop of `_verify_fixture_selection` over the fixtures. -/
def selectFixture (fixtureId caseId : String) : List Val → Except Exc (Bool × String)
  | [] => .ok (false, "selected_fixture_not_in_catalog")
  | fixture :: rest => do
    if ← fieldDiffers fixture "fixture_id" fixtureId then selectFixture fixtureId caseId rest
    else
      let fields ← dictOr fixture (.attributeError "get")
      let cases ← (fields.getD "cases" (.list [])).elements
      if ← cases.anyM fun case => pyNot (fieldDiffers case "case_id" caseId) then
        return (true, "fixture_and_case_selection_is_declared")
      else return (false, "selected_case_not_in_fixture")

/-- `_verify_fixture_selection` -/
def verifyFixtureSelection (read : Option Val) (fixtureId caseId : Option String) : Except Exc (Bool × String) :=
  if fixtureId.getD "" = "" ∨ caseId.getD "" = "" then .ok (false, "controlled_fixture_and_case_selection_not_supplied")
  else
    match read with
    | none => .ok (false, "fixture_catalog_missing_or_invalid_json")
    | some catalog => do
      let fields ← dictOr catalog (.attributeError "get")
      selectFixture (fixtureId.getD "") (caseId.getD "") (← (fields.getD "fixtures" (.list [])).elements)

/-! ## The runner package -/

def runnerFields : List String := [
  "runner_id", "runner_version", "source_fingerprint", "manifest_fingerprint", "latest_alias_allowed", "self_upgrade_allowed",
  "dependency_download_allowed"]

def packagePaths : List String := ["pmiri_gc_c1_replay_runner.py", "README.md", "runner-manifest.json"]

section

variable [Runtime]

/-- A file of the package: the paths seen so far, and its own. -/
def checkPackageFile (files : MemberFiles) (directory : List String) (seen : List String) (file : Val) : Except Stop (List String) :=
  match file.asDict with
  | none => .error (.rejects "runner_package_member_shape_invalid")
  | some fields => do
    rejectIf (!fields.keysAre ["path", "sha256"]) "runner_package_member_shape_invalid"
    match fields.get "path" with
    | .str relative => do
      rejectIf (seen.contains relative || !packagePaths.contains relative) "runner_package_inventory_invalid"
      if relative = "runner-manifest.json" then
        rejectIf (differs fields "sha256" "SELF_HASH_EXCLUDED_FROM_PACKAGE_FINGERPRINT") "runner_manifest_self_hash_marker_invalid"
        return relative :: seen
      else
        rejectIf (!isSha256 (fields.get "sha256")) "runner_package_fingerprint_invalid"
        rejectIf (!files.isFile (directory ++ [relative])) "runner_package_fingerprint_mismatch"
        let content ← Stop.raising (files.readBytes (directory ++ [relative]))
        rejectIf (differs fields "sha256" (sha256Bytes content)) "runner_package_fingerprint_mismatch"
        return relative :: seen
    | _ => .error (.rejects "runner_package_inventory_invalid")

/-- The checks of a runner manifest. -/
def checkRunnerManifest (files : MemberFiles) (directory : List String) (manifest : Dict) : Except Stop String := do
  rejectIf (differs manifest "manifest_format" "PMIRI_GC_C1_REPLAY_RUNNER" || differs manifest "manifest_version" "0.1")
    "runner_manifest_identity_invalid"
  let unknown ← Stop.raising ((manifest.get "status").notIn ["DESIGN_ONLY", "READY_FOR_REPLAY"])
  rejectIf unknown "runner_manifest_status_invalid"
  match (manifest.getD "runner" (.dict [])).asDict with
  | none => .error (.rejects "runner_identity_shape_invalid")
  | some runner => do
    rejectIf (!runner.keysAre runnerFields) "runner_identity_shape_invalid"
    rejectIf (differs runner "runner_id" RUNNER_ID || differs runner "runner_version" RUNNER_VERSION) "runner_identity_mismatch"
    rejectIf (!isSha256 (runner.get "source_fingerprint") || !isSha256 (runner.get "manifest_fingerprint")) "runner_fingerprint_invalid"
    rejectIf (!(runner.get "latest_alias_allowed").isFalse || !(runner.get "self_upgrade_allowed").isFalse ||
      !(runner.get "dependency_download_allowed").isFalse) "runner_mutation_or_dependency_download_allowed"
    match manifest.get "package_files" with
    | .list packageFiles => do
      rejectIf (packageFiles.length != packagePaths.length) "runner_package_inventory_invalid"
      let seen ← packageFiles.foldlM (checkPackageFile files directory) []
      rejectIf (!packagePaths.all seen.contains) "runner_package_inventory_invalid"
      rejectIf (!(manifest.get "clean_room_required").isTrue || !(manifest.get "network_allowed").isFalse ||
        !(manifest.get "credentials_allowed").isFalse || !(manifest.get "production_access_allowed").isFalse ||
        !(manifest.get "r_fc_replay_performed").isFalse || differs manifest "execution_authorization" "NOT_GRANTED")
        "runner_package_boundary_invalid"
      return "pinned_runner_package_matches"
    | _ => .error (.rejects "runner_package_inventory_invalid")

/-- `_verify_runner_package` -/
def verifyRunnerPackage (files : MemberFiles) (manifestPath : List String) (read : Option Val) : Except Exc (Bool × String) :=
  match read with
  | none => .ok (false, "runner_manifest_missing_or_invalid_json")
  | some manifest => verdictOf do
    let fields ← Stop.raising (dictOr manifest (.attributeError "get"))
    checkRunnerManifest files (parentPath manifestPath) fields

/-! ## The record -/

def environmentDomains : List String := ["network", "credentials", "filesystem", "determinism", "resource_limits", "teardown"]

/-- What was observed of a domain. -/
def environmentValue (isolation : Option Isolation) (domain : String) : String :=
  (((isolation.getD []).lookup domain).map (·.result)).getD "UNVERIFIED"

def environmentItems (isolation : Option Isolation) : List (String × Val) :=
  environmentDomains.map fun domain => (domain, .str (environmentValue isolation domain))

namespace PreflightFiles

variable (files : PreflightFiles)

/-- The fingerprint of an input, or of its being missing. -/
def inputFingerprint (path : List String) : Except Exc String :=
  if files.pathExists path then do return sha256Bytes (← files.readBytes path)
  else .ok (sha256Json (Dict.ofItems [("status", .str "MISSING")]).toVal)

/-- The fingerprint of the runner, if it is there. -/
def sourceFingerprint : Except Exc (Option String) :=
  if files.pathExists files.runnerSource then do return some (sha256Bytes (← files.readBytes files.runnerSource)) else .ok none

/-- `runner_manifest_data.get("runner", {}).get("manifest_fingerprint")` -/
def manifestFingerprint : Except Exc Val := do
  let fields ← dictOr ((files.readJson files.runnerManifest).getD (.dict [])) (.attributeError "get")
  (fields.getD "runner" (.dict [])).getOf "manifest_fingerprint"

end PreflightFiles

/-- What is found of the runner package, of the authority bundle and of the selected case. -/
structure PreflightFindings where
  package : Bool × String
  authority : Bool × String
  selection : Bool × String

/-- The fingerprints of what a case is run from. -/
structure PreflightInputs where
  source : Option String
  manifest : Val
  authority : String
  schema : String
  catalog : String
  matrix : String

namespace PreflightFiles

variable (files : PreflightFiles)

def authorityBundle : Except Exc (Bool × String) :=
  match files.readJson files.authorityManifest with
  | none => .ok (files.jsonFile files.authorityManifest)
  | some manifest => verifyDeclaredMembers files.toMemberFiles (parentPath files.authorityManifest) (some manifest)

def findings (call : PreflightCall) : Except Exc PreflightFindings := do
  let package ← verifyRunnerPackage files.toMemberFiles files.runnerManifest (files.readJson files.runnerManifest)
  let authority ← files.authorityBundle
  let selection ← verifyFixtureSelection (files.readJson files.fixtureCatalog) call.selectedFixtureId call.selectedCaseId
  return { package, authority, selection }

def inputs : Except Exc PreflightInputs := do
  let source ← files.sourceFingerprint
  let manifest ← files.manifestFingerprint
  let authority ← files.inputFingerprint files.authorityInput
  let schema ← files.inputFingerprint files.evidenceSchema
  let catalog ← files.inputFingerprint files.fixtureCatalog
  let matrix ← files.inputFingerprint files.preflightMatrix
  return { source, manifest, authority, schema, catalog, matrix }

end PreflightFiles

/-- The name of a check, and what it results in if it does not pass. -/
def CheckResult.entry (checkId : String) : String × String := ((CHECKS.find? fun entry => entry.1 == checkId).map Prod.snd).getD ("", "")

/-- `_check`, with the status of a check that does not pass. -/
def CheckResult.check (checkId : String) (passes : Bool) (otherwise reason : String) : CheckResult where
  checkId
  name := (CheckResult.entry checkId).1
  status := if passes then "PASS" else otherwise
  failureResult := (CheckResult.entry checkId).2
  reason

def identityMatches (identity : Dict) : Bool := !differs identity "runner_id" RUNNER_ID && !differs identity "runner_version" RUNNER_VERSION

/-- `bool(operator and independent_reviewer and operator != independent_reviewer)` -/
def reviewSeparated (operator independentReviewer : Option String) : Bool :=
  operator.getD "" != "" && independentReviewer.getD "" != "" && operator != independentReviewer

/-- The verdict on what was observed of the clean room. -/
def isolationVerdict : Option Isolation → Bool × String
  | none => (false, "no externally observed clean-room attestation")
  | some isolation => verifyAttestation isolation

def isolationChecks : List String := ["PF-08", "PF-09", "PF-10", "PF-11", "PF-12", "PF-13", "PF-14"]

/-- The sixteen checks. -/
def preflightChecks (files : PreflightFiles) (call : PreflightCall) (found : PreflightFindings) : List CheckResult :=
  let identity := identityMatches call.identity
  let schema := files.jsonFile files.evidenceSchema
  let catalog := files.jsonFile files.fixtureCatalog
  let isolation := isolationVerdict call.isolation
  let review := reviewSeparated call.operator call.independentReviewer
  [CheckResult.check "PF-01" identity "UNVERIFIED" (if identity then "identity matches" else "exact pinned runner identity not supplied"),
    CheckResult.check "PF-02" found.package.1 "UNVERIFIED" found.package.2,
    CheckResult.check "PF-03" found.package.1 "FAIL" found.package.2,
    CheckResult.check "PF-04" found.authority.1 "UNVERIFIED" found.authority.2,
    CheckResult.check "PF-05" schema.1 "FAIL" schema.2,
    CheckResult.check "PF-06" catalog.1 "FAIL" catalog.2,
    CheckResult.check "PF-07" found.selection.1 "UNVERIFIED" found.selection.2] ++
  isolationChecks.map (fun checkId => CheckResult.check checkId isolation.1 "UNVERIFIED" isolation.2) ++
  [CheckResult.check "PF-15" schema.1 "FAIL" (if schema.1 then "schema reference available" else schema.2),
    CheckResult.check "PF-16" review "UNVERIFIED"
      (if review then "distinct identities supplied" else "operator and independent reviewer identities are not separated")]

def preflightId (rootText startedAt : String) : String :=
  "pf_" ++ String.ofList ((sha256Json (Dict.ofItems [("root", .str rootText), ("captured_at", .str startedAt)]).toVal).toList.take 32)

def preflightRecord (rootText : String) (call : PreflightCall) (checks : List CheckResult) (inputs : PreflightInputs) : PreflightRecord where
  preflightId := preflightId rootText call.startedAt
  specVersion := "0.1"
  status := "RECORDED"
  runner := .ofItems [
    ("runner_id", .str RUNNER_ID),
    ("runner_version", .str RUNNER_VERSION),
    ("source_fingerprint", optStr inputs.source),
    ("manifest_fingerprint", inputs.manifest)]
  inputs := .ofItems [
    ("authority_bundle_fingerprint", .str inputs.authority),
    ("schema_fingerprint", .str inputs.schema),
    ("catalog_fingerprint", .str inputs.catalog),
    ("matrix_fingerprint", .str inputs.matrix)]
  selectedFixtureId := if call.selectedFixtureId.getD "" = "" then "NONE" else call.selectedFixtureId.getD ""
  selectedCaseId := if call.selectedCaseId.getD "" = "" then "NONE" else call.selectedCaseId.getD ""
  environment := .ofItems (
    ("environment_fingerprint", .str (sha256Json (Dict.ofItems (environmentItems call.isolation)).toVal)) ::
      environmentItems call.isolation)
  checks
  artifacts := .ofItems [
    ("output_fingerprint", .none),
    ("artifact_manifest_fingerprint", .none),
    ("isolation_attestation_ref", .none),
    ("privacy_record_ref", .none),
    ("seal_status", .str "UNSEALED")]
  overallResult := if checks.all fun check => check.status == "PASS" then "READY_FOR_REPLAY" else "BLOCKED"
  capturedAt := call.capturedAt

/-- `run_preflight` -/
def runPreflight (files : PreflightFiles) (call : PreflightCall) : Except Exc PreflightRecord := do
  let found ← files.findings call
  let inputs ← files.inputs
  return preflightRecord files.rootText call (preflightChecks files call found) inputs

/-- A check as it is recorded. -/
def CheckResult.structured (c : CheckResult) : Dict :=
  let result := if c.status == "PASS" then "READY" else c.failureResult
  .ofItems ([
    ("check_id", .str c.checkId),
    ("severity", .str "HARD_BLOCK"),
    ("result", .str result),
    ("assertion", .str c.name),
    ("observation", .str c.reason),
    ("evidence_refs", strList (c.evidenceRef.toList.filter (· != ""))),
    ("observed_fingerprints", strList [sha256Json (Dict.ofItems [
      ("check_id", .str c.checkId), ("observation", .str c.reason)]).toVal])] ++
    if result != "READY" then [("failure_reason", .str c.reason)] else [])

def PreflightRecord.structured (r : PreflightRecord) : Dict := .ofItems [
  ("preflight_id", .str r.preflightId),
  ("spec_version", .str r.specVersion),
  ("status", .str r.status),
  ("runner", r.runner.toVal),
  ("inputs", r.inputs.toVal),
  ("selected_fixture_id", .str r.selectedFixtureId),
  ("selected_case_id", .str r.selectedCaseId),
  ("environment", r.environment.toVal),
  ("checks", .list (r.checks.map fun check => check.structured.toVal)),
  ("artifacts", r.artifacts.toVal),
  ("overall_result", .str r.overallResult),
  ("captured_at", .str r.capturedAt)]

/-- What is read of the file that `write_preflight` writes. -/
def PreflightRecord.written (r : PreflightRecord) : Dict := r.structured.sortKeys

end

end Pmiri
