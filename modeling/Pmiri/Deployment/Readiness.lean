import Pmiri.Deployment.Evidence
import Pmiri.Python.Order

/-!
# Deployment readiness

`readiness.py`: the report of the checks that deployment depends on, and its
validation. What the project root, the databases and the other modules hold is
read through a `Workspace`.
-/

namespace Pmiri

open Py

/-- `ReadinessContractError(msg)` -/
def readinessContractError (msg : String) : Exc := .valueError "ReadinessContractError" msg

def REPORT_TYPE : String := "PMIRI_DEPLOYMENT_READINESS_REPORT"
def REPORT_VERSION : String := "0.1"

/-! ## The profile -/

def defaultProfile : Dict := .ofItems [
  ("profile_version", .str REPORT_VERSION),
  ("profile_id", .str "workspace-local-candidate"),
  ("storage", (Dict.ofItems [("backend", .str "sqlite"), ("root", .str ".pmiri-sqlite"), ("content_encryption", .str "UNCONFIGURED"),
    ("metadata_protection", .str "UNCONFIGURED"), ("key_escrow", .str "UNCONFIGURED")]).toVal),
  ("control_plane", (Dict.ofItems [("backend", .str "sqlite-local"), ("path", .str ".pmiri-control/control.db")]).toVal),
  ("network", (Dict.ofItems [("mode", .str "DENY_BY_DEFAULT"), ("external_execution", .str "DISABLED")]).toVal),
  ("api", (Dict.ofItems [("transport", .str "HTTP_LOOPBACK"), ("bind_host", .str "127.0.0.1"), ("port", .int 8765),
    ("max_request_bytes", .int (1024 * 1024)), ("audit_path", .str "artifacts/read-audit.jsonl")]).toVal)]

/-- `profile.get(field)`, if it is an object with these keys. -/
def profileSection (profile : Dict) (field : String) (fields : List String) (msg : String) : Except Exc Dict :=
  match (profile.get field).asDict with
  | some d => if d.keysAre fields then .ok d else .error (readinessContractError msg)
  | none => .error (readinessContractError msg)

/-- `isinstance(v, int) and not isinstance(v, bool) and low <= v <= high` -/
def isIntBetween (v : Val) (low high : Int) : Bool :=
  match v with
  | .int i => decide (low ≤ i ∧ i ≤ high)
  | _ => false

def validateProfile (profile : Dict) : Except Exc Unit := do
  raiseIf (!profile.keysAre ["profile_version", "profile_id", "storage", "control_plane", "network", "api"])
    (readinessContractError "readiness_profile_shape_invalid")
  raiseIf (differs profile "profile_version" REPORT_VERSION || !(profile.get "profile_id").isNonemptyStr)
    (readinessContractError "readiness_profile_identity_invalid")
  let storage ← profileSection profile "storage" ["backend", "root", "content_encryption", "metadata_protection", "key_escrow"]
    "readiness_storage_profile_shape_invalid"
  let controlPlane ← profileSection profile "control_plane" ["backend", "path"] "readiness_control_plane_profile_shape_invalid"
  let network ← profileSection profile "network" ["mode", "external_execution"] "readiness_network_profile_shape_invalid"
  let api ← profileSection profile "api" ["transport", "bind_host", "port", "max_request_bytes", "audit_path"]
    "readiness_api_profile_shape_invalid"
  raiseIfM ((storage.get "backend").notIn ["sqlite", "UNCONFIGURED"]) (readinessContractError "readiness_storage_backend_invalid")
  raiseIf (!(storage.get "root").isNone && !(storage.get "root").isNonemptyStr) (readinessContractError "readiness_storage_root_invalid")
  raiseIfM ((storage.get "content_encryption").notIn ["AES_GCM_BLOB_ADAPTER", "UNCONFIGURED"])
    (readinessContractError "readiness_content_encryption_invalid")
  raiseIfM ((storage.get "metadata_protection").notIn ["EXTERNAL_VOLUME_ENCRYPTION", "UNCONFIGURED"])
    (readinessContractError "readiness_metadata_protection_invalid")
  raiseIfM ((storage.get "key_escrow").notIn ["EXTERNAL_KMS", "UNCONFIGURED"]) (readinessContractError "readiness_key_escrow_invalid")
  raiseIfM ((controlPlane.get "backend").notIn ["sqlite-local", "UNCONFIGURED"])
    (readinessContractError "readiness_control_plane_backend_invalid")
  raiseIf (!(controlPlane.get "path").isNone && !(controlPlane.get "path").isNonemptyStr)
    (readinessContractError "readiness_control_plane_path_invalid")
  raiseIf (differs network "mode" "DENY_BY_DEFAULT" || differs network "external_execution" "DISABLED")
    (readinessContractError "readiness_network_must_remain_deny_by_default")
  raiseIf (differs api "transport" "HTTP_LOOPBACK" || differs api "bind_host" "127.0.0.1")
    (readinessContractError "readiness_api_must_remain_loopback")
  raiseIf (!isIntBetween (api.get "port") 1 65535) (readinessContractError "readiness_api_port_invalid")
  raiseIf (!isIntBetween (api.get "max_request_bytes") 1 (8 * 1024 * 1024)) (readinessContractError "readiness_api_request_limit_invalid")
  raiseIf (!(api.get "audit_path").isNonemptyStr) (readinessContractError "readiness_api_audit_path_invalid")

/-! ## Checks -/

/-- What `_check` admits as a result. -/
inductive Readiness where
  | READY | BLOCKED
deriving DecidableEq

def Readiness.text : Readiness → String
  | .READY => "READY"
  | .BLOCKED => "BLOCKED"

/-- `"READY" if ready else "BLOCKED"` -/
def Readiness.of (ready : Bool) : Readiness := if ready then .READY else .BLOCKED

structure ReadinessCheck where
  checkId : String
  category : String
  assertion : String
  result : Readiness
  observation : String
  evidenceRefs : List String := []

/-- The fields a check is fingerprinted over. -/
def CHECK_OBSERVED : List String := ["check_id", "category", "assertion", "result", "observation", "evidence_refs"]

def CHECK_FIELDS : List String := CHECK_OBSERVED ++ ["severity", "observed_fingerprint"]

structure ExternalBlocker where
  checkId : String
  assertion : String
  reason : String

def EXTERNAL_BLOCKERS : List ExternalBlocker := [
  ⟨"EXT-01", "INDEPENDENT_CLEAN_ROOM", "independently observed OS/filesystem/network isolation attestation is not supplied"⟩,
  ⟨"EXT-02", "DEPLOYED_IDENTITY_PROVIDER", "deployed identity, revocation and gateway integration is not configured"⟩,
  ⟨"EXT-03", "DISTRIBUTED_CONTROL_PLANE", "only the local SQLite control-plane adapter exists; distributed failover is not verified"⟩,
  ⟨"EXT-04", "METADATA_ENCRYPTION_AND_KEY_ESCROW",
    "metadata/volume encryption, key escrow and rotation operations require deployment authority"⟩,
  ⟨"EXT-05", "REAL_PROVIDER_CONNECTOR_AUTHORIZATION", "real provider/connector, DNS, TLS and external network execution is disabled"⟩,
  ⟨"EXT-06", "INDEPENDENT_GATE_D_RECHECK", "independent Gate-D R2 recheck and acceptance evidence is not supplied"⟩]

/-- What the checks read, and what the modules they call say of it. -/
structure Workspace where
  /-- `root.as_posix()` -/
  root : String
  /-- `validate_documentation_bundle(root).ok` and `authority_fingerprint(root)`, or the class of what one of them raises. -/
  integrity : Except String (Bool × String)
  /-- `SchemaRegistry(root)` does not raise. -/
  schemaRegistry : Bool
  /-- `_json(root / relative)` -/
  json : (relative : String) → Option Dict
  /-- The condition of `_local_handler_manifest_valid`. -/
  handlerManifestValid : Dict → Bool
  /-- `validate_preflight_record_shape` -/
  preflightErrors : Dict → List String
  /-- `verify_seal` of the sealed manifest. -/
  sealVerdict : Bool × String
  /-- The parts of `_inside(root, value)` below the root. -/
  inside : Val → Option (List String)
  /-- `_sqlite_probe` -/
  sqliteProbe : (path : List String) → (expectedTables : List String) → Bool × String
  /-- `_network_default_deny()` -/
  networkDefaultDeny : Bool × String

/-- `path.relative_to(root).as_posix()` -/
def relativeText (parts : List String) : String := if parts.isEmpty then "." else "/".intercalate parts

section

variable [Runtime]

namespace ReadinessCheck

def observed (check : ReadinessCheck) : Dict := .ofItems [
  ("check_id", .str check.checkId), ("category", .str check.category), ("assertion", .str check.assertion),
  ("result", .str check.result.text), ("observation", .str check.observation), ("evidence_refs", strList check.evidenceRefs)]

def structured (check : ReadinessCheck) : Dict :=
  (check.observed.insert "severity" (.str "HARD_BLOCK")).insert "observed_fingerprint" (.str (sha256Json check.observed.toVal))

end ReadinessCheck

/-- `"LOC-" + sha256_json(relative)[:8]` -/
def artifactCheckId (relative : String) : String := "LOC-" ++ String.ofList ((sha256Json (.str relative)).toList.take 8)

/-- A predicate gives its reason with its truth value; what it raises counts as not valid. -/
def candidateArtifact (w : Workspace) (relative expectedKind expectedStatus : String)
    (predicate : Dict → Except Exc (Bool × String)) : ReadinessCheck :=
  let check (result : Readiness) (observation : String) (refs : List String) : ReadinessCheck :=
    ⟨artifactCheckId relative, "LOCAL_EVIDENCE", expectedKind, result, observation, refs⟩
  match w.json relative with
  | none => check .BLOCKED (relative ++ " is missing or invalid JSON") []
  | some data =>
    if differs data "artifact_kind" expectedKind || differs data "status" expectedStatus then
      check .BLOCKED (relative ++ " does not contain the required candidate status or artifact kind") []
    else
      let (valid, reason) := match predicate data with
        | .ok r => r
        | .error _ => (false, "candidate artifact predicate failed")
      if valid then check .READY (relative ++ " matches the expected local candidate contract") [relative]
      else check .BLOCKED (relative ++ ":" ++ reason) []

def localRFcCandidateValid (data : Dict) : Bool × String :=
  let unsigned := data.without "report_fingerprint"
  let valid := (data.get "artifact_kind").eq (.str "PMIRI-GC-C1-R-FC-LOCAL-HANDLER-CANDIDATE-REPORT") &&
    (data.get "status").eq (.str "LOCAL_SYNTHETIC_ONLY") && (data.get "runtime_execution").eq (.str "LOCAL_SYNTHETIC_ONLY") &&
    (data.get "selected_case_count").eq (.int 34) && (data.get "executed_case_count").eq (.int 34) &&
    (data.get "handler_error_count").eq (.int 0) && (data.get "oracle_match_count").eq (.int 34) &&
    (data.get "all_oracles_match").isTrue && (data.get "r_fc_pass").eq (.str "NONE") &&
    (data.get "external_network_access").eq (.str "NOT_PERFORMED") && isSha256 (data.get "report_fingerprint") &&
    (data.get "report_fingerprint").eq (.str (sha256Json unsigned.toVal))
  (valid, if valid then "" else "34 local R-FC handlers and oracle comparisons are not complete")

/-- `isinstance(v, list) and len(v) == n` -/
def isListOf (n : Nat) : Val → Bool
  | .list xs => xs.length == n
  | _ => false

def candidateArtifacts (w : Workspace) : List ReadinessCheck := [
  candidateArtifact w "artifacts/s0-acceptance-report.json" "PMIRI-V1-S0-ACCEPTANCE-REPORT" "S0_ACCEPTANCE_CANDIDATE"
    (fun data => .ok (isListOf 12 (data.get "cases"), "VS-01..VS-12 candidate cases are not complete")),
  candidateArtifact w "artifacts/gate-d-runtime-smoke-report.json" "PMIRI-GATE-D-RUNTIME-SMOKE-REPORT" "RUNTIME_SMOKE_CANDIDATE"
    (fun data => .ok (!differs data "external_network_access" "NOT_PERFORMED" &&
      !differs data "external_provider_access" "NOT_PERFORMED", "smoke report claims external execution")),
  candidateArtifact w "artifacts/d2-runtime-candidate-report.json" "PMIRI-GATE-D-D2-RUNTIME-CANDIDATE-REPORT" "D2_RUNTIME_CANDIDATE"
    (fun data => .ok ((data.get "fixture_signal_count").eq (.int 34) && (data.get "all_oracles_match").isTrue,
      "34-case oracle comparison is not complete")),
  candidateArtifact w "artifacts/r-fc-blocked-candidate-report.json" "PMIRI-GC-C1-R-FC-BLOCKED-CANDIDATE-REPORT" "R_FC_REPLAY_BLOCKED"
    (fun data => .ok ((data.get "blocked_case_count").eq (.int 17) && (data.get "executed_case_count").eq (.int 0) &&
      !differs data "r_fc_pass" "NONE", "R-FC blocked boundary is not preserved")),
  candidateArtifact w "artifacts/r-fc-local-handler-candidate-report.json" "PMIRI-GC-C1-R-FC-LOCAL-HANDLER-CANDIDATE-REPORT"
    "LOCAL_SYNTHETIC_ONLY" (fun data => .ok (localRFcCandidateValid data)),
  candidateArtifact w "artifacts/r-fc-handler-manifest.json" "PMIRI-GC-C1-R-FC-HANDLER-MANIFEST" "READY_FOR_REPLAY"
    (fun data => .ok (w.handlerManifestValid data,
      if w.handlerManifestValid data then "" else "standalone pinned R-FC handler manifest is missing or mismatched"))]

/-- `integrity is None or not integrity.ok`, and the fingerprint of the authority bundle. -/
def integrityCheck (w : Workspace) : ReadinessCheck × String :=
  let check := ReadinessCheck.mk "LOC-0002" "LOCAL_EVIDENCE" "AUTHORITY_BUNDLE_INTEGRITY"
  let blocked := check .BLOCKED "documentation authority or schema registry integrity is not valid" []
  match w.integrity with
  | .error cls => (blocked, sha256Json (Dict.ofItems [("status", .str "UNAVAILABLE"), ("reason", .str cls)]).toVal)
  | .ok (false, ref) => (blocked, ref)
  | .ok (true, ref) =>
    (check .READY "documentation JSON/schema registry is structurally valid" ["authority://PMIRI_ALL_DOCUMENTATION_CHECKPOINT_17"], ref)

def schemaCheck (w : Workspace) : ReadinessCheck :=
  let check := ReadinessCheck.mk "LOC-0003" "LOCAL_EVIDENCE" "STANDARDS_SCHEMA_VALIDATOR"
  if w.schemaRegistry then check .READY "Draft 2020-12 standards validator and PMIRI URI registry are available" []
  else check .BLOCKED "standards-complete schema validator is unavailable" []

def preflightCheck (w : Workspace) : ReadinessCheck :=
  let errors := match w.json "artifacts/preflight-record.json" with
    | some preflight => w.preflightErrors preflight
    | none => ["preflight_record_missing_or_invalid"]
  { checkId := "LOC-0008", category := "LOCAL_EVIDENCE", assertion := "PREFLIGHT_CONTRACT", result := .of errors.isEmpty,
    observation := match errors with
      | [] => "preflight record shape is valid"
      | e :: _ => "preflight record shape invalid:" ++ e
    evidenceRefs := ["artifacts/preflight-record.json"] }

def sealCheck (w : Workspace) : ReadinessCheck where
  checkId := "LOC-0009"
  category := "LOCAL_EVIDENCE"
  assertion := "SEALED_ARTIFACT_INTEGRITY"
  result := .of w.sealVerdict.1
  observation := if w.sealVerdict.1 then "sealed manifest byte inventory verifies" else "sealed manifest verification failed:" ++ w.sealVerdict.2
  evidenceRefs := ["artifacts/sealed/s0-acceptance/artifact-manifest.json"]

/-- A database at `path`, if it is inside the project root. -/
def databaseCheck (w : Workspace) (checkId assertion absent : String) (configured : Bool) (path : Option (List String))
    (tables : List String) : ReadinessCheck :=
  match path with
  | some path =>
    if configured then
      let (ok, reason) := w.sqliteProbe path tables
      ⟨checkId, "LOCAL_CONFIGURATION", assertion, .of ok, reason, [relativeText path]⟩
    else ⟨checkId, "LOCAL_CONFIGURATION", assertion, .BLOCKED, absent, []⟩
  | none => ⟨checkId, "LOCAL_CONFIGURATION", assertion, .BLOCKED, absent, []⟩

def storageCheck (w : Workspace) (storage : Dict) : ReadinessCheck :=
  databaseCheck w "LOC-0010" "TRANSACTIONAL_SQLITE_STORAGE" "SQLite storage root is not configured inside the project root"
    (!differs storage "backend" "sqlite") ((w.inside (storage.get "root")).map (· ++ ["pmiri.sqlite3"])) ["schema_meta", "blobs", "sources"]

def controlPlaneCheck (w : Workspace) (control : Dict) : ReadinessCheck :=
  databaseCheck w "LOC-0011" "LOCAL_CONTROL_PLANE" "local control-plane SQLite path is not configured inside the project root"
    (!differs control "backend" "sqlite-local") (w.inside (control.get "path"))
    ["authenticated_principals", "request_replays", "rate_windows", "policy_epoch"]

def networkCheck (w : Workspace) : ReadinessCheck :=
  ⟨"LOC-0012", "LOCAL_ENFORCEMENT", "NETWORK_DEFAULT_DENY", .of w.networkDefaultDeny.1, w.networkDefaultDeny.2, []⟩

def apiCheck (w : Workspace) (api : Dict) : ReadinessCheck :=
  let ok := (w.inside (api.get "audit_path")).isSome
  ⟨"LOC-0013", "LOCAL_CONFIGURATION", "LOOPBACK_READ_SERVER_PROFILE", .of ok,
    if ok then "HTTP read server profile is loopback-bound with a project-local audit path"
    else "HTTP read server audit path is outside the project root", ["api"]⟩

/-! ## External prerequisites -/

def externalCheck (blocker : ExternalBlocker) (reason : String) : ReadinessCheck :=
  ⟨blocker.checkId, "EXTERNAL_PREREQUISITE", blocker.assertion, .BLOCKED, reason, []⟩

def verifiedExternalCheck (evidence : VerifiedEvidence) (blocker : ExternalBlocker) : Except Exc ReadinessCheck := do
  match evidence.checks.lookup blocker.checkId with
  | none => .error (.keyError blocker.checkId)
  | some item =>
    let refs ← (item.get "evidence_refs").elements
    return { checkId := blocker.checkId, category := "EXTERNAL_PREREQUISITE", assertion := blocker.assertion, result := .READY,
             observation := "signed external deployment evidence verified against the active profile and authority bundle; " ++
               "bundle_fingerprint=" ++ evidence.evidenceFingerprint,
             evidenceRefs := refs.map Val.toStr }

/-- The evidence that was supplied: the file and the key that were read at the two paths, where they are given. -/
structure SuppliedEvidence where
  evidence : Option (Option Val) := none
  publicKey : Option (Except Exc ByteArray) := none

/-- `except (DeploymentEvidenceError, OSError, ValueError, TypeError)` -/
def isEvidenceFailure : Exc → Bool
  | .osError _ | .valueError .. | .typeError _ => true
  | _ => false

variable [Cryptography]

/-- The checks of the external prerequisites. -/
def externalChecks (supplied : SuppliedEvidence) (profile : Dict) (authorityRef : String) : Except Exc (List ReadinessCheck) :=
  let blocked (reason : String) : List ReadinessCheck :=
    EXTERNAL_BLOCKERS.map fun b => externalCheck b ("signed external deployment evidence is not verified:" ++ reason)
  match supplied.evidence, supplied.publicKey with
  | none, none => .ok (EXTERNAL_BLOCKERS.map fun b => externalCheck b b.reason)
  | some file, some key =>
    let verified := key.bind fun key =>
      verifyExternalEvidence file key (profile.get "profile_id").toStr (sha256Json profile.toVal) authorityRef
    match verified with
    | .ok evidence => EXTERNAL_BLOCKERS.mapM (verifiedExternalCheck evidence)
    | .error e => if isEvidenceFailure e then .ok (blocked (excName e ++ ":" ++ e.message)) else .error e
  | _, _ => .ok (blocked "both_external_evidence_and_public_key_are_required")

/-! ## The report -/

structure DeploymentReadinessReport where
  reportId : String
  reportType : String
  reportVersion : String
  projectRoot : String
  profileId : String
  profileFingerprint : String
  authorityFingerprint : String
  capturedAt : String
  checks : List ReadinessCheck
  requiredExternalEvidence : List ExternalBlocker
  overallResult : String

namespace DeploymentReadinessReport

def unsigned (report : DeploymentReadinessReport) : Dict := .ofItems [
  ("report_id", .str report.reportId), ("report_type", .str report.reportType), ("report_version", .str report.reportVersion),
  ("project_root", .str report.projectRoot), ("profile_id", .str report.profileId),
  ("profile_fingerprint", .str report.profileFingerprint), ("authority_fingerprint", .str report.authorityFingerprint),
  ("captured_at", .str report.capturedAt), ("checks", .list (report.checks.map fun check => check.structured.toVal)),
  ("required_external_evidence", .list (report.requiredExternalEvidence.map fun b =>
    (Dict.ofItems [("check_id", .str b.checkId), ("assertion", .str b.assertion), ("reason", .str b.reason)]).toVal)),
  ("overall_result", .str report.overallResult)]

def structured (report : DeploymentReadinessReport) : Dict :=
  report.unsigned.insert "report_fingerprint" (.str (sha256Json report.unsigned.toVal))

end DeploymentReadinessReport

/-- The checks that do not need external evidence. -/
def localChecks (w : Workspace) (profile : Dict) : List ReadinessCheck :=
  let part (field : String) : Dict := ((profile.get field).asDict).getD .empty
  [⟨"LOC-0001", "CONFIGURATION", "PROFILE_CONTRACT", .READY, "readiness profile matches the closed versioned contract", []⟩,
    (integrityCheck w).1, schemaCheck w] ++ candidateArtifacts w ++
  [preflightCheck w, sealCheck w, storageCheck w (part "storage"), controlPlaneCheck w (part "control_plane"), networkCheck w,
    apiCheck w (part "api")]

def runDeploymentReadiness (w : Workspace) (profile : Option Dict) (capturedAt : String) (supplied : SuppliedEvidence) :
    Except Exc DeploymentReadinessReport := do
  let activeProfile := profile.getD defaultProfile
  validateProfile activeProfile
  let authorityRef := (integrityCheck w).2
  let external ← externalChecks supplied activeProfile authorityRef
  let checks := localChecks w activeProfile ++ external
  let profileFingerprint := sha256Json activeProfile.toVal
  let digest := sha256Json (Dict.ofItems [("root", .str w.root), ("profile", .str profileFingerprint), ("captured_at", .str capturedAt)]).toVal
  return { reportId := "readiness_" ++ String.ofList (digest.toList.take 32), reportType := REPORT_TYPE,
           reportVersion := REPORT_VERSION, projectRoot := w.root, profileId := (activeProfile.get "profile_id").toStr,
           profileFingerprint, authorityFingerprint := authorityRef, capturedAt, checks,
           requiredExternalEvidence := EXTERNAL_BLOCKERS,
           overallResult :=
             if checks.all (·.result == .READY) then "DEPLOYMENT_READY" else "DEPLOYMENT_READINESS_BLOCKED" }

end

/-! ## Validation -/

def REPORT_FIELDS : List String := [
  "report_id", "report_type", "report_version", "project_root", "profile_id", "profile_fingerprint", "authority_fingerprint",
  "captured_at", "checks", "required_external_evidence", "overall_result", "report_fingerprint"]

/-- `errors.append(msg + v)`, `if c`. -/
def errorAbout (c : Bool) (msg : String) (v : Val) : Except Exc (List String) :=
  if c then
    match v with
    | .str s => .ok [msg ++ s]
    | _ => .error (.typeError "can only concatenate str")
  else .ok []

section

variable [Runtime]

/-- The errors of a check that has the fields of one, when the ids in `ids` were seen. -/
def checkErrors (ids : List Val) (item : Dict) : Except Exc (List String) := do
  let checkId := item.get "check_id"
  let duplicate ← errorAbout (← checkId.inSet ids) "check_id_duplicate:" checkId
  let text := errorIf (! ["check_id", "category", "assertion", "observation"].all fun field => (item.get field).isNonemptyStr)
    ("check_text_invalid:" ++ checkId.toStr)
  let invalid ← pyOr ((item.get "result").notIn ["READY", "BLOCKED"])
    (.ok (differs item "severity" "HARD_BLOCK" || !(item.get "evidence_refs").isStrList))
  let value ← errorAbout invalid "check_value_invalid:" checkId
  let expected := sha256Json (Dict.ofItems (CHECK_OBSERVED.map fun key => (key, item.get key))).toVal
  let mismatch ← errorAbout (differs item "observed_fingerprint" expected) "check_fingerprint_mismatch:" checkId
  return duplicate ++ text ++ value ++ mismatch

/-- The loop over the checks. -/
def checksErrors : List Val → List Val → Except Exc (List String)
  | _, [] => .ok []
  | ids, item :: items =>
    match item.asDict with
    | none => do return "check_not_object" :: (← checksErrors ids items)
    | some d =>
      if !d.keysAre CHECK_FIELDS then do
        return ("check_shape_invalid:" ++ (d.get "check_id").toStr) :: (← checksErrors ids items)
      else do
        let errors ← checkErrors ids d
        return errors ++ (← checksErrors (d.get "check_id" :: ids) items)

/-- The errors of a requirement. What is not an object has no `get`, and no `set` either if it is not a collection of hashables. -/
def requirementErrors (item : Val) : Except Exc (List String) :=
  match item.asDict with
  | some d => .ok (errorIf (!d.keysAre ["check_id", "assertion", "reason"] ||
      ! ["check_id", "assertion", "reason"].all fun field => (d.get field).isNonemptyStr)
      ("external_evidence_requirement_shape_invalid:" ++ (d.get "check_id").toStr))
  | none => do
    let elements ← item.elements
    let _ ← Val.distinct elements
    .error (.attributeError "object has no attribute 'get'")

def externalErrors (external : Val) : Except Exc (List String) :=
  match external with
  | .list items => do
    let ids := (items.filterMap Val.asDict).map fun d => d.get "check_id"
    if !(← Val.sameSet ids (EXTERNAL_BLOCKERS.map fun b => .str b.checkId)) then
      return ["external_evidence_requirements_invalid"]
    else return (← items.mapM requirementErrors).flatten
  | _ => .ok ["external_evidence_requirements_invalid"]

/-- The results of the checks that are objects. -/
def checkResults (report : Dict) : Option (List Val) :=
  match report.get "checks" with
  | .list items => some ((items.filterMap Val.asDict).map fun d => d.get "result")
  | _ => none

def overallErrors (report : Dict) : Except Exc (List String) := do
  if ← (report.get "overall_result").notIn ["DEPLOYMENT_READY", "DEPLOYMENT_READINESS_BLOCKED"] then return ["overall_result_invalid"]
  else if !differs report "overall_result" "DEPLOYMENT_READY" && (checkResults report).any fun results =>
      results.any fun v => !v.eq (.str "READY") then return ["overall_result_claims_ready_with_blocked_checks"]
  else if !differs report "overall_result" "DEPLOYMENT_READINESS_BLOCKED" && (checkResults report).any fun results =>
      results.all fun v => v.eq (.str "READY") then return ["overall_result_blocked_without_blocked_checks"]
  else return []

def fieldErrors (report : Dict) : List String :=
  errorIf (!report.keysAre REPORT_FIELDS) "root_shape_invalid" ++
  errorIf (differs report "report_type" REPORT_TYPE || differs report "report_version" REPORT_VERSION) "report_identity_invalid" ++
  errorIf (!(match report.get "report_id" with | .str s => "readiness_".toList.isPrefixOf s.toList | _ => false)) "report_id_invalid" ++
  errorIf (!(report.get "project_root").isNonemptyStr) "project_root_invalid" ++
  errorIf (!(report.get "profile_id").isNonemptyStr) "profile_id_invalid" ++
  errorIf (!(report.get "captured_at").isNonemptyStr) "captured_at_invalid" ++
  ["profile_fingerprint", "authority_fingerprint", "report_fingerprint"].flatMap fun field =>
    errorIf (!isSha256 (report.get field)) ("fingerprint_invalid:" ++ field)

def reportChecksErrors (report : Dict) : Except Exc (List String) :=
  match report.get "checks" with
  | .list (item :: items) => checksErrors [] (item :: items)
  | _ => .ok ["checks_invalid"]

/-- The fields a report is fingerprinted over. -/
def SIGNED_FIELDS : List String := REPORT_FIELDS.filter (· != "report_fingerprint")

def fingerprintErrors (report : Dict) : Except Exc (List String) :=
  match SIGNED_FIELDS.find? fun key => !report.contains key with
  | some key => .error (.keyError key)
  | none => .ok (errorIf (differs report "report_fingerprint" (sha256Json (report.filterKeys SIGNED_FIELDS.contains).toVal))
      "report_fingerprint_mismatch")

def validateReadinessReport (report : Dict) : Except Exc (List String) := do
  let checks ← reportChecksErrors report
  let external ← externalErrors (report.get "required_external_evidence")
  let fingerprint ← fingerprintErrors report
  let overall ← overallErrors report
  return fieldErrors report ++ checks ++ external ++ fingerprint ++ overall

/-! ## The final gate -/

/-- `_check` of `final_acceptance.py` -/
def finalCheck (checkId assertion result observation : String) (evidenceRefs : List String) : Dict :=
  let unsigned := Dict.ofItems [("check_id", .str checkId), ("assertion", .str assertion), ("result", .str result),
    ("observation", .str observation), ("evidence_refs", strList evidenceRefs), ("severity", .str "HARD_BLOCK")]
  unsigned.insert "observed_fingerprint" (.str (sha256Json unsigned.toVal))

/-- `"EXT-01"` to `"EXT-06"`, as `_readiness_check` lists them. -/
def expectedExternalIds : List String := ["EXT-01", "EXT-02", "EXT-03", "EXT-04", "EXT-05", "EXT-06"]

/-- `_readiness_check`. A report without errors has a list of checks. -/
def readinessCheck (readiness : Option Dict) : Except Exc Dict := do
  match readiness with
  | none => return finalCheck "FA-01" "DEPLOYMENT_READINESS" "BLOCKED" "deployment-readiness report is missing or invalid" []
  | some readiness =>
    match ← validateReadinessReport readiness with
    | e :: _ => return finalCheck "FA-01" "DEPLOYMENT_READINESS" "BLOCKED" ("deployment-readiness report is invalid:" ++ e) []
    | [] =>
      let checks := (← (readiness.get "checks").elements).filterMap Val.asDict
      let externalResults := Dict.ofItems ((checks.filter fun item => "EXT-".toList.isPrefixOf (item.getD "check_id" (.str "")).toStr.toList).map
        fun item => ((item.get "check_id").toStr, item.get "result"))
      let extReady := externalResults.keysAre expectedExternalIds && externalResults.items.all fun kv => kv.2.eq (.str "READY")
      if !differs readiness "overall_result" "DEPLOYMENT_READY" && extReady then
        return finalCheck "FA-01" "DEPLOYMENT_READINESS" "READY"
          "deployment-readiness report is READY and all EXT-01..EXT-06 checks are READY" ["artifacts/deployment-readiness-report.json"]
      else
        let blocked := (checks.filter fun item => !differs item "result" "BLOCKED").map fun item => (item.get "check_id").toStr
        return finalCheck "FA-01" "DEPLOYMENT_READINESS" "BLOCKED" ("deployment readiness is not sufficient for final acceptance:" ++
          if blocked.isEmpty then "readiness_result_not_ready" else ",".intercalate blocked) ["artifacts/deployment-readiness-report.json"]

end

end Pmiri
