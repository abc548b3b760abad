import Pmiri.Deployment.Readiness
import Pmiri.Handoff.Creation

/-!
# The final acceptance gate

`final_acceptance.py`: the report that takes a deployment-readiness report and the
signed final evidence together, and its validation.
-/

namespace Pmiri

open Py

def FINAL_GATE_KIND : String := "PMIRI-FINAL-ACCEPTANCE-GATE"
def FINAL_GATE_VERSION : String := "0.1"
def FINAL_GATE_READY : String := "FINAL_ACCEPTANCE_READY"
def FINAL_GATE_BLOCKED : String := "FINAL_ACCEPTANCE_BLOCKED"

/-- The id and the assertion of each check. -/
def FINAL_GATE_REQUIREMENTS : List (String × String) :=
  ("FA-01", "DEPLOYMENT_READINESS") :: FINAL_ACCEPTANCE_ASSERTIONS.map fun r => (r.checkId, r.assertion)

/-- The arguments of `build_final_acceptance_report`, the time it reads, and the directory it runs in. -/
structure AcceptanceRequest where
  projectRoot : List String
  readinessPath : String := "artifacts/deployment-readiness-report.json"
  evidencePath : Option String := none
  publicKeyPath : Option String := none
  capturedAt : Option String := none
  clock : Instant
  workingDirectory : List String

/-! ## What is read -/

/-- `_resolve` -/
def resolveBelow (fs : FileSystem) (root : List String) (value : String) : List String := fs.resolve (joinPath root value)

/-- `path.read_bytes()` -/
def readBytes (fs : FileSystem) (path : List String) : Except Exc ByteArray :=
  match fs.contentAt path with
  | some content => .ok content
  | none => .error (.osError "No such file or directory")

section

variable [Runtime]

/-- `_read_json` -/
def readJsonObject [FloatText] (fs : FileSystem) (path : List String) : Option Dict := (readJsonFile fs path).bind Val.asDict

/-- `Path(str(readiness["project_root"])).resolve() == root` -/
def belongsTo (fs : FileSystem) (workingDirectory root : List String) (readiness : Dict) : Bool :=
  fs.resolve (joinPath workingDirectory (readiness.get "project_root").toStr) == root

/-- What is wrong with the readiness report that was read. -/
def readinessErrors (fs : FileSystem) (workingDirectory root : List String) : Option Dict → Except Exc (List String)
  | none => .ok ["readiness_report_missing_or_invalid"]
  | some readiness => do
    let errors ← validateReadinessReport readiness
    return if errors.isEmpty && !belongsTo fs workingDirectory root readiness then ["readiness_project_root_mismatch"] else errors

/-- What the report says of the readiness report. -/
structure ReadinessBinding where
  profileId : String
  profileFingerprint : String
  authorityFingerprint : String
  readinessFingerprint : String

def unavailable : String := sha256Json (Dict.ofItems [("status", .str "UNAVAILABLE")]).toVal

def readinessBinding : Option Dict → ReadinessBinding
  | none => ⟨"UNAVAILABLE", unavailable, unavailable, unavailable⟩
  | some readiness =>
    { profileId := (readiness.getD "profile_id" (.str "UNAVAILABLE")).toStr
      profileFingerprint := (readiness.getD "profile_fingerprint" (.str unavailable)).toStr
      authorityFingerprint := (readiness.getD "authority_fingerprint" (.str unavailable)).toStr
      readinessFingerprint := (readiness.getD "report_fingerprint" (.str unavailable)).toStr }

/-- What becomes of the final evidence. -/
structure EvidenceOutcome where
  evidence : Option VerifiedEvidence := none
  status : String
  reason : String

section

variable [Cryptography] [FloatText]

/-- The final evidence, verified against the readiness report if that has no errors. -/
def finalEvidence (fs : FileSystem) (root : List String) (request : AcceptanceRequest) (errors : List String)
    (binding : ReadinessBinding) : Except Exc EvidenceOutcome :=
  match request.evidencePath, request.publicKeyPath with
  | none, none => .ok { status := "NOT_SUPPLIED", reason := "signed final-acceptance evidence is not supplied" }
  | some evidencePath, some publicKeyPath =>
    match errors with
    | e :: _ => .ok { status := "INVALID", reason := "current readiness report cannot bind final-acceptance evidence:" ++ e }
    | [] =>
      let verified := (readBytes fs (resolveBelow fs root publicKeyPath)).bind fun key =>
        verifyFinalAcceptanceEvidence (readJsonFile fs (resolveBelow fs root evidencePath)) key binding.profileId
          binding.profileFingerprint binding.authorityFingerprint binding.readinessFingerprint
      match verified with
      | .ok evidence =>
        .ok ⟨some evidence, "VERIFIED", "signed final-acceptance evidence verified against the current readiness report"⟩
      | .error e =>
        if isEvidenceFailure e then .ok { status := "INVALID", reason := excName e ++ ":" ++ e.message } else .error e
  | _, _ =>
    .ok { status := "INVALID", reason := "both final-acceptance evidence and its trusted public key are required" }

end

/-! ## The report -/

/-- The check of one of the assertions of the evidence. -/
def assertionCheck (outcome : EvidenceOutcome) (requirement : Requirement) : Except Exc Dict :=
  match outcome.evidence with
  | none => .ok (finalCheck requirement.checkId requirement.assertion "BLOCKED" outcome.reason [])
  | some evidence =>
    match evidence.checks.lookup requirement.checkId with
    | none => .error (.keyError requirement.checkId)
    | some item => do
      let refs ← (item.get "evidence_refs").elements
      return finalCheck requirement.checkId requirement.assertion "READY"
        ("signed final-acceptance evidence verified; evidence_fingerprint=" ++ evidence.evidenceFingerprint) (refs.map Val.toStr)

/-- `check["result"] == "READY"` -/
def isReadyCheck (check : Dict) : Bool := !differs check "result" "READY"

/-- `captured_at or utc_now()` -/
def AcceptanceRequest.captured (request : AcceptanceRequest) : String := orNow request.capturedAt request.clock

/-- The report without its fingerprint. -/
def unsignedFinalReport (projectRoot capturedAt : String) (binding : ReadinessBinding) (outcome : EvidenceOutcome)
    (checks : List Dict) : Dict :=
  let overall := if checks.all isReadyCheck then FINAL_GATE_READY else FINAL_GATE_BLOCKED
  .ofItems [
    ("artifact_kind", .str FINAL_GATE_KIND), ("artifact_version", .str FINAL_GATE_VERSION),
    ("status", .str overall), ("overall_result", .str overall),
    ("project_root", .str projectRoot), ("captured_at", .str capturedAt),
    ("profile_id", .str binding.profileId), ("profile_fingerprint", .str binding.profileFingerprint),
    ("authority_fingerprint", .str binding.authorityFingerprint),
    ("readiness_report_fingerprint", .str binding.readinessFingerprint),
    ("external_evidence_status", .str outcome.status),
    ("external_evidence_fingerprint", match outcome.evidence with
      | some evidence => .str evidence.evidenceFingerprint
      | none => .none),
    ("required_assertions", .list (FINAL_GATE_REQUIREMENTS.map fun r =>
      (Dict.ofItems [("check_id", .str r.1), ("assertion", .str r.2)]).toVal)),
    ("checks", .list (checks.map Dict.toVal))]

/-- The report, signed by itself. -/
def finalReport (unsigned : Dict) : Dict := unsigned.insert "report_fingerprint" (.str (sha256Json unsigned.toVal))

variable [FloatText]

/-- What `build_final_acceptance_report` does with the readiness report that it has read. -/
def buildWithReadiness [Cryptography] (fs : FileSystem) (request : AcceptanceRequest) (readiness : Option Dict) : Except Exc Dict := do
  let root := fs.resolve request.projectRoot
  let errors ← readinessErrors fs request.workingDirectory root readiness
  let validReadiness := if errors.isEmpty then readiness else none
  let first ← readinessCheck validReadiness
  let binding := readinessBinding validReadiness
  let outcome ← finalEvidence fs root request errors binding
  let checks ← FINAL_ACCEPTANCE_ASSERTIONS.mapM (assertionCheck outcome)
  return finalReport (unsignedFinalReport (absoluteAsPosix root) request.captured binding outcome (first :: checks))

def buildFinalAcceptanceReport [Cryptography] (fs : FileSystem) (request : AcceptanceRequest) : Except Exc Dict :=
  buildWithReadiness fs request (readJsonObject fs (resolveBelow fs (fs.resolve request.projectRoot) request.readinessPath))

end

/-! ## Validation -/

/-- The fields a report is fingerprinted over. -/
def FINAL_SIGNED_FIELDS : List String := [
  "artifact_kind", "artifact_version", "status", "overall_result", "project_root", "captured_at",
  "profile_id", "profile_fingerprint", "authority_fingerprint", "readiness_report_fingerprint",
  "external_evidence_status", "external_evidence_fingerprint", "required_assertions", "checks"]

def FINAL_REPORT_FIELDS : List String := FINAL_SIGNED_FIELDS ++ ["report_fingerprint"]

/-- The fields a check is fingerprinted over. -/
def FINAL_CHECK_SIGNED : List String := ["check_id", "assertion", "result", "observation", "evidence_refs", "severity"]

def finalIdentityErrors (report : Dict) : List String :=
  errorIf (!report.keysAre FINAL_REPORT_FIELDS) "fields_invalid" ++
  errorIf (differs report "artifact_kind" FINAL_GATE_KIND || differs report "artifact_version" FINAL_GATE_VERSION) "identity_invalid"

def finalStatusErrors (report : Dict) : Except Exc (List String) := do
  let invalid ← pyOr (.ok (!report.agrees "status" report "overall_result"))
    ((report.get "status").notIn [FINAL_GATE_READY, FINAL_GATE_BLOCKED])
  return errorIf invalid "status_invalid"

def finalFieldErrors (report : Dict) : List String :=
  (["profile_fingerprint", "authority_fingerprint", "readiness_report_fingerprint", "report_fingerprint"].flatMap fun field =>
    errorIf (!isSha256 (report.get field)) ("fingerprint_invalid:" ++ field)) ++
  errorIf (!(report.get "project_root").isNonemptyStr || !(report.get "captured_at").isNonemptyStr ||
    !(report.get "profile_id").isNonemptyStr) "report_identity_fields_invalid"

def evidenceStatusErrors (report : Dict) : Except Exc (List String) := do
  let invalid ← (report.get "external_evidence_status").notIn ["NOT_SUPPLIED", "INVALID", "VERIFIED"]
  return errorIf invalid "external_evidence_status_invalid" ++
    if !differs report "external_evidence_status" "VERIFIED" then
      errorIf (!isSha256 (report.get "external_evidence_fingerprint")) "verified_evidence_fingerprint_invalid"
    else errorIf (!(report.get "external_evidence_fingerprint").isNone) "unverified_evidence_fingerprint_must_be_null"

/-- `[{"check_id": …, "assertion": …} …]` -/
def expectedRequirements : Val :=
  .list (FINAL_GATE_REQUIREMENTS.map fun r => (Dict.ofItems [("check_id", .str r.1), ("assertion", .str r.2)]).toVal)

def requiredAssertionsErrors (report : Dict) : List String :=
  errorIf (!(report.get "required_assertions").eq expectedRequirements) "required_assertions_invalid"

/-- `dict(FINAL_GATE_REQUIREMENTS).get(v)` -/
def expectedAssertion (v : Val) : Except Exc (Option String) :=
  match v with
  | .str checkId => .ok (FINAL_GATE_REQUIREMENTS.lookup checkId)
  | _ => if v.hashable then .ok none else .error (.typeError "unhashable type")

section

variable [Runtime]

/-- The errors of one of the checks. -/
def finalCheckErrors (item : Val) : Except Exc (List String) :=
  match item.asDict with
  | none => .ok ["check_shape_invalid"]
  | some item =>
    if !item.keysAre (FINAL_CHECK_SIGNED ++ ["observed_fingerprint"]) then .ok ["check_shape_invalid"]
    else do
      let checkId := (item.get "check_id").toStr
      let assertion ← expectedAssertion (item.get "check_id")
      let invalid ← pyOr ((item.get "result").notIn ["READY", "BLOCKED"]) (.ok (differs item "severity" "HARD_BLOCK"))
      return errorIf (!assertion.any fun a => !differs item "assertion" a) ("check_identity_invalid:" ++ checkId) ++
        errorIf invalid ("check_value_invalid:" ++ checkId) ++
        errorIf (!(item.get "evidence_refs").isStrList) ("check_refs_invalid:" ++ checkId) ++
        errorIf (differs item "observed_fingerprint" (sha256Json (item.filterKeys FINAL_CHECK_SIGNED.contains).toVal))
          ("check_fingerprint_mismatch:" ++ checkId)

def finalChecksErrors (report : Dict) : Except Exc (List String) :=
  match report.get "checks" with
  | .list items =>
    if !Val.eqList ((items.filterMap Val.asDict).map fun d => d.get "check_id") (FINAL_GATE_REQUIREMENTS.map fun r => .str r.1) then
      .ok ["checks_invalid"]
    else do return (← items.mapM finalCheckErrors).flatten
  | _ => .ok ["checks_invalid"]

omit [Runtime] in
def finalOverallErrors (report : Dict) : List String :=
  let ready := !differs report "overall_result" FINAL_GATE_READY
  errorIf (ready && differs report "external_evidence_status" "VERIFIED") "ready_without_verified_evidence" ++
  errorIf (ready && (checkResults report).any fun results => results.any fun v => !v.eq (.str "READY")) "ready_with_blocked_checks" ++
  errorIf (!differs report "overall_result" FINAL_GATE_BLOCKED && (checkResults report).any fun results =>
    results.all fun v => v.eq (.str "READY")) "blocked_without_blocked_checks"

/-- Whether the report is of the project at `root`. -/
def rootBindingErrors (fs : FileSystem) (workingDirectory root : List String) (report : Dict) : List String :=
  if !(report.get "project_root").isNonemptyStr then ["project_root_binding_invalid"]
  else errorIf (!belongsTo fs workingDirectory root report) "project_root_binding_mismatch"

/-- The fields of a report that come from the readiness report, with the fields they have there. -/
def READINESS_BINDINGS : List (String × String) := [
  ("profile_id", "profile_id"), ("profile_fingerprint", "profile_fingerprint"), ("authority_fingerprint", "authority_fingerprint"),
  ("readiness_report_fingerprint", "report_fingerprint")]

/-- Whether the report is of the readiness report that the project has now. -/
def currentReadinessErrors (fs : FileSystem) (workingDirectory root : List String) (report : Dict) (current : Option Dict) :
    Except Exc (List String) :=
  match current with
  | none => .ok ["current_readiness_missing_or_invalid"]
  | some current => do
    match ← validateReadinessReport current with
    | e :: _ => return ["current_readiness_invalid:" ++ e]
    | [] =>
      return errorIf (!belongsTo fs workingDirectory root current) "current_readiness_project_root_mismatch" ++
        READINESS_BINDINGS.flatMap fun b => errorIf (!report.agrees b.1 current b.2) ("readiness_binding_mismatch:" ++ b.1)

def projectRootErrors (fs : FileSystem) (workingDirectory : List String) (report : Dict) (current : List String → Option Dict) :
    Option (List String) → Except Exc (List String)
  | none => .ok []
  | some projectRoot => do
    let root := fs.resolve projectRoot
    let current ← currentReadinessErrors fs workingDirectory root report (current root)
    return rootBindingErrors fs workingDirectory root report ++ current

def finalFingerprintErrors (report : Dict) : Except Exc (List String) :=
  match FINAL_SIGNED_FIELDS.find? fun key => !report.contains key with
  | some key => .error (.keyError key)
  | none =>
    .ok (errorIf (differs report "report_fingerprint" (sha256Json (report.filterKeys FINAL_SIGNED_FIELDS.contains).toVal))
      "report_fingerprint_mismatch")

/-- What `validate_final_acceptance_report` finds, by what it reads at a project root. -/
def finalReportErrors (fs : FileSystem) (workingDirectory : List String) (report : Dict) (current : List String → Option Dict)
    (projectRoot : Option (List String)) : Except Exc (List String) := do
  let status ← finalStatusErrors report
  let evidence ← evidenceStatusErrors report
  let checks ← finalChecksErrors report
  let current ← projectRootErrors fs workingDirectory report current projectRoot
  let fingerprint ← finalFingerprintErrors report
  return finalIdentityErrors report ++ status ++ finalFieldErrors report ++ evidence ++ requiredAssertionsErrors report ++ checks ++
    finalOverallErrors report ++ current ++ fingerprint

/-- The readiness report of the project at `root`. -/
def currentReadiness [FloatText] (fs : FileSystem) (root : List String) : Option Dict :=
  readJsonObject fs (joinPath root "artifacts/deployment-readiness-report.json")

def validateFinalAcceptanceReport [FloatText] (fs : FileSystem) (workingDirectory : List String) (report : Dict)
    (projectRoot : Option (List String)) : Except Exc (List String) :=
  finalReportErrors fs workingDirectory report (currentReadiness fs) projectRoot

end

end Pmiri
