import Pmiri.Replay.Evidence
import Pmiri.Replay.Handlers
import Pmiri.Replay.Session

/-!
# The candidate runner

`r_fc.py`: the declared cases are run one after another, each behind its own
gate. A run says which handlers it invoked, also where it ends with an
exception. What is read from files for a case is what they hold when its turn
comes, so that it may depend on what ran before.
-/

namespace Pmiri

open Py

/-! ## The catalog -/

/-- A declared case with its fixture. -/
structure DeclaredCase where
  caseId : String
  checkId : String
  fixture : Dict
  case : Dict

def catalogError (msg : String) : Exc := .valueError "ValueError" msg

/-- The cases that a fixture declares, when the cases in `seen` were declared before. -/
def declaredCases (checkId : String) (fixture : Dict) : List Val → List String → Except Exc (List DeclaredCase)
  | [], _ => .ok []
  | value :: rest, seen => do
    let case ← dictOr value (catalogError "r_fc_case_invalid")
    raiseIf (!(case.get "case_id").isStr || seen.contains (case.get "case_id").strText) (catalogError "r_fc_case_invalid")
    let oracle ← dictOr (case.get "oracle") (catalogError "r_fc_case_oracle_invalid")
    raiseIf (!(oracle.get "expected_dispositions").isNonemptyList) (catalogError "r_fc_case_oracle_invalid")
    let caseId := (case.get "case_id").strText
    let more ← declaredCases checkId fixture rest (caseId :: seen)
    return ⟨caseId, checkId, fixture, case⟩ :: more

/-- The cases of the fixtures, when the checks and the cases in `checks` and `seen` were declared before. -/
def fixtureCases : List Val → List String → List String → Except Exc (List DeclaredCase)
  | [], _, _ => .ok []
  | value :: rest, checks, seen => do
    let fixture ← dictOr value (catalogError "r_fc_fixture_invalid")
    raiseIfM ((fixture.get "check_id").notIn RF_CHECKS) (catalogError "r_fc_fixture_invalid")
    let checkId := (fixture.get "check_id").strText
    raiseIf (checks.contains checkId) (catalogError "r_fc_fixture_invalid")
    raiseIf (!(fixture.get "cases").isNonemptyList) (catalogError "r_fc_fixture_cases_invalid")
    let items ← (fixture.get "cases").elements
    let cases ← declaredCases checkId fixture items seen
    let more ← fixtureCases rest (checkId :: checks) (cases.map (·.caseId) ++ seen)
    return cases ++ more

/-- `_load_catalog`, of what reading the file and its JSON text gives: the catalog and its cases. -/
def loadCatalog (file : Except Exc Val) : Except Exc (Dict × List DeclaredCase) := do
  let content ← readJson file (catalogError "r_fc_fixture_catalog_invalid")
  let catalog ← dictOr content (catalogError "r_fc_fixture_catalog_shape_invalid")
  raiseIf (!isList (catalog.get "fixtures")) (catalogError "r_fc_fixture_catalog_shape_invalid")
  let fixtures ← (catalog.get "fixtures").elements
  raiseIf (fixtures.length != 17) (catalogError "r_fc_fixture_catalog_count_invalid")
  let cases ← fixtureCases fixtures [] []
  raiseIf (cases.length != 34) (catalogError "r_fc_fixture_coverage_invalid")
  return (catalog, cases)

/-! ## Arguments and surroundings -/

structure CandidateRun where
  identity : Dict
  fingerprints : Dict
  attestationPaths : List (String × String)
  preflightPaths : List (String × String)
  caseHandlers : Option HandlerRegistry
  handlerManifest : Option Dict
  operatorRef : Option String
  independentReviewerRef : Option String
  caseIds : Option (List String)
  persistDir : Option String

/-- What the surroundings of a run give at its steps. -/
structure Surroundings where
  catalog : Except Exc Val
  authorityFingerprint : Except Exc String
  files : SourceFiles
  /-- What reading the preflight file of a case at a path gives, when its turn comes. -/
  preflight : (caseId path : String) → Except Exc Val
  /-- What reading the attestation file of a case at a path gives, when its turn comes. -/
  attestation : (caseId path : String) → Except Exc Val
  session : String → SessionSteps
  /-- `utc_now()`, in the record of a case -/
  now : String → String
  /-- `utc_now()`, in the report -/
  capturedAt : String
  /-- Writing the report, where that is asked for. -/
  writeReport : Except Exc Unit

section

variable [Runtime]

/-! ## The gate of a case -/

/-- `fingerprints.get(name) != value` for one of the names -/
def fingerprintMismatch (attested : Val) (fingerprints : Dict) : List String → Except Exc (Option String)
  | [] => .ok none
  | name :: names => do
    let value ← attested.getOf name
    if value.eq (fingerprints.get name) then fingerprintMismatch attested fingerprints names
    else return some ("attestation_fingerprint_mismatch:" ++ name)

/-- `except (OSError, ValueError, TypeError, KeyError)` -/
def isAttestationFailure : Exc → Bool
  | .osError _ | .valueError .. | .typeError _ | .keyError _ => true
  | _ => false

/-- The checks of an attestation that was loaded. -/
def attestationReason (record : Dict) (caseId : String) (fingerprints : Dict) : Except Exc (Option String) := do
  if differs record "status" "VERIFIED" || differs record "outcome" "READY_FOR_REPLAY" then
    return some "attestation_not_verified"
  if ← fieldDiffers (record.getD "case" (.dict [])) "case_id" caseId then return some "attestation_case_mismatch"
  fingerprintMismatch (record.getD "fingerprints" (.dict [])) fingerprints REPLAY_FINGERPRINTS.dropLast

/-- `_case_attestation`: the attestation of a case, or the reason why there is none. -/
def caseAttestation (env : Surroundings) (run : CandidateRun) (caseId : String) :
    Except Exc (Except String (Dict × Isolation)) :=
  match run.attestationPaths.lookup caseId with
  | none => .ok (.error "clean_room_attestation_absent")
  | some path =>
    match loadAttestation (env.attestation caseId path) with
    | .error e => if isAttestationFailure e then .ok (.error ("attestation_invalid:" ++ excText e)) else .error e
    | .ok (record, observations) => do
      match ← attestationReason record caseId run.fingerprints with
      | some reason => return .error reason
      | none => return .ok (record, observations)

def inputBindings : List (String × String) := [
  ("authority_bundle_fingerprint", "authority_bundle"),
  ("schema_fingerprint", "evidence_schema"),
  ("catalog_fingerprint", "fixture_catalog"),
  ("matrix_fingerprint", "preflight_matrix")]

/-- The checks of a preflight record that has the shape of one. -/
def preflightReason (record : Dict) (fixtureId caseId : String) (fingerprints : Dict) : Except Exc (Option String) := do
  if differs record "overall_result" "READY_FOR_REPLAY" then return some "preflight_not_ready"
  if differs record "selected_fixture_id" fixtureId || differs record "selected_case_id" caseId then
    return some "preflight_case_binding_mismatch"
  let checks ← (record.getD "checks" (.list [])).elements
  if ← checks.anyM fun item => fieldDiffers item "result" "READY" then return some "preflight_contains_non_ready_check"
  let source ← (record.getD "runner" (.dict [])).getOf "source_fingerprint"
  if !source.eq (fingerprints.get "runner_source") then return some "preflight_runner_source_fingerprint_mismatch"
  let inputs := record.getD "inputs" (.dict [])
  if ← inputBindings.anyM fun binding => do return !(← inputs.getOf binding.1).eq (fingerprints.get binding.2) then
    return some "preflight_input_fingerprint_mismatch"
  return none

/-- The reason that the content of a preflight file gives. -/
def preflightFileReason (content : Val) (fixtureId caseId : String) (fingerprints : Dict) : Except Exc (Option String) :=
  match content.asDict with
  | none => .ok (some "preflight_record_schema_invalid:record_must_be_object")
  | some record => do
    let errors ← validatePreflightRecordShape record
    if errors.isEmpty then preflightReason record fixtureId caseId fingerprints
    else return some ("preflight_record_schema_invalid:" ++ ",".intercalate (errors.take 3))

/-- `_case_preflight`: the reason why the preflight of a case does not let it run. -/
def casePreflight (env : Surroundings) (run : CandidateRun) (fixtureId caseId : String) : Except Exc (Option String) :=
  match run.preflightPaths.lookup caseId with
  | none => .ok (some "preflight_record_absent")
  | some path =>
    match env.preflight caseId path with
    | .error e => if isReadFailure e then .ok (some ("preflight_record_invalid:" ++ excText e)) else .error e
    | .ok content => preflightFileReason content fixtureId caseId run.fingerprints

/-- Operator and reviewer are named and are not the same. -/
def reviewerSeparated (run : CandidateRun) : Bool :=
  match run.operatorRef, run.independentReviewerRef with
  | some operator, some reviewer => operator != "" && reviewer != "" && operator != reviewer
  | _, _ => false

/-- What the gate of a case says: why it does not run, or the handler and the attestation that it runs with. -/
inductive Gate where
  | blocked (reason : String)
  | passed (handler : CaseHandler) (record : Dict) (isolation : Isolation)

def CandidateRun.handler? (run : CandidateRun) (caseId : String) : Option CaseHandler :=
  ((run.caseHandlers.map (·.items)).getD []).lookup caseId

/-- The checks in front of a case. -/
def caseGate (env : Surroundings) (run : CandidateRun) (contract : Option String) (case : DeclaredCase) : Except Exc Gate :=
  if !fingerprintsOk run.fingerprints then .ok (.blocked "required_fingerprint_missing")
  else if !reviewerSeparated run then .ok (.blocked "operator_independent_reviewer_separation_missing")
  else
    match run.handler? case.caseId with
    | none => .ok (.blocked "case_handler_missing")
    | some handler =>
      if !handler.callable then .ok (.blocked "case_handler_missing")
      else do
        let fixtureId := (← case.fixture.item "fixture_id").toStr
        match ← casePreflight env run fixtureId case.caseId with
        | some reason => return .blocked reason
        | none =>
          match ← caseAttestation env run case.caseId with
          | .error reason => return .blocked reason
          | .ok (record, isolation) =>
            match contract with
            | some reason => return .blocked reason
            | none => return .passed handler record isolation

/-! ## The evidence of a case -/

/-- `_expected` -/
def expected (case : Dict) : Except Exc (List Val × List Val) := do
  let oracle ← dictOr (case.getD "oracle" (.dict [])) (.attributeError "object has no attribute 'get'")
  let expectedDispositions ← (oracle.getD "expected_dispositions" (.list [])).elements
  let forbiddenDispositions ← (oracle.getD "forbidden_dispositions" (.list [])).elements
  return (expectedDispositions, forbiddenDispositions)

/-- `["authority://gc-c1-evidence-matrix", "sha256://" + authority_fp]` -/
def authorityRefs (authorityFp : String) : List String := ["authority://gc-c1-evidence-matrix", "sha256://" ++ authorityFp]

/-- `[str(d.get("invariant"))]`, where there is one. -/
def declaredInvariant (d : Dict) : List String := if (d.get "invariant").truthy then [(d.get "invariant").toStr] else []

/-- A step of a trace. -/
def traceStep (caseId : String) (step : Nat) (operation state : String) : Dict := .ofItems [
  ("step", .int step),
  ("operation", .str operation),
  ("input_ref", .str ("fixture://" ++ caseId)),
  ("state_change_or_fault", .str state)]

/-- What `_blocked_case_evidence` makes its record of. -/
def blockedEvidence (env : Surroundings) (authorityFp reason : String) (case : DeclaredCase)
    (dispositions : List Val × List Val) : EvidenceInput where
  checkId := case.checkId
  fixtureId := case.caseId
  inputFingerprint := .str (sha256Json (Dict.ofItems [
    ("fixture_id", .str case.caseId), ("case", case.case.toVal), ("reason", .str reason)]).toVal)
  expectedDispositions := dispositions.1
  forbiddenDispositions := dispositions.2
  actual := .ofItems [("disposition", .str "BLOCKED"), ("notes", .str reason)]
  actionTrace := [traceStep case.caseId 1 "controlled_replay_gate" reason]
  authorityRefs := authorityRefs authorityFp
  invariants := declaredInvariant case.case
  lineage := .ofItems [
    ("authorization_lineage_ref", .str ("lineage://not-executed/" ++ EvidenceInput.lowerText case.caseId)),
    ("evidence_refs", strList ["evidence://not-executed/" ++ EvidenceInput.lowerText case.caseId]),
    ("citation_refs", strList []),
    ("boundary_refs", strList ["boundary://gc-c1-clean-room"])]
  replay := .ofItems [
    ("runner_id", .str ("runner://" ++ RUNNER_ID)),
    ("runner_version", .str ("runner-version://" ++ RUNNER_VERSION)),
    ("command_or_workflow_ref", .str ("workflow://r-fc-not-executed/" ++ case.caseId)),
    ("environment_fingerprint", .str (sha256Json (Dict.ofItems [
      ("environment", .str "UNVERIFIED"), ("case_id", .str case.caseId)]).toVal))]
  review := .ofItems [
    ("primary_reviewer", .str "reviewer://not-supplied"),
    ("independent_reviewer", .str "reviewer://not-supplied"),
    ("review_result", .str "blocked"),
    ("review_evidence_ref", .str "review://not-supplied")]
  status := "BLOCKED"
  capturedAt := env.now case.caseId

/-- The references under a key of a lineage. -/
def lineageRefs (raw : Dict) (key : String) (default : List String) : Val :=
  match raw.get? key with
  | some (.list refs) => strList (refs.map Val.toStr)
  | _ => strList default

/-- `_lineage` -/
def lineage (output : Option Dict) (caseId : String) : Dict :=
  let raw := ((output.bind fun o => (o.getD "lineage" (.dict [])).asDict).getD (.ofItems []))
  .ofItems [
    ("authorization_lineage_ref",
      EvidenceInput.text raw "authorization_lineage_ref" ("lineage://r-fc/" ++ EvidenceInput.lowerText caseId)),
    ("evidence_refs", lineageRefs raw "evidence_refs" []),
    ("citation_refs", lineageRefs raw "citation_refs" []),
    ("boundary_refs", lineageRefs raw "boundary_refs" ["boundary://gc-c1-clean-room"])]

/-- The declared steps under a key of a case. -/
def declaredSteps (case : Dict) (key operation : String) : List (String × String) :=
  match case.get key with
  | .list values => values.map fun value => (operation, value.toStr)
  | _ => []

/-- `_trace` -/
def trace (case : Dict) (caseId finalState : String) : List Dict :=
  (declaredSteps case "setup" "declared_setup" ++ declaredSteps case "actions" "declared_action" ++
    [("controlled_replay", finalState)]).zipIdx.map fun item => traceStep caseId (item.2 + 1) item.1.1 item.1.2

/-- `session.status == "RECORDED"` -/
def ReplaySessionResult.recorded (session : ReplaySessionResult) : Bool := session.status == "RECORDED"

def ReplaySessionResult.structured (session : ReplaySessionResult) : Dict := .ofItems [
  ("case_id", .str session.caseId),
  ("status", .str session.status),
  ("reason", .str session.reason),
  ("replay", (Dict.ofItems [
    ("status", .str session.replay.status),
    ("disposition", .str session.replay.disposition),
    ("reason", .str session.replay.reason),
    ("output", (session.replay.output.map Dict.toVal).getD .none)]).toVal),
  ("artifact_manifest_fingerprint", optStr session.artifactManifestFingerprint),
  ("output_fingerprint", optStr session.outputFingerprint),
  ("persisted_dir", optStr session.persistedDir)]

/-- `handler_manifest.get("handler_manifest_sha256")`, if there is a manifest. -/
def CandidateRun.manifestFingerprint (run : CandidateRun) : Val :=
  (run.handlerManifest.map (·.get "handler_manifest_sha256")).getD .none

/-- The oracle of a case agrees with a session. -/
def oracleMatch (session : ReplaySessionResult) (dispositions : List Val × List Val) : Bool :=
  session.recorded && dispositions.1.any (Val.str session.replay.disposition).eq &&
    !dispositions.2.any (Val.str session.replay.disposition).eq

/-- The fixture and the case, as the input of a session. -/
def DeclaredCase.input (case : DeclaredCase) : Dict := .ofItems [("fixture", case.fixture.toVal), ("case", case.case.toVal)]

/-- What the evidence of a case that was run is made of. -/
def sessionEvidence (env : Surroundings) (run : CandidateRun) (authorityFp : String) (case : DeclaredCase)
    (attestation : Dict) (session : ReplaySessionResult) (dispositions : List Val × List Val) : EvidenceInput where
  checkId := case.checkId
  fixtureId := case.caseId
  inputFingerprint := .str (sha256Json case.input.toVal)
  expectedDispositions := dispositions.1
  forbiddenDispositions := dispositions.2
  actual := .ofItems [
    ("disposition", .str session.replay.disposition),
    ("output_artifact_ref", .str ("artifact://r-fc/" ++ case.caseId ++ "/outputs/result.json")),
    ("output_fingerprint", .str ((session.outputFingerprint.filter (· != "")).getD (sha256Json session.structured.toVal))),
    ("handler_manifest_fingerprint", run.manifestFingerprint),
    ("notes", .str session.reason)]
  actionTrace := trace case.case case.caseId session.reason
  authorityRefs := authorityRefs authorityFp
  invariants := declaredInvariant case.fixture
  lineage := lineage session.replay.output case.caseId
  replay := .ofItems [
    ("executed", .bool session.recorded),
    ("runner_id", .str ("runner://" ++ RUNNER_ID)),
    ("runner_version", .str ("runner-version://" ++ RUNNER_VERSION)),
    ("command_or_workflow_ref", .str ("workflow://r-fc-controlled-replay/" ++ case.caseId)),
    ("environment_fingerprint", .str (sha256Json (Dict.ofItems [
      ("attestation", attestation.toVal), ("case_id", .str case.caseId), ("handler_manifest", run.manifestFingerprint)]).toVal))]
  review := .ofItems [
    ("primary_reviewer", optStr run.operatorRef),
    ("independent_reviewer", optStr run.independentReviewerRef),
    ("review_result", .str "blocked"),
    ("review_evidence_ref", .str ("review://pending/" ++ case.caseId))]
  status := if session.recorded && oracleMatch session dispositions then "UNVERIFIED" else if session.recorded then "FAIL"
    else "BLOCKED"
  capturedAt := env.now case.caseId

/-! ## Cases and the report -/

/-- A case of a report. -/
structure CaseEntry where
  caseId : String
  checkId : String
  caseType : Val
  status : String
  executed : Bool
  /-- The reason why a case was not run. -/
  blockReason : Option String
  oracle : Val
  oracleMatch : Option Bool
  /-- The session of a case that was run. -/
  replay : Option ReplaySessionResult
  evidence : EvidenceRecord
  schemaErrors : List String

def CaseEntry.structured (entry : CaseEntry) : Dict := .ofItems ([
  ("case_id", .str entry.caseId),
  ("check_id", .str entry.checkId),
  ("case_type", entry.caseType),
  ("status", .str entry.status),
  ("executed", .bool entry.executed)] ++
  (entry.blockReason.map fun reason => ("block_reason", Val.str reason)).toList ++ [
  ("oracle", entry.oracle),
  ("oracle_match", (entry.oracleMatch.map Val.bool).getD .none)] ++
  (entry.replay.map fun session => ("replay", session.structured.toVal)).toList ++ [
  ("evidence", entry.evidence.structured.toVal),
  ("schema_errors", strList entry.schemaErrors)])

/-- The entry of a case that its gate does not let run. -/
def blockedEntry (env : Surroundings) (authorityFp reason : String) (case : DeclaredCase) : Except Exc CaseEntry := do
  let dispositions ← expected case.case
  let evidence ← createEvidenceRecord (blockedEvidence env authorityFp reason case dispositions)
  let schemaErrors ← validateEvidenceRecord evidence.structured
  return {
    caseId := case.caseId
    checkId := case.checkId
    caseType := case.case.get "case_type"
    status := "BLOCKED"
    executed := false
    blockReason := some reason
    oracle := case.case.getD "oracle" (.dict [])
    oracleMatch := none
    replay := none
    evidence := evidence
    schemaErrors := schemaErrors }

/-- The entry of a case with a session. -/
def sessionEntry (env : Surroundings) (run : CandidateRun) (authorityFp : String) (case : DeclaredCase)
    (attestation : Dict) (session : ReplaySessionResult) : Except Exc CaseEntry := do
  let dispositions ← expected case.case
  let evidence ← createEvidenceRecord (sessionEvidence env run authorityFp case attestation session dispositions)
  let schemaErrors ← validateEvidenceRecord evidence.structured
  return {
    caseId := case.caseId
    checkId := case.checkId
    caseType := case.case.get "case_type"
    status := if session.recorded then "RECORDED" else session.status
    executed := session.recorded
    blockReason := none
    oracle := case.case.getD "oracle" (.dict [])
    oracleMatch := some (oracleMatch session dispositions)
    replay := some session
    evidence := evidence
    schemaErrors := schemaErrors }

/-- The session of a case behind its gate, and whether its handler was invoked. -/
def caseSession (env : Surroundings) (run : CandidateRun) (caseId : String) (isolation : Isolation) :
    Except Exc ReplaySessionResult × Bool :=
  runControlledCase (env.session caseId) caseId run.identity (some isolation) run.fingerprints
    (run.persistDir.map (· ++ "/" ++ caseId))

/-- One pass of the loop over the cases: the entry, and whether the handler was invoked. -/
def runCandidateCase (env : Surroundings) (run : CandidateRun) (authorityFp : String) (contract : Option String)
    (case : DeclaredCase) : Except Exc CaseEntry × Bool :=
  match caseGate env run contract case with
  | .error e => (.error e, false)
  | .ok (.blocked reason) => (blockedEntry env authorityFp reason case, false)
  | .ok (.passed _ attestation isolation) =>
    let (session, invoked) := caseSession env run case.caseId isolation
    (session.bind fun session => sessionEntry env run authorityFp case attestation session, invoked)

/-- The loop over the cases: the entries, and the cases whose handlers were invoked, in order. -/
def runCandidateCases (env : Surroundings) (run : CandidateRun) (authorityFp : String) (contract : Option String) :
    List DeclaredCase → Except Exc (List CaseEntry) × List String
  | [] => (.ok [], [])
  | case :: rest =>
    let (entry, invoked) := runCandidateCase env run authorityFp contract case
    let log := if invoked then [case.caseId] else []
    match entry with
    | .error e => (.error e, log)
    | .ok entry =>
      let (entries, more) := runCandidateCases env run authorityFp contract rest
      (entries.map (entry :: ·), log ++ more)

/-- A report, but for its constant fields. -/
structure CandidateReport where
  status : String
  catalogId : Val
  catalogVersion : Val
  catalogStatus : Val
  implementationAuthorization : Val
  runtimeExecution : String
  replayPrerequisites : String
  preflight : String
  cleanRoomAttestation : String
  independentReview : String
  operatorRef : Option String
  independentReviewerRef : Option String
  handlerContract : String
  handlerManifestFingerprint : Val
  authorityFingerprint : String
  selectedCaseCount : Nat
  executedCaseCount : Nat
  blockedCaseCount : Nat
  oracleMatchCount : Nat
  schemaValid : Bool
  capturedAt : String
  cases : List CaseEntry

/-- The report without its own fingerprint. -/
def CandidateReport.unsigned (report : CandidateReport) : Dict := .ofItems [
  ("artifact_kind", .str "PMIRI-GC-C1-R-FC-CANDIDATE-REPORT"),
  ("status", .str report.status),
  ("catalog_id", report.catalogId),
  ("catalog_version", report.catalogVersion),
  ("catalog_status", report.catalogStatus),
  ("implementation_authorization", report.implementationAuthorization),
  ("runtime_execution", .str report.runtimeExecution),
  ("r_fc_pass", .str "NONE"),
  ("authority_execution_authorized", .bool false),
  ("replay_prerequisites", .str report.replayPrerequisites),
  ("preflight", .str report.preflight),
  ("clean_room_attestation", .str report.cleanRoomAttestation),
  ("independent_review", .str report.independentReview),
  ("operator_ref", optStr report.operatorRef),
  ("independent_reviewer_ref", optStr report.independentReviewerRef),
  ("handler_contract", .str report.handlerContract),
  ("handler_manifest_fingerprint", report.handlerManifestFingerprint),
  ("external_provider_access", .str "NOT_PERFORMED"),
  ("external_connector_access", .str "NOT_PERFORMED"),
  ("external_network_access", .str "NOT_PERFORMED"),
  ("authority_fingerprint", .str report.authorityFingerprint),
  ("selected_case_count", .int report.selectedCaseCount),
  ("executed_case_count", .int report.executedCaseCount),
  ("blocked_case_count", .int report.blockedCaseCount),
  ("oracle_match_count", .int report.oracleMatchCount),
  ("schema_valid", .bool report.schemaValid),
  ("captured_at", .str report.capturedAt),
  ("cases", .list (report.cases.map fun entry => entry.structured.toVal))]

/-- The report with its fingerprint, as it is returned. -/
def CandidateReport.structured (report : CandidateReport) : Dict :=
  report.unsigned.insert "report_fingerprint" (.str (sha256Json report.unsigned.toVal))

/-- The report of the entries of a run. -/
def candidateReport (env : Surroundings) (run : CandidateRun) (catalog : Dict) (authorityFp : String)
    (contract : Option String) (cases : List CaseEntry) : Except Exc CandidateReport := do
  let executed := cases.countP (·.executed)
  let blocked := cases.countP (·.status == "BLOCKED")
  let separated := reviewerSeparated run
  let authorization ← (catalog.getD "scope" (.dict [])).getOf "implementation_authorization"
  return {
    status := if executed = 0 then "R_FC_REPLAY_BLOCKED" else if blocked ≠ 0 then "R_FC_REPLAY_PARTIAL"
      else "R_FC_REPLAY_RECORDED"
    catalogId := catalog.get "catalog_id"
    catalogVersion := catalog.get "catalog_version"
    catalogStatus := catalog.get "status"
    implementationAuthorization := authorization
    runtimeExecution := if executed ≠ 0 then "CONTROLLED_CANDIDATE" else "NOT_PERFORMED"
    replayPrerequisites := if executed ≠ 0 || !cases.isEmpty && blocked = 0 then "READY_FOR_REPLAY" else "BLOCKED"
    preflight := if executed ≠ 0 then "READY_FOR_REPLAY" else "NOT_SUPPLIED"
    cleanRoomAttestation := if executed ≠ 0 then "VERIFIED_EXTERNAL_PER_CASE" else "NOT_SUPPLIED"
    independentReview := if executed ≠ 0 || separated then "PENDING" else "NOT_SUPPLIED"
    operatorRef := if separated then run.operatorRef else none
    independentReviewerRef := if separated then run.independentReviewerRef else none
    handlerContract := contract.getD "READY"
    handlerManifestFingerprint := run.manifestFingerprint
    authorityFingerprint := authorityFp
    selectedCaseCount := cases.length
    executedCaseCount := executed
    blockedCaseCount := blocked
    oracleMatchCount := cases.countP (·.oracleMatch == some true)
    schemaValid := cases.all (·.schemaErrors.isEmpty)
    capturedAt := env.capturedAt
    cases := cases }

/-- The cases of a run: those that are asked for, or all. -/
def selectedCases (run : CandidateRun) (cases : List DeclaredCase) : Except Exc (List DeclaredCase) := do
  let selectedIds := run.caseIds.getD ((cases.map (·.caseId)).insertionSort (· ≤ ·))
  raiseIf (!selectedIds.Nodup || selectedIds.any fun caseId => !cases.any (·.caseId == caseId))
    (catalogError "r_fc_case_selection_invalid")
  return selectedIds.filterMap fun caseId => cases.find? (·.caseId == caseId)

/-- `run_r_fc_candidate`: the report, and the cases whose handlers were invoked, in order. -/
def runRFcCandidate (env : Surroundings) (run : CandidateRun) : Except Exc CandidateReport × List String :=
  let prepared : Except Exc (Dict × String × List DeclaredCase × Option String) := do
    let catalog ← loadCatalog env.catalog
    let authorityFp ← env.authorityFingerprint
    let selected ← selectedCases run catalog.2
    let contract ← validateHandlerContract env.files run.handlerManifest run.caseHandlers (selected.map (·.caseId))
    return (catalog.1, authorityFp, selected, contract)
  match prepared with
  | .error e => (.error e, [])
  | .ok (catalog, authorityFp, selected, contract) =>
    let (entries, log) := runCandidateCases env run authorityFp contract selected
    (do
      let report ← candidateReport env run catalog authorityFp contract (← entries)
      env.writeReport
      return report, log)

end

end Pmiri
