import Pmiri.Canonical
import Pmiri.Python.Comprehension
import Pmiri.Python.Order

/-!
# Evidence records

`evidence.py`: a record of what a case did, with the oracle it was compared
with. A record with the status `PASS` needs an executed replay and an accepted
review by someone else.
-/

namespace Pmiri

open Py

def RF_CHECKS : List String := [
  "R-FC-01", "R-FC-02", "R-FC-03", "R-FC-04", "R-FC-05", "R-FC-06", "R-FC-07", "R-FC-08", "R-FC-09", "R-FC-10", "R-FC-11",
  "R-FC-12", "R-FC-13", "R-FC-14", "R-FC-15", "R-FC-16", "R-FC-17"]

def EVIDENCE_STATUSES : List String := ["UNVERIFIED", "READY_FOR_REPLAY", "PASS", "FAIL", "BLOCKED"]

structure EvidenceRecord where
  evidenceId : String
  checkId : String
  matrixVersion : String
  authorityRefs : List String
  fixture : Dict
  actionTrace : List Dict
  oracle : Dict
  actual : Dict
  lineage : Dict
  replay : Dict
  review : Dict
  capturedAt : String
  status : String

namespace EvidenceRecord

def structured (r : EvidenceRecord) : Dict := .ofItems [
  ("evidence_id", .str r.evidenceId),
  ("check_id", .str r.checkId),
  ("matrix_version", .str r.matrixVersion),
  ("authority_refs", strList r.authorityRefs),
  ("fixture", r.fixture.toVal),
  ("action_trace", .list (r.actionTrace.map Dict.toVal)),
  ("oracle", r.oracle.toVal),
  ("actual", r.actual.toVal),
  ("lineage", r.lineage.toVal),
  ("replay", r.replay.toVal),
  ("review", r.review.toVal),
  ("captured_at", .str r.capturedAt),
  ("status", .str r.status)]

end EvidenceRecord

/-- `re.fullmatch(r"GC-C1-EV-[A-Z0-9-]+", s)` -/
def isEvidenceId (s : String) : Bool :=
  match s.toList with
  | 'G' :: 'C' :: '-' :: 'C' :: '1' :: '-' :: 'E' :: 'V' :: '-' :: rest =>
    !rest.isEmpty && rest.all fun c => isAsciiUpper c || isAsciiDigit c || c == '-'
  | _ => false

section

variable [Runtime]

/-- A step of a trace that has the fields of one. -/
def traceStepOk (item : Val) : Bool :=
  match item.asDict with
  | none => false
  | some step =>
    (match step.get "step" with
      | .int i => decide (1 ≤ i)
      | .bool b => b
      | _ => false) &&
      (step.get "operation").truthy && (step.get "input_ref").truthy && (step.get "state_change_or_fault").truthy

/-- A section of a record meets a condition. -/
def sectionOk (record : Dict) (name : String) (ok : Dict → Bool) : Bool :=
  match (record.getD name (.dict [])).asDict with
  | none => false
  | some value => ok value

def evidenceFields : List String := [
  "evidence_id", "check_id", "matrix_version", "authority_refs", "fixture", "action_trace", "oracle", "actual", "lineage",
  "replay", "review", "captured_at", "status"]

def isList : Val → Bool
  | .list _ => true
  | _ => false

/-- The review of a record is not one. -/
def reviewInvalid (record : Dict) : Except Exc Bool :=
  match (record.getD "review" (.dict [])).asDict with
  | none => .ok true
  | some review =>
    pyOr (.ok (!(review.get "primary_reviewer").truthy || !(review.get "independent_reviewer").truthy))
      (pyOr ((review.get "review_result").notIn ["accepted", "rejected", "blocked"])
        (.ok (!(review.get "review_evidence_ref").truthy)))

def validateEvidenceRecord (record : Dict) : Except Exc (List String) := do
  let identity ← pyOr ((record.get "check_id").notIn RF_CHECKS) (.ok (differs record "matrix_version" "0.1"))
  let review ← reviewInvalid record
  let status ← (record.get "status").notIn EVIDENCE_STATUSES
  return (evidenceFields.filter fun key => !record.contains key).map ("missing:" ++ ·) ++
    errorIf (!isEvidenceId (record.getD "evidence_id" (.str "")).toStr) "evidence_id_invalid" ++
    errorIf identity "evidence_identity_invalid" ++
    errorIf (!(record.get "authority_refs").isNonemptyList) "authority_refs_missing" ++
    errorIf (!sectionOk record "fixture" fun d =>
      (d.get "fixture_id").truthy && isSha256 (d.get "input_fingerprint") && (d.get "privacy_class").truthy) "fixture_invalid" ++
    (match record.get "action_trace" with
      | .list (step :: steps) => errorIf (!(step :: steps).all traceStepOk) "action_trace_invalid"
      | _ => ["action_trace_missing"]) ++
    errorIf (!sectionOk record "oracle" fun d =>
      (d.get "expected_dispositions").truthy && (d.get "invariants").isNonemptyList) "oracle_invalid" ++
    errorIf (!sectionOk record "actual" fun d =>
      (d.get "disposition").truthy && (d.get "output_artifact_ref").truthy && isSha256 (d.get "output_fingerprint"))
      "actual_invalid" ++
    errorIf (!sectionOk record "lineage" fun d =>
      (d.get "authorization_lineage_ref").truthy && isList (d.get "evidence_refs") && isList (d.get "citation_refs"))
      "lineage_invalid" ++
    errorIf (!sectionOk record "replay" fun d =>
      (d.get "runner_id").truthy && (d.get "runner_version").truthy && (d.get "command_or_workflow_ref").truthy &&
        isSha256 (d.get "environment_fingerprint")) "replay_invalid" ++
    errorIf review "review_invalid" ++
    errorIf status "status_invalid"

/-- What a record is made of. -/
structure EvidenceInput where
  checkId : String
  fixtureId : String
  inputFingerprint : Val
  expectedDispositions : List Val
  forbiddenDispositions : List Val
  actual : Dict
  actionTrace : List Dict
  authorityRefs : List String
  invariants : List String
  lineage : Dict
  replay : Dict
  review : Dict
  status : String
  /-- `utc_now()` -/
  capturedAt : String

namespace EvidenceInput

/-- `str(d.get(key, default))` -/
def text (d : Dict) (key default : String) : Val := .str (d.getD key (.str default)).toStr

def fixture (i : EvidenceInput) : Dict := .ofItems [
  ("fixture_id", .str i.fixtureId),
  ("input_fingerprint", i.inputFingerprint),
  ("privacy_class", .str "SYNTHETIC")]

def oracle (i : EvidenceInput) : Dict := .ofItems [
  ("expected_dispositions", .list (if i.expectedDispositions.isEmpty then [.str "UNSPECIFIED"] else i.expectedDispositions)),
  ("forbidden_dispositions", .list i.forbiddenDispositions),
  ("invariants", strList (i.invariants ++ ["disposition remains explicit and independently reviewable"]))]

def trace (i : EvidenceInput) : List Dict :=
  if i.actionTrace.isEmpty then [.ofItems [
    ("step", .int 1),
    ("operation", .str "replay_boundary"),
    ("input_ref", .str ("fixture://" ++ i.fixtureId)),
    ("state_change_or_fault", .str "NO_RUNTIME_REPLAY")]]
  else i.actionTrace

/-- `s.lower()`, for an identifier of a check. -/
def lowerText (s : String) : String := String.ofList (lower s.toList)

def actualRecord (i : EvidenceInput) : Dict :=
  let record := Dict.ofItems [
    ("disposition", text i.actual "disposition" "UNKNOWN"),
    ("output_artifact_ref", text i.actual "output_artifact_ref" ("artifact://gc-c1/" ++ lowerText i.checkId)),
    ("output_fingerprint", i.actual.getD "output_fingerprint" (.str (sha256Json i.actual.toVal)))]
  if (i.actual.get "notes").isNone then record else record.insert "notes" (.str (i.actual.get "notes").toStr)

/-- `list(d.get(key, []))` -/
def listOf (d : Dict) (key : String) : Except Exc Val := do return .list (← (d.getD key (.list [])).elements)

/-- The boundary references, if there are any. -/
def boundaryRefs (i : EvidenceInput) : Except Exc (Option Val) :=
  if (i.lineage.get "boundary_refs").isNone then .ok none else (listOf i.lineage "boundary_refs").map some

def lineageRecord (i : EvidenceInput) : Except Exc Dict := do
  let evidenceRefs ← listOf i.lineage "evidence_refs"
  let citationRefs ← listOf i.lineage "citation_refs"
  let boundaryRefs ← i.boundaryRefs
  let record := Dict.ofItems [
    ("authorization_lineage_ref", text i.lineage "authorization_lineage_ref" ("lineage://unbound/" ++ lowerText i.checkId)),
    ("evidence_refs", evidenceRefs),
    ("citation_refs", citationRefs)]
  return boundaryRefs.elim record fun refs => record.insert "boundary_refs" refs

def replayRecord (i : EvidenceInput) : Dict := .ofItems [
  ("runner_id", text i.replay "runner_id" "runner://pmiri-gc-c1-replay"),
  ("runner_version", text i.replay "runner_version" "runner-version://0.1.0"),
  ("command_or_workflow_ref", text i.replay "command_or_workflow_ref" "workflow://not-executed"),
  ("environment_fingerprint", i.replay.getD "environment_fingerprint"
    (.str (sha256Json (Dict.ofItems [("environment", .str "UNVERIFIED")]).toVal)))]

def reviewRecord (i : EvidenceInput) : Dict := .ofItems [
  ("primary_reviewer", text i.review "primary_reviewer" "reviewer://not-supplied"),
  ("independent_reviewer", text i.review "independent_reviewer" "reviewer://not-supplied"),
  ("review_result", text i.review "review_result" "blocked"),
  ("review_evidence_ref", text i.review "review_evidence_ref" "review://not-supplied")]

/-- What the identifier is computed from. -/
def stable (i : EvidenceInput) : Dict := .ofItems [
  ("check_id", .str i.checkId),
  ("fixture", i.fixture.toVal),
  ("actual", i.actualRecord.toVal),
  ("oracle", i.oracle.toVal),
  ("status", .str i.status)]

end EvidenceInput

def evidenceError (msg : String) : Exc := .valueError "ValueError" msg

def createEvidenceRecord (i : EvidenceInput) : Except Exc EvidenceRecord := do
  raiseIf (!RF_CHECKS.contains i.checkId || !isSha256 i.inputFingerprint) (evidenceError "evidence_identity_invalid")
  raiseIf (!EVIDENCE_STATUSES.contains i.status) (evidenceError "evidence_status_invalid")
  raiseIf (i.status == "PASS" && !(i.replay.get "executed").isTrue) (evidenceError "pass_requires_executed_replay")
  raiseIf (i.status == "PASS" && differs i.review "review_result" "accepted") (evidenceError "pass_requires_independent_review")
  raiseIf (i.status == "PASS" && i.review.agrees "primary_reviewer" i.review "independent_reviewer")
    (evidenceError "pass_requires_reviewer_separation")
  let lineage ← i.lineageRecord
  let result : EvidenceRecord := {
    evidenceId := "GC-C1-EV-" ++ String.ofList (((sha256Json i.stable.toVal).toList.take 16).map upperAscii)
    checkId := i.checkId
    matrixVersion := "0.1"
    authorityRefs := if i.authorityRefs.isEmpty then ["authority://gc-c1-evidence-matrix"] else i.authorityRefs
    fixture := i.fixture
    actionTrace := i.trace
    oracle := i.oracle
    actual := i.actualRecord
    lineage := lineage
    replay := i.replayRecord
    review := i.reviewRecord
    capturedAt := i.capturedAt
    status := i.status }
  let errors ← validateEvidenceRecord result.structured
  raiseIf (!errors.isEmpty) (evidenceError ("evidence_record_invalid:" ++ ",".intercalate errors))
  return result

/-- A record carries the status it was made with. -/
theorem createEvidenceRecord_status {i : EvidenceInput} {r : EvidenceRecord} (h : createEvidenceRecord i = .ok r) :
    r.status = i.status := by
  unfold createEvidenceRecord at h
  obtain ⟨-, h⟩ := seq_ok.mp h
  obtain ⟨-, h⟩ := seq_ok.mp h
  obtain ⟨-, h⟩ := seq_ok.mp h
  obtain ⟨-, h⟩ := seq_ok.mp h
  obtain ⟨-, h⟩ := seq_ok.mp h
  obtain ⟨lineage, -, h⟩ := bind_ok.mp h
  obtain ⟨errors, -, h⟩ := bind_ok.mp h
  obtain ⟨-, h⟩ := seq_ok.mp h
  rw [← Except.ok.inj h]

/-- A record that is made has no errors. -/
theorem createEvidenceRecord_errors {i : EvidenceInput} {r : EvidenceRecord} (h : createEvidenceRecord i = .ok r) :
    validateEvidenceRecord r.structured = .ok [] := by
  unfold createEvidenceRecord at h
  simp only [bind_ok] at h
  obtain ⟨⟨⟩, -, ⟨⟩, -, ⟨⟩, -, ⟨⟩, -, ⟨⟩, -, lineage, -, errors, herrors, ⟨⟩, hnone, h⟩ := h
  rw [raiseIf_ok, Bool.not_eq_false', List.isEmpty_iff] at hnone
  rw [← Except.ok.inj h, herrors, hnone]

/-! ## Complete records -/

omit [Runtime] in
/-- A list with a default is not empty. -/
theorem orDefault_ne {α : Type} {xs default : List α} (h : default ≠ []) : (if xs.isEmpty then default else xs) ≠ [] := by
  split <;> rename_i hempty
  · exact h
  · exact fun h => hempty (List.isEmpty_iff.mpr h)

omit [Runtime] in
theorem isIdChar_upperAscii : ∀ c ∈ "0123456789abcdef".toList,
    (isAsciiUpper (upperAscii c) || isAsciiDigit (upperAscii c) || upperAscii c == '-') = true := by
  apply List.all_eq_true.mp
  decide

/-- The identifier of a record is one. -/
theorem isEvidenceId_sha256Json (v : Val) :
    isEvidenceId ("GC-C1-EV-" ++ String.ofList (((sha256Json v).toList.take 16).map upperAscii)) = true := by
  obtain ⟨s, hs, hhex⟩ := isSha256_str (isSha256_sha256Json v)
  rw [Val.str.injEq] at hs
  rw [hs]
  rw [isHex, Bool.and_eq_true, beq_iff_eq, List.all_eq_true] at hhex
  have hne : (s.toList.take 16).map upperAscii ≠ [] := by
    intro h
    have := congrArg List.length h
    rw [List.length_map, List.length_take, String.length_toList, hhex.1] at this
    simp at this
  have htext : ("GC-C1-EV-" ++ String.ofList ((s.toList.take 16).map upperAscii)).toList =
      'G' :: 'C' :: '-' :: 'C' :: '1' :: '-' :: 'E' :: 'V' :: '-' :: (s.toList.take 16).map upperAscii := by
    rw [String.toList_append, String.toList_ofList]
    simp
  unfold isEvidenceId
  rw [htext]
  show (!((s.toList.take 16).map upperAscii).isEmpty && _) = true
  rw [Bool.and_eq_true, Bool.not_eq_true', List.isEmpty_eq_false_iff, List.all_eq_true]
  refine ⟨hne, fun c hc => ?_⟩
  obtain ⟨d, hd, rfl⟩ := List.mem_map.mp hc
  exact isIdChar_upperAscii d (List.contains_iff_mem.mp (hhex.2 d (List.mem_of_mem_take hd)))

omit [Runtime] in
theorem EvidenceRecord.structured_fields (r : EvidenceRecord) :
    r.structured.get "evidence_id" = .str r.evidenceId ∧ r.structured.get "check_id" = .str r.checkId ∧
    r.structured.get "matrix_version" = .str r.matrixVersion ∧ r.structured.get "authority_refs" = strList r.authorityRefs ∧
    r.structured.get "fixture" = r.fixture.toVal ∧ r.structured.get "action_trace" = .list (r.actionTrace.map Dict.toVal) ∧
    r.structured.get "oracle" = r.oracle.toVal ∧ r.structured.get "actual" = r.actual.toVal ∧
    r.structured.get "lineage" = r.lineage.toVal ∧ r.structured.get "replay" = r.replay.toVal ∧
    r.structured.get "review" = r.review.toVal ∧ r.structured.get "status" = .str r.status := by
  simp [EvidenceRecord.structured, Dict.ofItems, Dict.get_insert]

omit [Runtime] in
theorem EvidenceRecord.contains_structured (r : EvidenceRecord) {key : String} (h : key ∈ evidenceFields) :
    r.structured.contains key = true := by
  rw [EvidenceRecord.structured, Dict.contains_iff, Dict.mem_keys_ofItems]
  exact h

omit [Runtime] in
theorem sectionOk_of_get {record d : Dict} {name : String} {ok : Dict → Bool} (h : record.get name = d.toVal) :
    sectionOk record name ok = ok d := by
  rw [sectionOk, Dict.getD_of_contains _ (Dict.contains_of_get (by rw [h]; nofun)), h, Val.asDict_toVal]

/-- The parts of a record are what its checks ask for. -/
structure EvidenceRecord.Valid (r : EvidenceRecord) : Prop where
  evidenceId : isEvidenceId r.evidenceId = true
  check : r.checkId ∈ RF_CHECKS
  version : r.matrixVersion = "0.1"
  authority : r.authorityRefs ≠ []
  fixture : ((r.fixture.get "fixture_id").truthy && isSha256 (r.fixture.get "input_fingerprint") &&
    (r.fixture.get "privacy_class").truthy) = true
  trace : r.actionTrace ≠ []
  steps : ∀ step ∈ r.actionTrace, traceStepOk step.toVal = true
  oracle : ((r.oracle.get "expected_dispositions").truthy && (r.oracle.get "invariants").isNonemptyList) = true
  actual : ((r.actual.get "disposition").truthy && (r.actual.get "output_artifact_ref").truthy &&
    isSha256 (r.actual.get "output_fingerprint")) = true
  lineage : ((r.lineage.get "authorization_lineage_ref").truthy && isList (r.lineage.get "evidence_refs") &&
    isList (r.lineage.get "citation_refs")) = true
  replay : ((r.replay.get "runner_id").truthy && (r.replay.get "runner_version").truthy &&
    (r.replay.get "command_or_workflow_ref").truthy && isSha256 (r.replay.get "environment_fingerprint")) = true
  reviewers : (!(r.review.get "primary_reviewer").truthy || !(r.review.get "independent_reviewer").truthy) = false
  result : ∃ result ∈ ["accepted", "rejected", "blocked"], r.review.get "review_result" = .str result
  reviewEvidence : (r.review.get "review_evidence_ref").truthy = true
  status : r.status ∈ EVIDENCE_STATUSES

theorem EvidenceRecord.Valid.errors {r : EvidenceRecord} (h : r.Valid) : validateEvidenceRecord r.structured = .ok [] := by
  obtain ⟨hid, hcheck, hversion, hauthority, hfixture, htrace, horacle, hactual, hlineage, hreplay, hreview, hstatus⟩ :=
    r.structured_fields
  have hfields : (evidenceFields.filter fun key => !r.structured.contains key) = [] :=
    List.filter_eq_nil_iff.mpr fun key hkey => by simp [r.contains_structured hkey]
  have hidentity : pyOr ((r.structured.get "check_id").notIn RF_CHECKS) (.ok (differs r.structured "matrix_version" "0.1")) =
      .ok false := by
    rw [pyOr_ok_false, Val.notIn_ok_false, ok_bool, differs_false, hversion, h.version]
    exact ⟨⟨_, h.check, hcheck⟩, rfl⟩
  have hreviewed : reviewInvalid r.structured = .ok false := by
    rw [reviewInvalid, Dict.getD_of_contains _ (Dict.contains_of_get (by rw [hreview]; nofun)), hreview, Val.asDict_toVal]
    dsimp only
    rw [pyOr_ok_false, pyOr_ok_false, ok_bool, Val.notIn_ok_false, ok_bool, h.reviewEvidence]
    exact ⟨h.reviewers, h.result, rfl⟩
  have hknown : (r.structured.get "status").notIn EVIDENCE_STATUSES = .ok false :=
    Val.notIn_ok_false.mpr ⟨_, h.status, hstatus⟩
  have hevidenceId : (r.structured.getD "evidence_id" (.str "")).toStr = r.evidenceId := by
    rw [Dict.getD_of_contains _ (Dict.contains_of_get (by rw [hid]; nofun)), hid, Val.toStr_str]
  obtain ⟨step, steps, hsteps⟩ := List.exists_cons_of_ne_nil h.trace
  have hall : (step.toVal :: steps.map Dict.toVal).all traceStepOk = true := by
    rw [← List.map_cons, ← hsteps, List.all_map]
    exact List.all_eq_true.mpr h.steps
  rw [hsteps] at htrace
  unfold validateEvidenceRecord
  rw [hfields, hidentity, hreviewed, hknown, hevidenceId, h.evidenceId, hauthority, htrace]
  simp only [sectionOk_of_get hfixture, sectionOk_of_get horacle, sectionOk_of_get hactual, sectionOk_of_get hlineage,
    sectionOk_of_get hreplay, h.fixture, h.oracle, h.actual, h.lineage, h.replay, isNonemptyList_strList.mpr h.authority,
    ok_bind, errorIf, Bool.not_true, Bool.false_eq_true, ↓reduceIte, List.map_nil, List.append_nil, List.map_cons]
  rw [hall]
  rfl

namespace EvidenceInput

/-- What a record is made of has what the checks of a record ask for, and does not pass. -/
structure Complete (i : EvidenceInput) : Prop where
  check : i.checkId ∈ RF_CHECKS
  input : isSha256 i.inputFingerprint = true
  fixtureId : i.fixtureId ≠ ""
  status : i.status ∈ EVIDENCE_STATUSES
  status_ne : i.status ≠ "PASS"
  steps : ∀ step ∈ i.actionTrace, traceStepOk step.toVal = true
  disposition : (i.actual.getD "disposition" (.str "UNKNOWN")).toStr ≠ ""
  artifact : (i.actual.getD "output_artifact_ref" (.str ("artifact://gc-c1/" ++ lowerText i.checkId))).toStr ≠ ""
  output : isSha256 (i.actual.getD "output_fingerprint" (.str (sha256Json i.actual.toVal))) = true
  lineage : ∃ record, i.lineageRecord = .ok record ∧ ((record.get "authorization_lineage_ref").truthy &&
    isList (record.get "evidence_refs") && isList (record.get "citation_refs")) = true
  replay : ((i.replayRecord.get "runner_id").truthy && (i.replayRecord.get "runner_version").truthy &&
    (i.replayRecord.get "command_or_workflow_ref").truthy && isSha256 (i.replayRecord.get "environment_fingerprint")) = true
  reviewers : (!(i.reviewRecord.get "primary_reviewer").truthy || !(i.reviewRecord.get "independent_reviewer").truthy) = false
  result : ∃ result ∈ ["accepted", "rejected", "blocked"], i.reviewRecord.get "review_result" = .str result
  reviewEvidence : (i.reviewRecord.get "review_evidence_ref").truthy = true

variable {i : EvidenceInput}

theorem Complete.fixtureOk (h : i.Complete) : ((i.fixture.get "fixture_id").truthy &&
    isSha256 (i.fixture.get "input_fingerprint") && (i.fixture.get "privacy_class").truthy) = true := by
  simp [fixture, Dict.ofItems, Dict.get_insert, h.input, Val.truthy, h.fixtureId]

omit [Runtime] in
theorem trace_ne (i : EvidenceInput) : i.trace ≠ [] := orDefault_ne (by simp)

theorem Complete.traceOk (h : i.Complete) : ∀ step ∈ i.trace, traceStepOk step.toVal = true := by
  unfold trace
  split
  · refine List.forall_mem_singleton.mpr ?_
    simp [traceStepOk, Val.asDict_toVal, Dict.ofItems, Dict.get_insert, Val.truthy]
  · exact h.steps

omit [Runtime] in
theorem oracleOk (i : EvidenceInput) :
    ((i.oracle.get "expected_dispositions").truthy && (i.oracle.get "invariants").isNonemptyList) = true := by
  have hexpected : i.oracle.get "expected_dispositions" =
      .list (if i.expectedDispositions.isEmpty then [.str "UNSPECIFIED"] else i.expectedDispositions) := by
    simp [oracle, Dict.ofItems, Dict.get_insert]
  have hinvariants : i.oracle.get "invariants" =
      strList (i.invariants ++ ["disposition remains explicit and independently reviewable"]) := by
    simp [oracle, Dict.ofItems]
  rw [hexpected, hinvariants, isNonemptyList_strList.mpr (by simp), Bool.and_true, Val.truthy, Bool.not_eq_true',
    List.isEmpty_eq_false_iff]
  exact orDefault_ne (by simp)

theorem actualRecord_fields (i : EvidenceInput) :
    i.actualRecord.get "disposition" = text i.actual "disposition" "UNKNOWN" ∧
    i.actualRecord.get "output_artifact_ref" = text i.actual "output_artifact_ref" ("artifact://gc-c1/" ++ lowerText i.checkId) ∧
    i.actualRecord.get "output_fingerprint" = i.actual.getD "output_fingerprint" (.str (sha256Json i.actual.toVal)) := by
  unfold actualRecord
  dsimp only
  split <;> simp [Dict.ofItems, Dict.get_insert]

theorem Complete.actualOk (h : i.Complete) : ((i.actualRecord.get "disposition").truthy &&
    (i.actualRecord.get "output_artifact_ref").truthy && isSha256 (i.actualRecord.get "output_fingerprint")) = true := by
  obtain ⟨hdisposition, hartifact, houtput⟩ := i.actualRecord_fields
  rw [hdisposition, hartifact, houtput, h.output]
  simp [text, Val.truthy, h.disposition, h.artifact]

end EvidenceInput

/-- A record is made of what has all that its checks ask for. -/
theorem createEvidenceRecord_returns {i : EvidenceInput} (h : i.Complete) : ∃ r, createEvidenceRecord i = .ok r := by
  obtain ⟨lineage, hlineage, hlineageOk⟩ := h.lineage
  unfold createEvidenceRecord
  simp only [List.contains_iff_mem.mpr h.check, h.input, List.contains_iff_mem.mpr h.status, beq_false_of_ne h.status_ne,
    hlineage, Bool.not_true, Bool.or_self, raiseIf, Bool.false_eq_true, ↓reduceIte, ok_bind, Bool.false_and]
  rw [EvidenceRecord.Valid.errors]
  · exact ⟨_, rfl⟩
  · exact ⟨isEvidenceId_sha256Json _, h.check, rfl, orDefault_ne (by simp), h.fixtureOk, i.trace_ne,
      h.traceOk, i.oracleOk, h.actualOk,
      hlineageOk, h.replay, h.reviewers, h.result, h.reviewEvidence, h.status⟩

end

end Pmiri
