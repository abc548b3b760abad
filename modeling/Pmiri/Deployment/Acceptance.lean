import Pmiri.Deployment.Totality
import Pmiri.Deployment.Written

/-!
# Final reports are consistent

The report that is built is one that its validator accepts, and it is ready only
if the readiness report is, and the evidence was verified for that report.
-/

namespace Pmiri

open Py

section

variable [Runtime]

/-! ## Checks -/

theorem finalCheck_fields (checkId assertion result observation : String) (refs : List String) :
    (finalCheck checkId assertion result observation refs).get "check_id" = .str checkId ∧
    (finalCheck checkId assertion result observation refs).get "assertion" = .str assertion ∧
    (finalCheck checkId assertion result observation refs).get "severity" = .str "HARD_BLOCK" ∧
    (finalCheck checkId assertion result observation refs).get "evidence_refs" = strList refs := by
  simp [finalCheck, Dict.get_insert, Dict.ofItems]

/-- A check with the id and the assertion of a requirement. -/
def IsFinalCheck (requirement : String × String) (check : Dict) : Prop :=
  ∃ result observation refs, check = finalCheck requirement.1 requirement.2 result observation refs ∧ result ∈ ["READY", "BLOCKED"] ∧
    ∀ ref ∈ refs, ref ≠ ""

omit [Runtime] in
theorem lookup_requirement : ∀ r ∈ FINAL_GATE_REQUIREMENTS, FINAL_GATE_REQUIREMENTS.lookup r.1 = some r.2 := by decide +kernel

theorem finalCheckErrors_finalCheck {requirement : String × String} (hrequirement : requirement ∈ FINAL_GATE_REQUIREMENTS) {check : Dict}
    (h : IsFinalCheck requirement check) : finalCheckErrors check.toVal = .ok [] := by
  obtain ⟨result, observation, refs, rfl, hresult, hrefs⟩ := h
  obtain ⟨hid, hassertion, hseverity, hrefsField⟩ := finalCheck_fields requirement.1 requirement.2 result observation refs
  have hkeys : (finalCheck requirement.1 requirement.2 result observation refs).keysAre (FINAL_CHECK_SIGNED ++ ["observed_fingerprint"]) =
      true := by
    rw [Dict.keysAre_iff]
    intro k
    rw [finalCheck, Dict.mem_keys_insert, Dict.keys_ofItems (by simp)]
    simp [FINAL_CHECK_SIGNED, or_assoc]
  have hsigned : differs (finalCheck requirement.1 requirement.2 result observation refs) "observed_fingerprint"
      (sha256Json ((finalCheck requirement.1 requirement.2 result observation refs).filterKeys FINAL_CHECK_SIGNED.contains).toVal) = false := by
    rw [differs_false, finalCheck, Dict.filterKeys_insert (by decide), Dict.get_insert_self, Dict.filterKeys_self]
    intro k hk
    rw [Dict.keys_ofItems (by simp)] at hk
    exact List.contains_iff_mem.mpr hk
  have hknown : ((finalCheck requirement.1 requirement.2 result observation refs).get "result").notIn ["READY", "BLOCKED"] = .ok false := by
    rw [finalCheck_result]
    exact Val.notIn_ok_false.mpr ⟨result, hresult, rfl⟩
  have hlookup := lookup_requirement requirement hrequirement
  have hstrings : (strList refs).isStrList = true := isStrList_strList.mpr hrefs
  rw [finalCheckErrors, Val.asDict_toVal]
  dsimp only
  rw [hkeys, if_neg (by decide), hid, expectedAssertion, hlookup, hknown, differs_false.mpr hseverity, hrefsField, hstrings, hsigned]
  refine bind_ok.mpr ⟨some requirement.2, rfl, bind_ok.mpr ⟨false, rfl, ?_⟩⟩
  rw [Option.any_some, differs_false.mpr hassertion]
  rfl

theorem readinessCheck_isFinalCheck {readiness : Option Dict} {first : Dict} (h : readinessCheck readiness = .ok first) :
    IsFinalCheck ("FA-01", "DEPLOYMENT_READINESS") first := by
  have hblocked : ∀ observation refs, (∀ ref ∈ refs, ref ≠ "") →
      IsFinalCheck ("FA-01", "DEPLOYMENT_READINESS") (finalCheck "FA-01" "DEPLOYMENT_READINESS" "BLOCKED" observation refs) :=
    fun observation refs hrefs => ⟨"BLOCKED", observation, refs, rfl, by decide, hrefs⟩
  have hpath : ∀ ref ∈ ["artifacts/deployment-readiness-report.json"], ref ≠ "" := by decide
  cases readiness with
  | none =>
    obtain rfl := Except.ok.inj h
    exact hblocked _ _ nofun
  | some readiness =>
    obtain ⟨errors, -, h⟩ := bind_ok.mp h
    split at h
    · obtain rfl := Except.ok.inj h
      exact hblocked _ _ nofun
    · obtain ⟨elements, -, h⟩ := bind_ok.mp h
      extract_lets checks externalResults extReady blocked at h
      split at h
      · obtain rfl := Except.ok.inj h
        exact ⟨"READY", _, _, rfl, by decide, hpath⟩
      · obtain rfl := Except.ok.inj h
        exact hblocked _ _ hpath

/-- With verified evidence the check of an assertion is ready; without, it is not. -/
theorem assertionCheck_isFinalCheck {outcome : EvidenceOutcome} {requirement : Requirement} {check : Dict}
    (hrefs : ∀ evidence, outcome.evidence = some evidence → ∃ item, evidence.checks.lookup requirement.checkId = some item ∧
      (item.get "evidence_refs").isStrList = true)
    (h : assertionCheck outcome requirement = .ok check) :
    IsFinalCheck (requirement.checkId, requirement.assertion) check ∧ (isReadyCheck check = true → outcome.evidence ≠ none) := by
  unfold assertionCheck at h
  split at h
  · obtain rfl := Except.ok.inj h
    refine ⟨⟨"BLOCKED", _, _, rfl, by decide, nofun⟩, fun hready => ?_⟩
    rw [isReadyCheck, differs, finalCheck_result] at hready
    cases hready
  · rename_i evidence hevidence
    obtain ⟨item, hitem, hlist⟩ := hrefs evidence hevidence
    rw [hitem] at h
    obtain ⟨refs, helements, h⟩ := bind_ok.mp h
    obtain rfl := Except.ok.inj h
    refine ⟨⟨"READY", _, _, rfl, by decide, fun ref href => ?_⟩, fun _ hnone => by rw [hevidence] at hnone; cases hnone⟩
    obtain ⟨v, hv, rfl⟩ := List.mem_map.mp href
    cases hfield : item.get "evidence_refs" with
    | list xs =>
      rw [hfield] at helements hlist
      obtain rfl := Except.ok.inj helements
      obtain ⟨s, hs, rfl⟩ := Val.isNonemptyStr_iff.mp (List.all_eq_true.mp hlist v hv)
      exact hs
    | _ => rw [hfield] at hlist; cases hlist

/-! ## Reports -/

/-- What is put into a report. -/
structure ReportParts where
  projectRoot : String
  capturedAt : String
  binding : ReadinessBinding
  outcome : EvidenceOutcome
  checks : List Dict

namespace ReportParts

variable (parts : ReportParts)

def unsigned : Dict := unsignedFinalReport parts.projectRoot parts.capturedAt parts.binding parts.outcome parts.checks

def overall : String := if parts.checks.all isReadyCheck then FINAL_GATE_READY else FINAL_GATE_BLOCKED

def evidenceFingerprint : Val := parts.outcome.evidence.elim .none fun evidence => .str evidence.evidenceFingerprint

/-- What the parts of a report have to be. -/
structure Consistent : Prop where
  projectRoot : parts.projectRoot ≠ ""
  capturedAt : parts.capturedAt ≠ ""
  profileId : parts.binding.profileId ≠ ""
  profileFingerprint : isSha256 (.str parts.binding.profileFingerprint) = true
  authorityFingerprint : isSha256 (.str parts.binding.authorityFingerprint) = true
  readinessFingerprint : isSha256 (.str parts.binding.readinessFingerprint) = true
  outcome : (parts.outcome.evidence = none ∧ (parts.outcome.status = "NOT_SUPPLIED" ∨ parts.outcome.status = "INVALID")) ∨
    ∃ evidence, parts.outcome.evidence = some evidence ∧ parts.outcome.status = "VERIFIED" ∧
      isSha256 (.str evidence.evidenceFingerprint) = true
  checks : List.Forall₂ IsFinalCheck FINAL_GATE_REQUIREMENTS parts.checks
  ready : parts.checks.all isReadyCheck = true → parts.outcome.evidence ≠ none

theorem fields :
    (finalReport parts.unsigned).get "artifact_kind" = .str FINAL_GATE_KIND ∧
    (finalReport parts.unsigned).get "artifact_version" = .str FINAL_GATE_VERSION ∧
    (finalReport parts.unsigned).get "status" = .str parts.overall ∧
    (finalReport parts.unsigned).get "overall_result" = .str parts.overall ∧
    (finalReport parts.unsigned).get "project_root" = .str parts.projectRoot ∧
    (finalReport parts.unsigned).get "captured_at" = .str parts.capturedAt ∧
    (finalReport parts.unsigned).get "profile_id" = .str parts.binding.profileId ∧
    (finalReport parts.unsigned).get "profile_fingerprint" = .str parts.binding.profileFingerprint ∧
    (finalReport parts.unsigned).get "authority_fingerprint" = .str parts.binding.authorityFingerprint ∧
    (finalReport parts.unsigned).get "readiness_report_fingerprint" = .str parts.binding.readinessFingerprint ∧
    (finalReport parts.unsigned).get "external_evidence_status" = .str parts.outcome.status ∧
    (finalReport parts.unsigned).get "external_evidence_fingerprint" = parts.evidenceFingerprint ∧
    (finalReport parts.unsigned).get "required_assertions" = expectedRequirements ∧
    (finalReport parts.unsigned).get "checks" = .list (parts.checks.map Dict.toVal) ∧
    (finalReport parts.unsigned).get "report_fingerprint" = .str (sha256Json parts.unsigned.toVal) := by
  have hevidence : (finalReport parts.unsigned).get "external_evidence_fingerprint" = parts.evidenceFingerprint := by
    simp only [finalReport, unsigned, unsignedFinalReport, Dict.get_insert, Dict.ofItems, List.foldl_cons, List.foldl_nil,
      evidenceFingerprint]
    cases parts.outcome.evidence <;> simp
  rw [hevidence]
  simp [finalReport, unsigned, unsignedFinalReport, Dict.get_insert, Dict.ofItems, overall, expectedRequirements]

omit [Runtime] in
theorem keys_unsigned : parts.unsigned.keys = FINAL_SIGNED_FIELDS := by
  rw [unsigned, unsignedFinalReport, Dict.keys_ofItems (by simp)]
  rfl

theorem finalFingerprintErrors_finalReport : finalFingerprintErrors (finalReport parts.unsigned) = .ok [] := by
  have hpresent : (FINAL_SIGNED_FIELDS.find? fun key => !(finalReport parts.unsigned).contains key) = none := by
    rw [List.find?_eq_none]
    intro key hkey
    rw [finalReport, Dict.contains_iff.mpr (Dict.mem_keys_insert.mpr (.inl (parts.keys_unsigned ▸ hkey)))]
    decide
  have hsigned : (finalReport parts.unsigned).filterKeys FINAL_SIGNED_FIELDS.contains = parts.unsigned := by
    rw [finalReport, Dict.filterKeys_insert (by decide)]
    exact Dict.filterKeys_self fun k hk => List.contains_iff_mem.mpr (parts.keys_unsigned ▸ hk)
  obtain ⟨-, -, -, -, -, -, -, -, -, -, -, -, -, -, hfingerprint⟩ := parts.fields
  rw [finalFingerprintErrors, hpresent]
  dsimp only
  rw [hsigned, differs_false.mpr hfingerprint]
  rfl

theorem finalIdentityErrors_finalReport : finalIdentityErrors (finalReport parts.unsigned) = [] := by
  have hkeys : (finalReport parts.unsigned).keysAre FINAL_REPORT_FIELDS = true := by
    rw [Dict.keysAre_iff]
    intro k
    rw [finalReport, Dict.mem_keys_insert, parts.keys_unsigned, FINAL_REPORT_FIELDS, List.mem_append, List.mem_singleton]
  obtain ⟨hkind, hversion, -⟩ := parts.fields
  rw [finalIdentityErrors, hkeys, differs_false.mpr hkind, differs_false.mpr hversion]
  rfl

theorem finalStatusErrors_finalReport : finalStatusErrors (finalReport parts.unsigned) = .ok [] := by
  obtain ⟨-, -, hstatus, hoverall, -⟩ := parts.fields
  have hknown : (Val.str parts.overall).notIn [FINAL_GATE_READY, FINAL_GATE_BLOCKED] = .ok false := by
    refine Val.notIn_ok_false.mpr ⟨parts.overall, ?_, rfl⟩
    unfold overall
    split
    · exact List.mem_cons_self
    · exact List.mem_cons_of_mem _ List.mem_cons_self
  rw [finalStatusErrors, Dict.agrees, hstatus, hoverall, Val.eq_refl, hknown]
  rfl

variable {parts} (h : parts.Consistent)

include h

theorem Consistent.finalFieldErrors : finalFieldErrors (finalReport parts.unsigned) = [] := by
  obtain ⟨-, -, -, -, hroot, hcaptured, hprofile, hprofileFp, hauthority, hreadiness, -, -, -, -, hfingerprint⟩ := parts.fields
  have hsha := isSha256_sha256Json parts.unsigned.toVal
  simp [Pmiri.finalFieldErrors, hroot, hcaptured, hprofile, hprofileFp, hauthority, hreadiness, hfingerprint, hsha, h.projectRoot,
    h.capturedAt, h.profileId, h.profileFingerprint, h.authorityFingerprint, h.readinessFingerprint]

theorem Consistent.evidenceStatusErrors : evidenceStatusErrors (finalReport parts.unsigned) = .ok [] := by
  obtain ⟨-, -, -, -, -, -, -, -, -, -, hstatus, hfingerprint, -⟩ := parts.fields
  rcases h.outcome with ⟨hnone, hinvalid⟩ | ⟨evidence, hevidence, hverified, hsha⟩
  · have hnull : parts.evidenceFingerprint = .none := by
      rw [evidenceFingerprint, hnone]
      rfl
    rcases hinvalid with hinvalid | hinvalid
    · rw [Pmiri.evidenceStatusErrors, differs, hstatus, hinvalid, hfingerprint, hnull]
      rfl
    · rw [Pmiri.evidenceStatusErrors, differs, hstatus, hinvalid, hfingerprint, hnull]
      rfl
  · have htext : parts.evidenceFingerprint = .str evidence.evidenceFingerprint := by
      rw [evidenceFingerprint, hevidence]
      rfl
    rw [Pmiri.evidenceStatusErrors, differs, hstatus, hverified, hfingerprint, htext, hsha]
    rfl

omit [Runtime] h in
theorem objects : ((parts.checks.map Dict.toVal).filterMap Val.asDict) = parts.checks := by
  refine filterMap_asDict ?_
  rw [List.map_map]
  exact List.map_congr_left fun check _ => Val.asDict_toVal check

theorem Consistent.finalChecksErrors : finalChecksErrors (finalReport parts.unsigned) = .ok [] := by
  obtain ⟨-, -, -, -, -, -, -, -, -, -, -, -, -, hchecks, -⟩ := parts.fields
  have hids : parts.checks.map (fun d => d.get "check_id") = FINAL_GATE_REQUIREMENTS.map fun r => Val.str r.1 := by
    rw [← List.forall₂_eq_eq_eq, List.forall₂_map_left_iff, List.forall₂_map_right_iff]
    refine h.checks.flip.imp fun check r hcheck => ?_
    obtain ⟨result, observation, refs, rfl, -⟩ := hcheck
    exact (finalCheck_fields ..).1
  have hsame : Val.eqList (((parts.checks.map Dict.toVal).filterMap Val.asDict).map fun d => d.get "check_id")
      (FINAL_GATE_REQUIREMENTS.map fun r => .str r.1) = true := by
    rw [objects, hids]
    exact Val.eqList_refl _
  have hnone : (parts.checks.map Dict.toVal).mapM finalCheckErrors = .ok (parts.checks.map fun _ => []) := by
    rw [mapM_iff_forall₂, List.forall₂_map_left_iff, List.forall₂_map_right_iff, List.forall₂_same]
    intro check hcheck
    obtain ⟨requirement, hrequirement, hform⟩ := exists_of_forall₂ h.checks hcheck
    exact finalCheckErrors_finalCheck hrequirement hform
  rw [Pmiri.finalChecksErrors, hchecks]
  dsimp only
  rw [hsame, if_neg (by decide)]
  refine bind_ok.mpr ⟨_, hnone, congrArg Except.ok ?_⟩
  simp

omit h in
theorem checkResults_finalReport :
    checkResults (finalReport parts.unsigned) = some (parts.checks.map fun check => check.get "result") := by
  obtain ⟨-, -, -, -, -, -, -, -, -, -, -, -, -, hchecks, -⟩ := parts.fields
  rw [checkResults, hchecks]
  dsimp only
  rw [objects]

theorem Consistent.finalOverallErrors : finalOverallErrors (finalReport parts.unsigned) = [] := by
  obtain ⟨-, -, -, hoverall, -, -, -, -, -, -, hstatus, -⟩ := parts.fields
  have hall : ((parts.checks.map fun check => check.get "result").all fun v => v.eq (.str "READY")) = parts.checks.all isReadyCheck := by
    rw [List.all_map]
    refine List.all_congr rfl fun check => ?_
    rw [Function.comp_apply, isReadyCheck, differs, Bool.not_not]
  have hany : ((parts.checks.map fun check => check.get "result").any fun v => !v.eq (.str "READY")) = !parts.checks.all isReadyCheck := by
    rw [← hall, List.not_all_eq_any_not]
  cases hready : parts.checks.all isReadyCheck with
  | true =>
    have hverified : parts.outcome.status = "VERIFIED" := by
      rcases h.outcome with ⟨hnone, -⟩ | ⟨evidence, -, hverified, -⟩
      · exact absurd hnone (h.ready hready)
      · exact hverified
    rw [Pmiri.finalOverallErrors, checkResults_finalReport, Option.any_some, Option.any_some, hall, hany, hready, differs, differs, differs,
      hoverall, hstatus, hverified, overall, hready]
    rfl
  | false =>
    rw [Pmiri.finalOverallErrors, checkResults_finalReport, Option.any_some, Option.any_some, hall, hany, hready, differs, differs, differs,
      hoverall, hstatus, overall, hready]
    rfl

theorem Consistent.validate [FloatText] (fs : FileSystem) (workingDirectory : List String) :
    validateFinalAcceptanceReport fs workingDirectory (finalReport parts.unsigned) none = .ok [] := by
  obtain ⟨-, -, -, -, -, -, -, -, -, -, -, -, hrequired, -⟩ := parts.fields
  have hassertions : requiredAssertionsErrors (finalReport parts.unsigned) = [] := by
    rw [requiredAssertionsErrors, hrequired, Val.eq_refl]
    rfl
  rw [validateFinalAcceptanceReport, finalReportErrors, parts.finalStatusErrors_finalReport, h.evidenceStatusErrors, h.finalChecksErrors,
    parts.finalFingerprintErrors_finalReport, parts.finalIdentityErrors_finalReport, h.finalFieldErrors, hassertions,
    h.finalOverallErrors]
  rfl

end ReportParts

/-! ## What a report is built from -/

/-- What the report says of a readiness report is what that says. -/
structure BoundTo (readiness : Dict) (binding : ReadinessBinding) : Prop where
  profileId : readiness.get "profile_id" = .str binding.profileId
  profileFingerprint : readiness.get "profile_fingerprint" = .str binding.profileFingerprint
  authorityFingerprint : readiness.get "authority_fingerprint" = .str binding.authorityFingerprint
  readinessFingerprint : readiness.get "report_fingerprint" = .str binding.readinessFingerprint

theorem fieldErrors_nil {readiness : Dict} (h : validateReadinessReport readiness = .ok []) : fieldErrors readiness = [] := by
  obtain ⟨checks, -, h⟩ := bind_ok.mp h
  obtain ⟨external, -, h⟩ := bind_ok.mp h
  obtain ⟨fingerprint, -, h⟩ := bind_ok.mp h
  obtain ⟨overall, -, h⟩ := bind_ok.mp h
  simp only [pure, Except.pure, Except.ok.injEq, List.append_eq_nil_iff] at h
  exact h.1.1.1.1

theorem getD_text {d : Dict} {k s : String} (h : d.get k = .str s) (default : Val) : (d.getD k default).toStr = s := by
  rw [Dict.get] at h
  rw [Dict.getD]
  cases hv : d.get? k with
  | none => rw [hv] at h; cases h
  | some v =>
    rw [hv, Option.getD_some] at h
    rw [Option.getD_some, h]
    rfl

/-- An accepted readiness report has texts in the fields that are taken over, a non-empty id and fingerprints. -/
theorem binding_of_valid {readiness : Dict} (h : validateReadinessReport readiness = .ok []) :
    BoundTo readiness (readinessBinding (some readiness)) ∧ (readinessBinding (some readiness)).profileId ≠ "" ∧
      isSha256 (.str (readinessBinding (some readiness)).profileFingerprint) = true ∧
      isSha256 (.str (readinessBinding (some readiness)).authorityFingerprint) = true ∧
      isSha256 (.str (readinessBinding (some readiness)).readinessFingerprint) = true := by
  have hfields := fieldErrors_nil h
  simp only [fieldErrors, List.append_eq_nil_iff, errorIf_nil, Bool.not_eq_false', List.flatMap_eq_nil_iff, List.forall_mem_cons] at hfields
  obtain ⟨⟨⟨-, hprofile⟩, -⟩, hprofileFp, hauthority, hreport, -⟩ := hfields
  obtain ⟨profileId, hne, hprofileText⟩ := Val.isNonemptyStr_iff.mp hprofile
  obtain ⟨profileFp, hprofileFpText, hprofileHex⟩ := isSha256_str hprofileFp
  obtain ⟨authority, hauthorityText, hauthorityHex⟩ := isSha256_str hauthority
  obtain ⟨fingerprint, hreportText, hreportHex⟩ := isSha256_str hreport
  have hbinding : readinessBinding (some readiness) = ⟨profileId, profileFp, authority, fingerprint⟩ := by
    rw [readinessBinding, getD_text hprofileText, getD_text hprofileFpText, getD_text hauthorityText, getD_text hreportText]
  rw [hbinding]
  exact ⟨⟨hprofileText, hprofileFpText, hauthorityText, hreportText⟩, hne, hprofileHex, hauthorityHex, hreportHex⟩

omit [Runtime] in
theorem captured_ne_empty (request : AcceptanceRequest) : request.captured ≠ "" :=
  orNow_ne_empty _ _

omit [Runtime] in
theorem absoluteAsPosix_ne_empty (names : List String) : absoluteAsPosix ("/" :: names) ≠ "" := by
  intro h
  have := congrArg String.toList h
  rw [absoluteAsPosix, String.toList_append] at this
  cases this

variable [Cryptography] [FloatText] {fs : FileSystem} {request : AcceptanceRequest} {valid : Option Dict} {report first : Dict}
  {outcome : EvidenceOutcome} {checks : List Dict} {errors : List String}

def Built.parts (_ : Built fs request valid report first outcome checks) : ReportParts :=
  ⟨absoluteAsPosix (fs.resolve request.projectRoot), request.captured, readinessBinding valid, outcome, first :: checks⟩

/-- The report that is built is consistent, whatever was read. -/
theorem Built.consistent (h : Built fs request valid report first outcome checks)
    (hroot : ∃ names, fs.resolve request.projectRoot = "/" :: names)
    (hvalid : ∀ readiness, valid = some readiness → validateReadinessReport readiness = .ok [])
    (houtcome : finalEvidence fs (fs.resolve request.projectRoot) request errors (readinessBinding valid) = .ok outcome) :
    h.parts.Consistent := by
  have hbinding : (readinessBinding valid).profileId ≠ "" ∧ isSha256 (.str (readinessBinding valid).profileFingerprint) = true ∧
      isSha256 (.str (readinessBinding valid).authorityFingerprint) = true ∧
      isSha256 (.str (readinessBinding valid).readinessFingerprint) = true := by
    cases valid with
    | none =>
      have hsha : isSha256 (.str unavailable) = true := isSha256_sha256Json _
      have hname : "UNAVAILABLE" ≠ "" := by decide
      exact ⟨hname, hsha, hsha, hsha⟩
    | some readiness => exact (binding_of_valid (hvalid readiness rfl)).2
  have hassertions := mapM_iff_forall₂.mp h.assertions
  have hstated := finalEvidence_stated houtcome
  have hforms : List.Forall₂ (fun requirement check => IsFinalCheck (requirement.checkId, requirement.assertion) check ∧
      (isReadyCheck check = true → outcome.evidence ≠ none)) FINAL_ACCEPTANCE_ASSERTIONS checks := by
    refine ((List.forall₂_and_left _ _).mpr ⟨fun _ hrequirement => hrequirement, hassertions⟩).imp fun requirement check h => ?_
    obtain ⟨hrequirement, hcheck⟩ := h
    exact assertionCheck_isFinalCheck (fun evidence hevidence => (hstated evidence hevidence).checks requirement hrequirement) hcheck
  refine ⟨?_, captured_ne_empty request, hbinding.1, hbinding.2.1, hbinding.2.2.1, hbinding.2.2.2, ?_, ?_, ?_⟩
  · obtain ⟨names, hnames⟩ := hroot
    rw [parts, hnames]
    exact absoluteAsPosix_ne_empty names
  · exact (finalEvidence_ok houtcome).imp_right fun hverified => by
      obtain ⟨evidence, hevidence, hstatus, -, hfor⟩ := hverified
      exact ⟨evidence, hevidence, hstatus, hfor.says.fingerprint⟩
  · refine .cons (readinessCheck_isFinalCheck h.readiness) ?_
    rw [List.forall₂_map_left_iff]
    exact hforms.imp fun requirement check hcheck => hcheck.1
  · intro hready
    have hall : (first :: checks).all isReadyCheck = true := hready
    rw [List.all_cons, Bool.and_eq_true] at hall
    obtain ⟨check, rest, hcheck, -, hlist⟩ := List.forall₂_cons_left_iff.mp hforms
    exact hcheck.2 (List.all_eq_true.mp hall.2 check (hlist ▸ List.mem_cons_self))

/-- What a ready report stands for: the readiness report of the request is valid, of this project and ready with the external checks,
and the evidence was verified for it. -/
structure Accepted (fs : FileSystem) (request : AcceptanceRequest) (readiness : Dict) (evidence : VerifiedEvidence) : Prop where
  read : request.readiness fs = some readiness
  valid : validateReadinessReport readiness = .ok []
  root : belongsTo fs request.workingDirectory (fs.resolve request.projectRoot) readiness = true
  ready : readiness.get "overall_result" = .str "DEPLOYMENT_READY"
  external : ∀ checkId ∈ expectedExternalIds, ReadyOnce readiness checkId
  verified : ∃ binding, BoundTo readiness binding ∧ VerifiedFor fs (fs.resolve request.projectRoot) request binding evidence

omit [Cryptography] [FloatText] in
theorem overall_ready {parts : ReportParts} (h : (finalReport parts.unsigned).get "overall_result" = .str FINAL_GATE_READY) :
    parts.checks.all isReadyCheck = true := by
  obtain ⟨-, -, -, hoverall, -⟩ := parts.fields
  have hoverall := Val.str.inj (hoverall.symm.trans h)
  cases hready : parts.checks.all isReadyCheck with
  | true => rfl
  | false =>
    rw [ReportParts.overall, hready] at hoverall
    exact absurd hoverall (by decide)

/-- A final report is one that its validator accepts, and it is ready only if everything that it stands for holds. -/
theorem finalReport_consistent (fs : FileSystem) (request : AcceptanceRequest) (workingDirectory : List String) (report : Dict)
    (hroot : ∃ names, fs.resolve request.projectRoot = "/" :: names) (h : buildFinalAcceptanceReport fs request = .ok report) :
    validateFinalAcceptanceReport fs workingDirectory report none = .ok [] ∧
      (report.get "overall_result" = .str FINAL_GATE_READY → ∃ readiness evidence, Accepted fs request readiness evidence) := by
  obtain ⟨errors, valid, first, outcome, checks, herrors, hvalid, houtcome, hbuilt⟩ := buildFinalAcceptanceReport_ok h
  have hreport : report = finalReport hbuilt.parts.unsigned := hbuilt.report
  have hfound : ∀ readiness, valid = some readiness → request.readiness fs = some readiness ∧
      validateReadinessReport readiness = .ok [] ∧ belongsTo fs request.workingDirectory (fs.resolve request.projectRoot) readiness = true := by
    intro readiness hreadiness
    rw [hvalid] at hreadiness
    split at hreadiness
    · rename_i hempty
      obtain rfl := List.isEmpty_iff.mp hempty
      obtain ⟨readiness', hreadiness', hnone, hbelongs⟩ := readinessErrors_nil.mp herrors
      obtain rfl := Option.some.inj (hreadiness.symm.trans hreadiness')
      exact ⟨hreadiness, hnone, hbelongs⟩
    · cases hreadiness
  have hconsistent := hbuilt.consistent hroot (fun readiness hreadiness => (hfound readiness hreadiness).2.1) houtcome
  refine ⟨hreport ▸ hconsistent.validate fs workingDirectory, fun hready => ?_⟩
  have hall := overall_ready (hreport ▸ hready)
  have hfirst : first.get "result" = .str "READY" := by
    have hfirst := List.all_eq_true.mp hall first List.mem_cons_self
    rw [isReadyCheck, Bool.not_eq_true'] at hfirst
    exact differs_false.mp hfirst
  cases valid with
  | none => exact absurd hfirst (finalCheck_not_ready hbuilt.readiness)
  | some readiness =>
    obtain ⟨hreadiness, hnone, hbelongs⟩ := hfound readiness rfl
    obtain ⟨-, hdeployment, hchecks⟩ := readinessCheck_ready hbuilt.readiness hfirst
    obtain ⟨evidence, -, -, -, hverified⟩ := (finalEvidence_ok houtcome).resolve_left fun hnone => hconsistent.ready hall hnone.1
    exact ⟨readiness, evidence, hreadiness, hnone, hbelongs, hdeployment,
      fun checkId hmem => (readyOnce_iff hnone hdeployment checkId).mpr (hchecks checkId hmem), _, (binding_of_valid hnone).1, hverified⟩

/-- Where the gate takes the readiness report and the evidence is verified for it, the report that is built is ready. -/
theorem buildFinalAcceptanceReport_ready {readiness : Dict} {evidence : VerifiedEvidence} (hread : request.readiness fs = some readiness)
    (hroot : belongsTo fs request.workingDirectory (fs.resolve request.projectRoot) readiness = true)
    (hcheck : readinessCheck (some readiness) = .ok first) (hready : first.get "result" = .str "READY")
    (hverified : VerifiedFor fs (fs.resolve request.projectRoot) request (readinessBinding (some readiness)) evidence) :
    ∃ report, buildFinalAcceptanceReport fs request = .ok report ∧ report.get "overall_result" = .str FINAL_GATE_READY := by
  obtain ⟨hvalid, -⟩ := readinessCheck_ready hcheck hready
  have herrors := readinessErrors_nil.mpr ⟨readiness, rfl, hvalid, hroot⟩
  have hsays := hverified.says
  obtain ⟨evidencePath, publicKeyPath, key, hevidence, hkey, hbytes, hverify⟩ := hverified
  obtain ⟨outcome, houtcome, hsome⟩ : ∃ outcome, finalEvidence fs (fs.resolve request.projectRoot) request [] (readinessBinding (some readiness)) =
      .ok outcome ∧ outcome.evidence = some evidence := by
    simp only [finalEvidence, hevidence, hkey, hbytes, Except.bind, hverify]
    exact ⟨_, rfl, rfl⟩
  obtain ⟨checks, hchecks⟩ := assertionCheck_returns fun evidence' hevidence' => Option.some.inj (hsome.symm.trans hevidence') ▸ hsays
  have hall : (first :: checks).all isReadyCheck = true := by
    rw [List.all_cons, isReadyCheck, differs_false.mpr hready]
    refine Bool.and_eq_true_iff.mpr ⟨rfl, List.all_eq_true.mpr fun check hmem => ?_⟩
    obtain ⟨requirement, hrequirement, hassertion⟩ := (mem_mapM hchecks).mp hmem
    obtain ⟨item, hitem, -⟩ := hsays.checks requirement hrequirement
    rw [assertionCheck, hsome] at hassertion
    dsimp only at hassertion
    rw [hitem] at hassertion
    obtain ⟨refs, -, hassertion⟩ := bind_ok.mp hassertion
    obtain rfl := Except.ok.inj hassertion
    rw [isReadyCheck, differs_false.mpr (finalCheck_result ..)]
    rfl
  refine ⟨finalReport (unsignedFinalReport (absoluteAsPosix (fs.resolve request.projectRoot)) request.captured
    (readinessBinding (some readiness)) outcome (first :: checks)), ?_, ?_⟩
  · show buildWithReadiness fs request (request.readiness fs) = _
    rw [hread]
    exact bind_ok.mpr ⟨[], herrors, bind_ok.mpr ⟨first, hcheck, bind_ok.mpr ⟨outcome, houtcome, bind_ok.mpr ⟨checks, hchecks, rfl⟩⟩⟩⟩
  · simp [finalReport, unsignedFinalReport, hall, Dict.get_insert, Dict.ofItems]

end

/-! A project whose readiness report and final evidence are accepted. -/

/-- The checks that a run performs, with the digests of the artifacts in their ids. -/
def performedIds : List String := [
  "LOC-0001", "LOC-0002", "LOC-0003", "LOC-92ff8dda", "LOC-c358bb1a", "LOC-6150586e", "LOC-86894796", "LOC-0b21a733", "LOC-d6854429",
  "LOC-0008", "LOC-0009", "LOC-0010", "LOC-0011", "LOC-0012", "LOC-0013", "EXT-01", "EXT-02", "EXT-03", "EXT-04", "EXT-05", "EXT-06"]

/-- Of the final evidence for a report with these checks. -/
def acceptanceSignature : EvidenceForm.Signature where
  text := "n1OQ8IihKKHQLJ4kQmKK/8zT76ZFWz0WjEo6gklDKPqwrrsmJsL3EqroiMpJV9Mh0fAfcCCG8ImcmanhzzjfAQ=="
  decoded := ⟨#[
    0x9f, 0x53, 0x90, 0xf0, 0x88, 0xa1, 0x28, 0xa1, 0xd0, 0x2c, 0x9e, 0x24, 0x42, 0x62, 0x8a, 0xff,
    0xcc, 0xd3, 0xef, 0xa6, 0x45, 0x5b, 0x3d, 0x16, 0x8c, 0x4a, 0x3a, 0x82, 0x49, 0x43, 0x28, 0xfa,
    0xb0, 0xae, 0xbb, 0x26, 0x26, 0xc2, 0xf7, 0x12, 0xaa, 0xe8, 0x88, 0xca, 0x49, 0x57, 0xd3, 0x21,
    0xd1, 0xf0, 0x1f, 0x70, 0x20, 0x86, 0xf0, 0x89, 0x9c, 0x99, 0xa9, 0xe1, 0xcf, 0x38, 0xdf, 0x01]⟩
  decodes := by decide +kernel

def acceptedReadinessFile : RelPath := ⟨["project", "artifacts", "deployment-readiness-report.json"], by decide, by decide⟩

def acceptedEvidenceFile : RelPath := ⟨["project", "evidence.json"], by decide, by decide⟩

def acceptedKeyFile : RelPath := ⟨["project", "deployment.pub"], by decide, by decide⟩

def acceptedRequest : AcceptanceRequest where
  projectRoot := ["/", "project"]
  evidencePath := some "evidence.json"
  publicKeyPath := some "deployment.pub"
  clock := Instant.first
  workingDirectory := ["/"]

section

variable [Runtime]

def acceptedReadiness : DeploymentReadinessReport := exampleReadyReport performedIds

def acceptedForm : EvidenceForm :=
  finalAcceptanceEvidence EvidenceForm.exampleFingerprint (sha256Json acceptedReadiness.unsigned.toVal)

def acceptedEvidence : Dict := EvidenceForm.exampleEvidence acceptedForm EvidenceForm.requiredValues acceptanceSignature

def acceptedProject : FileSystem where
  entries := [
    (acceptedReadinessFile, .file (canonicalJson acceptedReadiness.structured.toVal)),
    (acceptedEvidenceFile, .file (canonicalJson acceptedEvidence.toVal)),
    (acceptedKeyFile, .file EvidenceForm.exampleKey)]
  nodup := show [acceptedReadinessFile, acceptedEvidenceFile, acceptedKeyFile].Nodup by decide
  resolve := plainResolve
  resolve_resolve := plainResolve_plainResolve
  resolve_file p _ _ := plainResolve_of_valid p.valid

theorem resolve_acceptedRoot : acceptedProject.resolve acceptedRequest.projectRoot = ["/", "project"] := plainResolve_of_valid (by decide)

/-- What is at the path of one of the files. -/
theorem contentAt_acceptedProject {p : RelPath} {content : ByteArray} (h : (p, .file content) ∈ acceptedProject.entries) (value : String)
    (hvalue : joinPath ["/", "project"] value = "/" :: p.names) :
    acceptedProject.contentAt (resolveBelow acceptedProject (acceptedProject.resolve acceptedRequest.projectRoot) value) = some content := by
  have hfile : acceptedProject.resolve ("/" :: p.names) = ["/"] ++ p.names := acceptedProject.resolve_file p content h
  rw [Disk.contentAt, resolve_acceptedRoot, resolveBelow, acceptedProject.resolve_resolve, hvalue, hfile, Disk.fileAt, Disk.below_append]
  exact acceptedProject.file?_eq_some.mpr h

theorem readiness_acceptedProject [FloatText] :
    acceptedRequest.readiness acceptedProject = some acceptedReadiness.structured.sortKeys := by
  have hcontent := contentAt_acceptedProject (p := acceptedReadinessFile) List.mem_cons_self
    "artifacts/deployment-readiness-report.json" (by decide +kernel)
  have hread := readJsonFile_written acceptedReadiness.readable_structured hcontent
  exact (congrArg (Option.bind · Val.asDict) hread).trans (Val.asDict_toVal _)

theorem belongs_acceptedReadiness : belongsTo acceptedProject acceptedRequest.workingDirectory
    (acceptedProject.resolve acceptedRequest.projectRoot) acceptedReadiness.structured.sortKeys = true := by
  obtain ⟨-, -, -, hproject, -⟩ := acceptedReadiness.structured_fields
  have hjoin : joinPath ["/"] "/project" = ["/", "project"] := by decide +kernel
  rw [belongsTo, Dict.get_sortKeys, hproject, Val.sortKeys, resolve_acceptedRoot]
  exact beq_iff_eq.mpr ((congrArg plainResolve hjoin).trans (plainResolve_of_valid (by decide)))

theorem binding_acceptedReadiness : readinessBinding (some acceptedReadiness.structured.sortKeys) =
    ⟨"profile-1", EvidenceForm.exampleFingerprint, EvidenceForm.exampleFingerprint, sha256Json acceptedReadiness.unsigned.toVal⟩ := by
  obtain ⟨-, -, -, -, hprofile, hprofileFp, hauthority, -, -, -, -, hfingerprint⟩ := acceptedReadiness.structured_fields
  have hgetD {k s : String} (w : Val) (h : acceptedReadiness.structured.get k = .str s) :
      acceptedReadiness.structured.sortKeys.getD k w = .str s := by
    have hget : acceptedReadiness.structured.sortKeys.get k = .str s := by rw [Dict.get_sortKeys, h, Val.sortKeys]
    rw [Dict.getD_of_contains w (Dict.contains_of_str hget), hget]
  rw [readinessBinding, hgetD _ hprofile, hgetD _ hprofileFp, hgetD _ hauthority, hgetD _ hfingerprint]
  rfl

/-- The key signs what was written of the evidence, with its keys in order. -/
theorem verified_acceptedProject [FloatText] :
    letI := EvidenceForm.exampleCryptography acceptedForm EvidenceForm.requiredValues acceptanceSignature
    ∃ evidence, VerifiedFor acceptedProject (acceptedProject.resolve acceptedRequest.projectRoot) acceptedRequest
      (readinessBinding (some acceptedReadiness.structured.sortKeys)) evidence := by
  let := EvidenceForm.exampleCryptography acceptedForm EvidenceForm.requiredValues acceptanceSignature
  have hform : acceptedForm.WellFormed := wellFormed_finalAcceptanceEvidence _ _
  have hfields : acceptedForm.fields.Nodup := show (finalAcceptanceEvidence "" "").fields.Nodup by decide
  have hhex : isHex 64 EvidenceForm.exampleFingerprint = true := by decide +kernel
  have hreadable : acceptedEvidence.toVal.Readable := EvidenceForm.readable_exampleEvidence (EvidenceForm.readable_requiredValues hform)
  obtain ⟨verified, hverified⟩ := EvidenceForm.verify_exampleRecord hform hfields (fun _ r _ => Val.eq_refl _) hhex
    (List.forall_mem_cons.mpr ⟨hhex, List.forall_mem_singleton.mpr (isSha256_sha256Json _)⟩) EvidenceForm.decodePublicKey_exampleKey
    acceptanceSignature.decodes (decide_eq_true ⟨rfl, rfl, rfl⟩)
  have hevidence := contentAt_acceptedProject (p := acceptedEvidenceFile) (List.mem_cons_of_mem _ List.mem_cons_self)
    "evidence.json" (by decide +kernel)
  have hkey := contentAt_acceptedProject (p := acceptedKeyFile) (List.mem_cons_of_mem _ (List.mem_cons_of_mem _ List.mem_cons_self))
    "deployment.pub" (by decide +kernel)
  have hbytes : readBytes acceptedProject (resolveBelow acceptedProject (acceptedProject.resolve acceptedRequest.projectRoot)
      "deployment.pub") = .ok EvidenceForm.exampleKey := by rw [readBytes, hkey]
  have hread := EvidenceForm.verify_sortKeys hform hreadable hverified
  rw [← readJsonFile_written hreadable hevidence] at hread
  rw [binding_acceptedReadiness]
  exact ⟨_, "evidence.json", "deployment.pub", EvidenceForm.exampleKey, rfl, rfl, hbytes, hread⟩

end

/-- The report on it is ready and accepted. -/
theorem finalReport_consistent_example :
    letI := asciiRuntime
    letI := withoutFloats
    letI := EvidenceForm.exampleCryptography acceptedForm EvidenceForm.requiredValues acceptanceSignature
    ∃ report, buildFinalAcceptanceReport acceptedProject acceptedRequest = .ok report ∧
      report.get "overall_result" = .str FINAL_GATE_READY ∧
      validateFinalAcceptanceReport acceptedProject ["/"] report none = .ok [] ∧
      ∃ readiness evidence, Accepted acceptedProject acceptedRequest readiness evidence := by
  let := asciiRuntime
  let := withoutFloats
  let := EvidenceForm.exampleCryptography acceptedForm EvidenceForm.requiredValues acceptanceSignature
  have hwf : acceptedReadiness.WellFormed := wellFormed_exampleReadyReport (by decide) (by decide) (by decide)
  obtain ⟨first, hcheck, hready⟩ := DeploymentReadinessReport.readinessCheck_structured hwf (by decide +kernel)
  rw [← readinessCheck_sortKeys acceptedReadiness.shaped_structured] at hcheck
  obtain ⟨evidence, hverified⟩ := verified_acceptedProject
  obtain ⟨report, hreport, hoverall⟩ :=
    buildFinalAcceptanceReport_ready readiness_acceptedProject belongs_acceptedReadiness hcheck hready hverified
  obtain ⟨hvalid, haccepted⟩ := finalReport_consistent acceptedProject acceptedRequest ["/"] report ⟨["project"], resolve_acceptedRoot⟩ hreport
  exact ⟨report, hreport, hoverall, hvalid, haccepted hoverall⟩

end Pmiri
