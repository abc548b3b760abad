import Pmiri.Preflight.Record
import Pmiri.Replay.Counts

/-!
# When a preflight lets a case run

The preflight that was written for a case lets it run exactly if all that was
looked at was in order, the case was selected, and the fingerprints of the run
are those of the files that the preflight saw.
-/

namespace Pmiri

open Py

/-! ## What the verifications say -/

section

variable [Runtime]

theorem checkRunnerManifest_reason {files : MemberFiles} {directory : List String} {manifest : Dict} {reason : String}
    (h : checkRunnerManifest files directory manifest = .ok reason) : reason = "pinned_runner_package_matches" := by
  unfold checkRunnerManifest at h
  obtain ⟨-, h⟩ := seq_ok.mp h
  obtain ⟨unknown, -, h⟩ := bind_ok.mp h
  obtain ⟨-, h⟩ := seq_ok.mp h
  split at h
  · cases h
  · obtain ⟨-, h⟩ := seq_ok.mp h
    obtain ⟨-, h⟩ := seq_ok.mp h
    obtain ⟨-, h⟩ := seq_ok.mp h
    obtain ⟨-, h⟩ := seq_ok.mp h
    split at h
    · obtain ⟨-, h⟩ := seq_ok.mp h
      obtain ⟨seen, -, h⟩ := bind_ok.mp h
      obtain ⟨-, h⟩ := seq_ok.mp h
      obtain ⟨-, h⟩ := seq_ok.mp h
      exact (Except.ok.inj h).symm
    · cases h

theorem verifyRunnerPackage_reason {files : MemberFiles} {manifestPath : List String} {read : Option Val} {reason : String}
    (h : verifyRunnerPackage files manifestPath read = .ok (true, reason)) : reason = "pinned_runner_package_matches" := by
  unfold verifyRunnerPackage at h
  split at h
  · cases h
  · obtain ⟨fields, -, h⟩ := bind_ok.mp (verdictOf_true.mp h)
    exact checkRunnerManifest_reason h

theorem verifyDeclaredMembers_reason {files : MemberFiles} {baseDir : List String} {read : Option Val} {reason : String}
    (h : verifyDeclaredMembers files baseDir read = .ok (true, reason)) : reason = "all_manifest_member_hashes_match" := by
  unfold verifyDeclaredMembers at h
  split at h
  · cases h
  · obtain ⟨parts, -, h⟩ := bind_ok.mp (verdictOf_true.mp h)
    unfold checkMembers at h
    obtain ⟨declared, -, h⟩ := bind_ok.mp h
    obtain ⟨sections, -, h⟩ := bind_ok.mp h
    obtain ⟨found, -, h⟩ := bind_ok.mp h
    obtain ⟨-, h⟩ := seq_ok.mp h
    obtain ⟨-, h⟩ := seq_ok.mp h
    exact (Except.ok.inj h).symm

end

theorem selectFixture_reason {fixtureId caseId : String} {fixtures : List Val} {reason : String}
    (h : selectFixture fixtureId caseId fixtures = .ok (true, reason)) : reason = "fixture_and_case_selection_is_declared" := by
  induction fixtures with
  | nil => cases h
  | cons fixture rest ih =>
    rw [selectFixture] at h
    obtain ⟨other, -, h⟩ := bind_ok.mp h
    split at h
    · exact ih h
    · obtain ⟨fields, -, h⟩ := bind_ok.mp h
      obtain ⟨cases, -, h⟩ := bind_ok.mp h
      obtain ⟨declared, -, h⟩ := bind_ok.mp h
      split at h
      · cases h
        rfl
      · cases h

theorem verifyFixtureSelection_true {read : Option Val} {fixtureId caseId : Option String} {reason : String}
    (h : verifyFixtureSelection read fixtureId caseId = .ok (true, reason)) :
    reason = "fixture_and_case_selection_is_declared" ∧ fixtureId.getD "" ≠ "" ∧ caseId.getD "" ≠ "" := by
  unfold verifyFixtureSelection at h
  split at h
  · cases h
  · rename_i hnamed
    rw [not_or] at hnamed
    split at h
    · cases h
    · obtain ⟨fields, -, h⟩ := bind_ok.mp h
      obtain ⟨fixtures, -, h⟩ := bind_ok.mp h
      exact ⟨selectFixture_reason h, hnamed⟩

theorem verifyDomains_true {evidence : Isolation} {domains : List String} (h : (verifyDomains evidence domains).1 = true) :
    (verifyDomains evidence domains).2 = "READY_FOR_REPLAY" ∧
      ∀ domain ∈ domains, ∃ observation, evidence.lookup domain = some observation ∧ observation.result = expectedResult domain := by
  induction domains with
  | nil => exact ⟨rfl, List.forall_mem_nil _⟩
  | cons domain domains ih =>
    rw [verifyDomains] at h ⊢
    split at h
    · cases h
    · rename_i observation hobservation
      split at h
      · cases h
      · rename_i hfailed
        split at h
        · cases h
        · rename_i hexpected
          obtain ⟨hreason, hdomains⟩ := ih h
          rw [if_neg hfailed, if_neg hexpected]
          rw [Bool.not_eq_true, bne_eq_false_iff_eq] at hexpected
          exact ⟨hreason, List.forall_mem_cons.mpr ⟨⟨observation, hobservation, hexpected⟩, hdomains⟩⟩

theorem verifyAttestation_true {evidence : Isolation} (h : (verifyAttestation evidence).1 = true) :
    (verifyAttestation evidence).2 = "READY_FOR_REPLAY" ∧
      ∀ domain ∈ DOMAINS, ∃ observation, evidence.lookup domain = some observation ∧ observation.result = expectedResult domain := by
  rw [verifyAttestation] at h ⊢
  split at h
  · rename_i hdomains
    rw [if_pos hdomains]
    exact verifyDomains_true h
  · cases h

/-! ## All checks -/

theorem preflightCheck_pass {checkId otherwise reason : String} {passes : Bool} (h : otherwise ≠ "PASS") :
    ((CheckResult.check checkId passes otherwise reason).status == "PASS") = passes := by
  cases passes with
  | true => rfl
  | false => exact beq_eq_false_iff_ne.mpr h

section

variable [Runtime]

/-- What the sixteen checks are about. -/
structure AllPass (files : PreflightFiles) (call : PreflightCall) (found : PreflightFindings) : Prop where
  identity : identityMatches call.identity = true
  package : found.package.1 = true
  authority : found.authority.1 = true
  schema : (files.readJson files.evidenceSchema).isSome = true
  catalog : (files.readJson files.fixtureCatalog).isSome = true
  selection : found.selection.1 = true
  isolation : (isolationVerdict call.isolation).1 = true
  review : reviewSeparated call.operator call.independentReviewer = true

omit [Runtime] in
theorem jsonFile_fst {files : PreflightFiles} {path : List String} : (files.jsonFile path).1 = (files.readJson path).isSome := by
  rw [PreflightFiles.jsonFile]
  cases (files.readJson path).isSome <;> rfl

omit [Runtime] in
theorem preflightChecks_all {files : PreflightFiles} {call : PreflightCall} {found : PreflightFindings} :
    (preflightChecks files call found).all (fun check => check.status == "PASS") = true ↔ AllPass files call found := by
  have hunverified : "UNVERIFIED" ≠ "PASS" := by decide
  have hfail : "FAIL" ≠ "PASS" := by decide
  simp only [preflightChecks, isolationChecks, List.map_cons, List.map_nil, List.all_append, List.all_cons, List.all_nil,
    preflightCheck_pass hunverified, preflightCheck_pass hfail, Bool.and_eq_true, jsonFile_fst, and_true]
  constructor
  · intro h
    obtain ⟨⟨⟨hidentity, hpackage, -, hauthority, hschema, hcatalog, hselection⟩, hisolation, -⟩, -, hreview⟩ := h
    exact ⟨hidentity, hpackage, hauthority, hschema, hcatalog, hselection, hisolation, hreview⟩
  · intro h
    exact ⟨⟨⟨h.identity, h.package, h.package, h.authority, h.schema, h.catalog, h.selection⟩, h.isolation, h.isolation, h.isolation,
      h.isolation, h.isolation, h.isolation, h.isolation⟩, h.schema, h.review⟩

/-! ## What is written -/

omit [Runtime] in
theorem getOf_sortKeys (d : Dict) (key : String) : d.sortKeys.toVal.getOf key = .ok (d.get key).sortKeys := by
  rw [Val.getOf_ok]
  exact ⟨d.sortKeys, Val.asDict_toVal _, (Dict.get_sortKeys d key).symm⟩

theorem checkId_structured (c : CheckResult) : c.structured.get "check_id" = .str c.checkId := by
  rw [CheckResult.structured]
  by_cases h : c.status == "PASS" <;> simp only [h, if_true, Bool.false_eq_true, if_false] <;> split <;> rfl

theorem result_structured {c : CheckResult} (h : c.status = "PASS") : c.structured.get "result" = .str "READY" := by
  have hresult : (c.status == "PASS") = true := beq_iff_eq.mpr h
  simp only [CheckResult.structured, hresult, if_true, bne_self_eq_false, Bool.false_eq_true, if_false, List.append_nil]
  rfl

/-- A check that passes is recorded without an error. -/
theorem preflightCheckErrors_structured {c : CheckResult} (hstatus : c.status = "PASS") (hname : c.name ≠ "") (hreason : c.reason ≠ "") :
    preflightCheckErrors c.structured.sortKeys.toVal = .ok [] := by
  have hstructured : c.structured = .ofItems [
      ("check_id", .str c.checkId), ("severity", .str "HARD_BLOCK"), ("result", .str "READY"), ("assertion", .str c.name),
      ("observation", .str c.reason), ("evidence_refs", strList (c.evidenceRef.toList.filter (· != ""))),
      ("observed_fingerprints", strList [sha256Json (Dict.ofItems [
        ("check_id", .str c.checkId), ("observation", .str c.reason)]).toVal])] := by
    have hresult : (c.status == "PASS") = true := beq_iff_eq.mpr hstatus
    simp only [CheckResult.structured, hresult, if_true, bne_self_eq_false, Bool.false_eq_true, if_false, List.append_nil]
  have hitem (key value : String) (h : c.structured.get key = .str value) : c.structured.sortKeys.toVal.getOf key = .ok (.str value) := by
    rw [getOf_sortKeys, h, Val.sortKeys]
  have htext (key value : String) (h : c.structured.get key = .str value) (hvalue : value ≠ "") :
      (do return !(← c.structured.sortKeys.toVal.getOf key).truthy : Except Exc Bool) = .ok false := by
    rw [hitem key value h, ok_bind, show (Val.str value).truthy = true from bne_iff_ne.mpr hvalue]
    rfl
  have hassertion := htext "assertion" c.name (by rw [hstructured]; rfl) hname
  have hobservation := htext "observation" c.reason (by rw [hstructured]; rfl) hreason
  have hobserved : (c.structured.sortKeys.getD "observed_fingerprints" (.list [])).elements = .ok [.str (sha256Json (Dict.ofItems [
      ("check_id", .str c.checkId), ("observation", .str c.reason)]).toVal)] := by
    rw [Dict.getD, Dict.get?_sortKeys, hstructured]
    rfl
  refine bind_ok.mpr ⟨_, getOf_sortKeys _ _, bind_ok.mpr ⟨false, ?_, bind_ok.mpr ⟨_, hitem _ _ (result_structured hstatus), bind_ok.mpr ⟨false, rfl,
    bind_ok.mpr ⟨false, rfl, bind_ok.mpr ⟨_, dictOr_ok.mpr (Val.asDict_toVal _), bind_ok.mpr ⟨_, hobserved, ?_⟩⟩⟩⟩⟩⟩⟩
  · refine pyOr_ok_false.mpr ⟨fieldDiffers_ok_false.mpr (hitem _ _ ?_), pyOr_ok_false.mpr ⟨hassertion, hobservation⟩⟩
    rw [hstructured]
    rfl
  · rw [List.any_cons, List.any_nil, isSha256_sha256Json]
    rfl

theorem findings_ok {files : PreflightFiles} {call : PreflightCall} {found : PreflightFindings} (h : files.findings call = .ok found) :
    (found.package.1 = true → found.package.2 ≠ "") ∧ (found.authority.1 = true → found.authority.2 ≠ "") ∧
      (found.selection.1 = true → found.selection.2 ≠ "" ∧ call.selectedFixtureId.getD "" ≠ "" ∧ call.selectedCaseId.getD "" ≠ "") := by
  obtain ⟨package, hpackage, h⟩ := bind_ok.mp h
  obtain ⟨authority, hauthority, h⟩ := bind_ok.mp h
  obtain ⟨selection, hselection, h⟩ := bind_ok.mp h
  cases h
  obtain ⟨passes, reason⟩ := package
  obtain ⟨passes', reason'⟩ := authority
  obtain ⟨passes'', reason''⟩ := selection
  refine ⟨?_, ?_, ?_⟩
  · rintro rfl
    rw [verifyRunnerPackage_reason hpackage]
    exact (by decide : "pinned_runner_package_matches" ≠ "")
  · rintro rfl
    unfold PreflightFiles.authorityBundle at hauthority
    split at hauthority
    · rename_i hread
      rw [PreflightFiles.jsonFile, hread] at hauthority
      cases hauthority
    · rw [verifyDeclaredMembers_reason hauthority]
      exact (by decide : "all_manifest_member_hashes_match" ≠ "")
  · rintro rfl
    obtain ⟨hreason, hnamed⟩ := verifyFixtureSelection_true hselection
    refine ⟨?_, hnamed⟩
    rw [hreason]
    exact (by decide : "fixture_and_case_selection_is_declared" ≠ "")

/-- The names and the reasons of checks that all pass. -/
theorem AllPass.checks {files : PreflightFiles} {call : PreflightCall} {found : PreflightFindings} (h : AllPass files call found)
    (hfound : files.findings call = .ok found) :
    ∀ c ∈ preflightChecks files call found, c.status = "PASS" ∧ c.name ≠ "" ∧ c.reason ≠ "" := by
  obtain ⟨hpackage, hauthority, hselection⟩ := findings_ok hfound
  have hisolation : (isolationVerdict call.isolation).2 ≠ "" := by
    have htrue := h.isolation
    unfold isolationVerdict at htrue ⊢
    split at htrue
    · cases htrue
    · rw [(verifyAttestation_true htrue).1]
      decide
  have hparsed {path : List String} (hpath : (files.readJson path).isSome = true) : files.jsonFile path = (true, "parsed") := if_pos hpath
  have hcheck {checkId otherwise reason : String} (hname : (CheckResult.entry checkId).1 ≠ "") (hreason : reason ≠ "") :
      (CheckResult.check checkId true otherwise reason).status = "PASS" ∧ (CheckResult.check checkId true otherwise reason).name ≠ "" ∧
        (CheckResult.check checkId true otherwise reason).reason ≠ "" := ⟨rfl, hname, hreason⟩
  simp only [preflightChecks, h.identity, h.package, h.authority, h.selection, h.isolation, h.review, hparsed h.schema, hparsed h.catalog,
    isolationChecks, List.map_cons, List.map_nil, List.forall_mem_append, List.forall_mem_cons, List.not_mem_nil, false_imp_iff,
    implies_true, and_true, if_true]
  exact ⟨⟨⟨hcheck (by decide) (by decide), hcheck (by decide) (hpackage h.package), hcheck (by decide) (hpackage h.package),
      hcheck (by decide) (hauthority h.authority), hcheck (by decide) (by decide), hcheck (by decide) (by decide),
      hcheck (by decide) (hselection h.selection).1⟩,
    hcheck (by decide) hisolation, hcheck (by decide) hisolation, hcheck (by decide) hisolation, hcheck (by decide) hisolation,
    hcheck (by decide) hisolation, hcheck (by decide) hisolation, hcheck (by decide) hisolation⟩,
    hcheck (by decide) (by decide), hcheck (by decide) (by decide)⟩

/-! ## The shape of the record -/

namespace PreflightRecord

variable {r : PreflightRecord}

theorem get_written {key : String} {v : Val} (h : r.structured.get key = v) : r.written.get key = v.sortKeys := by
  rw [written, Dict.get_sortKeys, h]

theorem getD_written {key : String} {v : Val} (h : r.structured.get? key = some v) (default : Val) :
    r.written.getD key default = v.sortKeys := by
  rw [written, Dict.getD, Dict.get?_sortKeys, h]
  rfl

theorem text_written {key value : String} (h : r.structured.get key = .str value) : r.written.get key = .str value := by
  rw [get_written h, Val.sortKeys]

theorem getOf_written {name : String} {d : Dict} (h : r.structured.get? name = some d.toVal) (key : String) :
    (r.written.getD name (.dict [])).getOf key = .ok (d.get key).sortKeys := by
  rw [getD_written h, Dict.toVal_sortKeys, getOf_sortKeys]

/-- A section of the record has its fields. -/
theorem sectionErrors_written {name : String} {fields : List String} {d : Dict} (h : r.structured.get? name = some d.toVal)
    (hkeys : d.keys = fields) : sectionErrors r.written name fields = [] := by
  have hget : r.structured.get name = d.toVal := by rw [Dict.get, h, Option.getD_some]
  rw [sectionErrors, get_written hget, Dict.toVal_sortKeys, Val.asDict_toVal]
  dsimp only
  rw [List.map_eq_nil_iff, List.filter_eq_nil_iff]
  intro field hfield
  rw [Bool.not_eq_true, Bool.not_eq_false', Dict.contains_iff, Dict.mem_keys_sortKeys, hkeys]
  exact hfield

omit [Runtime] in
theorem nodup_preflightFields : preflightFields.Nodup := by decide

theorem keys_structured : r.structured.keys = preflightFields := Dict.keys_ofItems nodup_preflightFields

omit [Runtime] in
/-- A field is looked up in the list that the record is made of, which is short to evaluate. -/
theorem get?_of_lookup {items : List (String × Val)} (h : (items.map Prod.fst).Nodup) {key : String} {v : Val}
    (hv : items.lookup key = some v) : (Dict.ofItems items).get? key = some v := by
  rw [Dict.get?_ofItems h, hv]

omit [Runtime] in
theorem get_of_lookup {items : List (String × Val)} (h : (items.map Prod.fst).Nodup) {key : String} {v : Val}
    (hv : items.lookup key = some v) : (Dict.ofItems items).get key = v := by
  rw [Dict.get, get?_of_lookup h hv, Option.getD_some]

theorem get?_runner : r.structured.get? "runner" = some r.runner.toVal :=
  get?_of_lookup (by exact nodup_preflightFields) (by rfl)

theorem get?_inputs : r.structured.get? "inputs" = some r.inputs.toVal :=
  get?_of_lookup (by exact nodup_preflightFields) (by rfl)

theorem get?_environment : r.structured.get? "environment" = some r.environment.toVal :=
  get?_of_lookup (by exact nodup_preflightFields) (by rfl)

theorem get?_artifacts : r.structured.get? "artifacts" = some r.artifacts.toVal :=
  get?_of_lookup (by exact nodup_preflightFields) (by rfl)

section

variable {rootText : String} {call : PreflightCall} {checks : List CheckResult} {inputs : PreflightInputs}

theorem keys_runner : (preflightRecord rootText call checks inputs).runner.keys =
    ["runner_id", "runner_version", "source_fingerprint", "manifest_fingerprint"] :=
  Dict.keys_ofItems (show ["runner_id", "runner_version", "source_fingerprint", "manifest_fingerprint"].Nodup by decide)

theorem keys_inputs : (preflightRecord rootText call checks inputs).inputs.keys =
    ["authority_bundle_fingerprint", "schema_fingerprint", "catalog_fingerprint", "matrix_fingerprint"] :=
  Dict.keys_ofItems (show ["authority_bundle_fingerprint", "schema_fingerprint", "catalog_fingerprint", "matrix_fingerprint"].Nodup by
    decide)

theorem keys_environment : (preflightRecord rootText call checks inputs).environment.keys =
    ["environment_fingerprint", "network", "credentials", "filesystem", "determinism", "resource_limits", "teardown"] :=
  Dict.keys_ofItems (show ["environment_fingerprint", "network", "credentials", "filesystem", "determinism", "resource_limits",
    "teardown"].Nodup by decide)

theorem keys_artifacts : (preflightRecord rootText call checks inputs).artifacts.keys =
    ["output_fingerprint", "artifact_manifest_fingerprint", "isolation_attestation_ref", "privacy_record_ref", "seal_status"] :=
  Dict.keys_ofItems (show ["output_fingerprint", "artifact_manifest_fingerprint", "isolation_attestation_ref", "privacy_record_ref",
    "seal_status"].Nodup by decide)

theorem sections_written : (preflightSections.flatMap fun entry =>
    sectionErrors (preflightRecord rootText call checks inputs).written entry.1 entry.2) = [] := by
  rw [preflightSections, List.flatMap_cons, List.flatMap_cons, List.flatMap_cons, List.flatMap_cons, List.flatMap_nil,
    sectionErrors_written get?_runner keys_runner, sectionErrors_written get?_inputs keys_inputs,
    sectionErrors_written get?_environment keys_environment, sectionErrors_written get?_artifacts keys_artifacts]
  rfl

end

end PreflightRecord

theorem sortKeys_checks (checks : List CheckResult) : (Val.list (checks.map fun c => c.structured.toVal)).sortKeys =
    .list (checks.map fun c => c.structured.sortKeys.toVal) := by
  have h := Dict.sortKeys_list (checks.map CheckResult.structured)
  rwa [List.map_map, List.map_map, List.map_map] at h

/-- Checks that all pass, in their order, are recorded without an error. -/
theorem preflightChecksErrors_structured {checks : List CheckResult} (hids : checks.map CheckResult.checkId = preflightCheckIds)
    (hchecks : ∀ c ∈ checks, c.status = "PASS" ∧ c.name ≠ "" ∧ c.reason ≠ "") :
    preflightChecksErrors (Val.list (checks.map fun c => c.structured.toVal)).sortKeys = .ok [] := by
  have hlength : (checks.map fun c => c.structured.sortKeys.toVal).length = 16 := by
    rw [List.length_map, ← List.length_map CheckResult.checkId, hids]
    rfl
  have hmapM : ((checks.map fun c => c.structured.sortKeys.toVal).mapM fun item => item.getOf "check_id") =
      .ok (preflightCheckIds.map .str) := by
    rw [← hids]
    clear hids hlength
    induction checks with
    | nil => rfl
    | cons c checks ih =>
      rw [List.map_cons, List.mapM_cons, getOf_sortKeys, checkId_structured, ih fun c hc => hchecks c (List.mem_cons_of_mem _ hc)]
      rfl
  have herrors : (checks.map fun c => c.structured.sortKeys.toVal).mapM preflightCheckErrors = .ok (checks.map fun _ => []) := by
    clear hids hlength hmapM
    induction checks with
    | nil => rfl
    | cons c checks ih =>
      obtain ⟨hstatus, hname, hreason⟩ := hchecks c List.mem_cons_self
      rw [List.map_cons, List.mapM_cons, preflightCheckErrors_structured hstatus hname hreason,
        ih fun c hc => hchecks c (List.mem_cons_of_mem _ hc)]
      rfl
  rw [sortKeys_checks, preflightChecksErrors, if_pos hlength, hmapM, ok_bind, herrors, ok_bind]
  rw [Val.eqList_str.mpr rfl]
  refine congrArg Except.ok ?_
  rw [List.flatten_eq_nil_iff.mpr]
  · rfl
  · intro l hl
    obtain ⟨c, -, rfl⟩ := List.mem_map.mp hl
    rfl

omit [Runtime] in
theorem preflightChecks_ids (files : PreflightFiles) (call : PreflightCall) (found : PreflightFindings) :
    (preflightChecks files call found).map CheckResult.checkId = preflightCheckIds := rfl

omit [Runtime] in
/-- What was observed of a domain is what the record may say of it. -/
theorem environmentValue_allowed {isolation : Option Isolation} (h : (isolationVerdict isolation).1 = true) :
    ∀ entry ∈ allowedEnvironment, environmentValue isolation entry.1 ∈ entry.2 := by
  unfold isolationVerdict at h
  split at h
  · cases h
  · rename_i evidence
    obtain ⟨-, hdomains⟩ := verifyAttestation_true h
    have hvalue {domain : String} (hdomain : domain ∈ DOMAINS) : environmentValue (some evidence) domain = expectedResult domain := by
      obtain ⟨observation, hobservation, hresult⟩ := hdomains domain hdomain
      rw [environmentValue, Option.getD_some, hobservation, Option.map_some, Option.getD_some, hresult]
    have hlisted : ∀ entry ∈ allowedEnvironment, entry.1 ∈ DOMAINS ∧ expectedResult entry.1 ∈ entry.2 := by decide
    intro entry hentry
    rw [hvalue (hlisted entry hentry).1]
    exact (hlisted entry hentry).2

theorem shape_written {files : PreflightFiles} {call : PreflightCall} {found : PreflightFindings} (hfound : files.findings call = .ok found)
    (h : AllPass files call found) (inputs : PreflightInputs) (hsha : ∀ s ∈ [inputs.authority, inputs.schema, inputs.catalog, inputs.matrix],
      isSha256 (.str s) = true) :
    validatePreflightRecordShape (preflightRecord files.rootText call (preflightChecks files call found) inputs).written = .ok [] := by
  generalize hr : preflightRecord files.rootText call (preflightChecks files call found) inputs = r
  have hsection {d : Dict} {key value : String} (hd : d.get key = .str value) : d.toVal.sortKeys.getOf key = .ok (.str value) := by
    rw [Dict.toVal_sortKeys, getOf_sortKeys, hd, Val.sortKeys]
  have hstatus : r.written.get "status" = .str "RECORDED" := by
    rw [PreflightRecord.get_written (v := .str "RECORDED") (by rw [← hr]; rfl), Val.sortKeys]
  have hversion : r.written.get "spec_version" = .str "0.1" := by
    rw [PreflightRecord.get_written (v := .str "0.1") (by rw [← hr]; rfl), Val.sortKeys]
  have hchecks : r.written.get "checks" = (Val.list (r.checks.map fun c => c.structured.toVal)).sortKeys :=
    PreflightRecord.get_written (PreflightRecord.get_of_lookup (by exact PreflightRecord.nodup_preflightFields) (by rfl))
  have hbound : ∀ field ∈ ["authority_bundle_fingerprint", "schema_fingerprint", "catalog_fingerprint", "matrix_fingerprint"],
      ∃ s ∈ [inputs.authority, inputs.schema, inputs.catalog, inputs.matrix], r.inputs.get field = .str s := by
    rw [← hr]
    simp only [List.forall_mem_cons, List.not_mem_nil, false_imp_iff, implies_true, and_true]
    exact ⟨⟨_, by simp, rfl⟩, ⟨_, by simp, rfl⟩, ⟨_, by simp, rfl⟩, ⟨_, by simp, rfl⟩⟩
  have hobserved : ∀ entry ∈ allowedEnvironment, r.environment.get entry.1 = .str (environmentValue call.isolation entry.1) := by
    rw [← hr]
    simp only [allowedEnvironment, List.forall_mem_cons, List.not_mem_nil, false_imp_iff, implies_true, and_true]
    exact ⟨rfl, rfl, rfl, rfl, rfl, rfl⟩
  unfold validatePreflightRecordShape
  rw [PreflightRecord.getD_written PreflightRecord.get?_runner, PreflightRecord.getD_written PreflightRecord.get?_inputs,
    PreflightRecord.getD_written PreflightRecord.get?_environment, PreflightRecord.getD_written PreflightRecord.get?_artifacts, hchecks]
  refine bind_ok.mpr ⟨false, ?_, bind_ok.mpr ⟨false, ?_, bind_ok.mpr ⟨[], ?_, bind_ok.mpr ⟨[], ?_, bind_ok.mpr
    ⟨.str "UNSEALED", hsection (by rw [← hr]; rfl), bind_ok.mpr ⟨false, rfl, bind_ok.mpr ⟨[], ?_, ?_⟩⟩⟩⟩⟩⟩⟩
  · exact pyOr_ok_false.mpr ⟨congrArg Except.ok (differs_false.mpr hversion), Val.notIn_ok_false.mpr ⟨"RECORDED", by simp, hstatus⟩⟩
  · exact pyOr_ok_false.mpr ⟨fieldDiffers_ok_false.mpr (hsection (by rw [← hr]; rfl)),
      fieldDiffers_ok_false.mpr (hsection (by rw [← hr]; rfl))⟩
  · refine filterM_false fun field hfield => ?_
    obtain ⟨s, hs, hget⟩ := hbound field hfield
    rw [hsection hget, ok_bind, hsha s hs]
    rfl
  · refine filterM_false fun entry hentry => ?_
    rw [hsection (hobserved entry hentry), ok_bind]
    exact Val.notIn_ok_false.mpr ⟨_, environmentValue_allowed h.isolation entry hentry, rfl⟩
  · subst hr
    exact preflightChecksErrors_structured (preflightChecks_ids files call found) (h.checks hfound)
  · have hmissing : (preflightFields.filter fun key => !r.written.contains key) = [] := by
      refine List.filter_eq_nil_iff.mpr fun key hkey => ?_
      rw [Bool.not_eq_true, Bool.not_eq_false', Dict.contains_iff, PreflightRecord.written, Dict.mem_keys_sortKeys,
        PreflightRecord.keys_structured]
      exact hkey
    have hsections : (preflightSections.flatMap fun entry => sectionErrors r.written entry.1 entry.2) = [] := by
      rw [← hr]
      exact PreflightRecord.sections_written
    rw [hmissing, hsections]
    rfl

/-! ## The preflight of a case -/

/-- The names that a run has for the inputs, with their files. -/
def PreflightFiles.boundInputs (files : PreflightFiles) : List (String × List String) := [
  ("authority_bundle", files.authorityInput),
  ("evidence_schema", files.evidenceSchema),
  ("fixture_catalog", files.fixtureCatalog),
  ("preflight_matrix", files.preflightMatrix)]

/-- The fingerprints are those of the runner and of the inputs. -/
structure PreflightFiles.BoundTo (files : PreflightFiles) (fingerprints : Dict) : Prop where
  runner : ∃ content, files.pathExists files.runnerSource = true ∧ files.readBytes files.runnerSource = .ok content ∧
    fingerprints.get "runner_source" = .str (sha256Bytes content)
  inputs : ∀ entry ∈ files.boundInputs, ∃ s, files.inputFingerprint entry.2 = .ok s ∧ fingerprints.get entry.1 = .str s

theorem isSha256_inputFingerprint {files : PreflightFiles} {path : List String} {s : String} (h : files.inputFingerprint path = .ok s) :
    isSha256 (.str s) = true := by
  unfold PreflightFiles.inputFingerprint at h
  split at h
  · obtain ⟨content, -, h⟩ := bind_ok.mp h
    cases h
    exact isSha256_sha256Bytes content
  · cases h
    exact isSha256_sha256Json _

theorem sourceFingerprint_some {files : PreflightFiles} {s : String} (h : files.sourceFingerprint = .ok (some s)) :
    ∃ content, files.pathExists files.runnerSource = true ∧ files.readBytes files.runnerSource = .ok content ∧ s = sha256Bytes content := by
  unfold PreflightFiles.sourceFingerprint at h
  split at h
  · rename_i hexists
    obtain ⟨content, hcontent, h⟩ := bind_ok.mp h
    cases h
    exact ⟨content, hexists, hcontent, rfl⟩
  · cases h

/-- The fingerprints of the inputs are those of their files. -/
theorem inputs_ok {files : PreflightFiles} {inputs : PreflightInputs} (h : files.inputs = .ok inputs) :
    files.sourceFingerprint = .ok inputs.source ∧ files.inputFingerprint files.authorityInput = .ok inputs.authority ∧
      files.inputFingerprint files.evidenceSchema = .ok inputs.schema ∧ files.inputFingerprint files.fixtureCatalog = .ok inputs.catalog ∧
      files.inputFingerprint files.preflightMatrix = .ok inputs.matrix := by
  obtain ⟨source, hsource, h⟩ := bind_ok.mp h
  obtain ⟨manifest, -, h⟩ := bind_ok.mp h
  obtain ⟨authority, hauthority, h⟩ := bind_ok.mp h
  obtain ⟨schema, hschema, h⟩ := bind_ok.mp h
  obtain ⟨catalog, hcatalog, h⟩ := bind_ok.mp h
  obtain ⟨matrix, hmatrix, h⟩ := bind_ok.mp h
  cases h
  exact ⟨hsource, hauthority, hschema, hcatalog, hmatrix⟩

theorem PreflightFiles.BoundTo.iff_inputs {files : PreflightFiles} {inputs : PreflightInputs} {fingerprints : Dict} (h : files.inputs = .ok inputs) :
    files.BoundTo fingerprints ↔ (∃ s, inputs.source = some s ∧ fingerprints.get "runner_source" = .str s) ∧
      fingerprints.get "authority_bundle" = .str inputs.authority ∧ fingerprints.get "evidence_schema" = .str inputs.schema ∧
      fingerprints.get "fixture_catalog" = .str inputs.catalog ∧ fingerprints.get "preflight_matrix" = .str inputs.matrix := by
  obtain ⟨hsource, hauthority, hschema, hcatalog, hmatrix⟩ := inputs_ok h
  have hinputs : (∀ entry ∈ files.boundInputs, ∃ s, files.inputFingerprint entry.2 = .ok s ∧ fingerprints.get entry.1 = .str s) ↔
      fingerprints.get "authority_bundle" = .str inputs.authority ∧ fingerprints.get "evidence_schema" = .str inputs.schema ∧
        fingerprints.get "fixture_catalog" = .str inputs.catalog ∧ fingerprints.get "preflight_matrix" = .str inputs.matrix := by
    simp only [PreflightFiles.boundInputs, List.forall_mem_cons, List.not_mem_nil, false_imp_iff, implies_true, and_true, hauthority,
      hschema, hcatalog, hmatrix, Except.ok.injEq, exists_eq_left']
  rw [← hinputs]
  constructor
  · intro hbound
    obtain ⟨content, hexists, hcontent, hrunner⟩ := hbound.runner
    unfold PreflightFiles.sourceFingerprint at hsource
    rw [if_pos hexists, hcontent] at hsource
    exact ⟨⟨_, (Except.ok.inj hsource).symm, hrunner⟩, hbound.inputs⟩
  · intro hbound
    obtain ⟨⟨s, hs, hrunner⟩, hbound⟩ := hbound
    rw [hs] at hsource
    obtain ⟨content, hexists, hcontent, rfl⟩ := sourceFingerprint_some hsource
    exact ⟨⟨content, hexists, hcontent, hrunner⟩, hbound⟩

omit [Runtime] in
theorem selected_iff {selected : Option String} {name : String} (hname : selected.getD "" ≠ "") :
    (if selected.getD "" = "" then "NONE" else selected.getD "") = name ↔ selected = some name := by
  rw [if_neg hname]
  cases selected with
  | none => exact absurd rfl hname
  | some value => rw [Option.getD_some, Option.some.injEq]

theorem runPreflight_ok {files : PreflightFiles} {call : PreflightCall} {record : PreflightRecord} (h : runPreflight files call = .ok record) :
    ∃ found inputs, files.findings call = .ok found ∧ files.inputs = .ok inputs ∧
      record = preflightRecord files.rootText call (preflightChecks files call found) inputs := by
  obtain ⟨found, hfound, h⟩ := bind_ok.mp h
  obtain ⟨inputs, hinputs, h⟩ := bind_ok.mp h
  exact ⟨found, inputs, hfound, hinputs, (Except.ok.inj h).symm⟩

section

variable {rootText : String} {call : PreflightCall} {checks : List CheckResult} {inputs : PreflightInputs}

theorem overall_written : (preflightRecord rootText call checks inputs).written.get "overall_result" = .str "READY_FOR_REPLAY" ↔
    checks.all (fun check => check.status == "PASS") = true := by
  rw [PreflightRecord.text_written (show (preflightRecord rootText call checks inputs).structured.get "overall_result" =
    .str (if checks.all fun check => check.status == "PASS" then "READY_FOR_REPLAY" else "BLOCKED") from
      PreflightRecord.get_of_lookup (by exact PreflightRecord.nodup_preflightFields) (by rfl)), Val.str.injEq]
  cases checks.all fun check => check.status == "PASS" with
  | true => exact iff_of_true rfl rfl
  | false => exact iff_of_false (by decide) (by decide)

theorem fixture_written : (preflightRecord rootText call checks inputs).written.get "selected_fixture_id" =
    .str (if call.selectedFixtureId.getD "" = "" then "NONE" else call.selectedFixtureId.getD "") :=
  PreflightRecord.text_written (PreflightRecord.get_of_lookup (by exact PreflightRecord.nodup_preflightFields) (by rfl))

theorem case_written : (preflightRecord rootText call checks inputs).written.get "selected_case_id" =
    .str (if call.selectedCaseId.getD "" = "" then "NONE" else call.selectedCaseId.getD "") :=
  PreflightRecord.text_written (PreflightRecord.get_of_lookup (by exact PreflightRecord.nodup_preflightFields) (by rfl))

theorem checks_written : (preflightRecord rootText call checks inputs).written.get "checks" =
    .list (checks.map fun c => c.structured.sortKeys.toVal) := by
  rw [PreflightRecord.get_written (show (preflightRecord rootText call checks inputs).structured.get "checks" =
    .list (checks.map fun c => c.structured.toVal) from
      PreflightRecord.get_of_lookup (by exact PreflightRecord.nodup_preflightFields) (by rfl)), sortKeys_checks]

theorem source_written : ((preflightRecord rootText call checks inputs).written.getD "runner" (.dict [])).getOf "source_fingerprint" =
    .ok (optStr inputs.source) := by
  rw [PreflightRecord.getOf_written PreflightRecord.get?_runner, show (preflightRecord rootText call checks inputs).runner.get "source_fingerprint" =
    optStr inputs.source from rfl, Val.sortKeys_optStr]

theorem input_written {key value : String} (h : (preflightRecord rootText call checks inputs).inputs.get key = .str value) :
    ((preflightRecord rootText call checks inputs).written.getD "inputs" (.dict [])).getOf key = .ok (.str value) := by
  rw [PreflightRecord.getOf_written PreflightRecord.get?_inputs, h, Val.sortKeys]

theorem authority_written : ((preflightRecord rootText call checks inputs).written.getD "inputs" (.dict [])).getOf
    "authority_bundle_fingerprint" = .ok (.str inputs.authority) := input_written rfl

theorem schema_written : ((preflightRecord rootText call checks inputs).written.getD "inputs" (.dict [])).getOf "schema_fingerprint" =
    .ok (.str inputs.schema) := input_written rfl

theorem catalog_written : ((preflightRecord rootText call checks inputs).written.getD "inputs" (.dict [])).getOf "catalog_fingerprint" =
    .ok (.str inputs.catalog) := input_written rfl

theorem matrix_written : ((preflightRecord rootText call checks inputs).written.getD "inputs" (.dict [])).getOf "matrix_fingerprint" =
    .ok (.str inputs.matrix) := input_written rfl

end

omit [Runtime] in
/-- A record that lets a case run raises no objection. -/
theorem ReadyFor.checked {record : Dict} {fixtureId caseId : String} {fingerprints : Dict}
    (hfp : ∀ name ∈ REPLAY_FINGERPRINTS, isSha256 (fingerprints.get name) = true) (h : ReadyFor record fixtureId caseId fingerprints) :
    preflightReason record fixtureId caseId fingerprints = .ok none := by
  obtain ⟨items, hitems, -, hready⟩ := h.checks
  have hchecks : record.getD "checks" (.list []) = .list items := by
    rw [Dict.getD_of_contains _ (Dict.contains_of_get (by rw [hitems]; nofun)), hitems]
  have hsame {name : String} (hname : name ∈ REPLAY_FINGERPRINTS) : (fingerprints.get name).eq (fingerprints.get name) = true := by
    obtain ⟨s, hs, -⟩ := isSha256_str (hfp name hname)
    rw [hs]
    exact Val.eq_str.mpr rfl
  unfold preflightReason
  simp only [noObjection_iff, bind_ok, hchecks, Val.elements, Except.ok.injEq, exists_eq_left', Bool.not_eq_true,
    Bool.or_eq_false_iff, differs_false, Bool.not_eq_false']
  refine ⟨h.overall, ⟨h.fixture, h.case⟩, false, ?_, rfl, _, h.source, hsame (by decide), false, ?_, rfl, rfl⟩
  · exact anyM_ok_false.mpr fun item hitem => fieldDiffers_ok_false.mpr (hready item hitem)
  · refine anyM_ok_false.mpr fun binding hbinding => bind_ok.mpr ⟨_, h.inputs binding hbinding, ?_⟩
    rw [hsame (mem_inputBindings hbinding)]
    rfl

/-- What lets a case run is the shape of the record, and that it is ready for the case. -/
theorem casePreflight_iff {env : Surroundings} {run : CandidateRun} {fixtureId caseId path : String} {record : Dict}
    (hfp : ∀ name ∈ REPLAY_FINGERPRINTS, isSha256 (run.fingerprints.get name) = true)
    (hpath : run.preflightPaths.lookup caseId = some path) (hcontent : env.preflight caseId path = .ok record.toVal) :
    casePreflight env run fixtureId caseId = .ok none ↔
      validatePreflightRecordShape record = .ok [] ∧ ReadyFor record fixtureId caseId run.fingerprints := by
  unfold casePreflight
  rw [hpath]
  dsimp only
  rw [hcontent]
  dsimp only
  unfold preflightFileReason
  rw [Val.asDict_toVal]
  dsimp only
  constructor
  · intro h
    obtain ⟨errors, herrors, h⟩ := bind_ok.mp h
    split at h
    · rename_i hempty
      rw [List.isEmpty_iff.mp hempty] at herrors
      exact ⟨herrors, .of_checked hfp herrors h⟩
    · cases h
  · intro h
    rw [h.1, ok_bind]
    exact h.2.checked hfp

/-- The record of a preflight is ready for the case that was selected if all checks pass. -/
theorem ready_written_iff {files : PreflightFiles} {call : PreflightCall} {found : PreflightFindings} {inputs : PreflightInputs}
    {fixtureId caseId : String} {fingerprints : Dict} (hfound : files.findings call = .ok found) :
    ReadyFor (preflightRecord files.rootText call (preflightChecks files call found) inputs).written fixtureId caseId fingerprints ↔
      AllPass files call found ∧ call.selectedFixtureId = some fixtureId ∧ call.selectedCaseId = some caseId ∧
        fingerprints.get "runner_source" = optStr inputs.source ∧ fingerprints.get "authority_bundle" = .str inputs.authority ∧
        fingerprints.get "evidence_schema" = .str inputs.schema ∧ fingerprints.get "fixture_catalog" = .str inputs.catalog ∧
        fingerprints.get "preflight_matrix" = .str inputs.matrix := by
  have hbound : (∀ binding ∈ inputBindings, ((preflightRecord files.rootText call (preflightChecks files call found) inputs).written.getD
      "inputs" (.dict [])).getOf binding.1 = .ok (fingerprints.get binding.2)) ↔
      fingerprints.get "authority_bundle" = .str inputs.authority ∧ fingerprints.get "evidence_schema" = .str inputs.schema ∧
        fingerprints.get "fixture_catalog" = .str inputs.catalog ∧ fingerprints.get "preflight_matrix" = .str inputs.matrix := by
    simp only [inputBindings, List.forall_mem_cons, List.not_mem_nil, false_imp_iff, implies_true, and_true, authority_written,
      schema_written, catalog_written, matrix_written, Except.ok.injEq]
    exact and_congr eq_comm (and_congr eq_comm (and_congr eq_comm eq_comm))
  rw [← hbound]
  constructor
  · intro h
    have hpass : AllPass files call found := preflightChecks_all.mp (overall_written.mp h.overall)
    obtain ⟨-, hfixture, hcase⟩ := (findings_ok hfound).2.2 hpass.selection
    exact ⟨hpass, (selected_iff hfixture).mp (Val.str.inj (fixture_written.symm.trans h.fixture)),
      (selected_iff hcase).mp (Val.str.inj (case_written.symm.trans h.case)),
      (Except.ok.inj (source_written.symm.trans h.source)).symm, h.inputs⟩
  · intro h
    obtain ⟨hpass, hfixture, hcase, hsource, hinputs⟩ := h
    obtain ⟨-, hfixture', hcase'⟩ := (findings_ok hfound).2.2 hpass.selection
    refine ⟨overall_written.mpr (preflightChecks_all.mpr hpass), fixture_written.trans (congrArg Val.str ((selected_iff hfixture').mpr hfixture)),
      case_written.trans (congrArg Val.str ((selected_iff hcase').mpr hcase)), ⟨_, checks_written, ?_, ?_⟩,
      source_written.trans (congrArg Except.ok hsource.symm), hinputs⟩
    · rw [← preflightChecks_ids files call found, List.forall₂_map_left_iff, List.forall₂_map_right_iff, List.forall₂_same]
      intro c hc
      rw [getOf_sortKeys, checkId_structured, Val.sortKeys]
    · intro item hitem
      obtain ⟨c, hc, rfl⟩ := List.mem_map.mp hitem
      rw [getOf_sortKeys, result_structured (hpass.checks hfound c hc).1, Val.sortKeys]

/-- The preflight that was run for a case lets it run exactly if all that was looked at was in order, this case of this
fixture was selected, and the run is held to the runner and the inputs that the preflight saw. -/
theorem preflight_clears_iff {files : PreflightFiles} {call : PreflightCall} {record : PreflightRecord} {env : Surroundings}
    {run : CandidateRun} {fixtureId caseId path : String}
    (hfp : ∀ name ∈ REPLAY_FINGERPRINTS, isSha256 (run.fingerprints.get name) = true) (hrecord : runPreflight files call = .ok record)
    (hpath : run.preflightPaths.lookup caseId = some path) (hcontent : env.preflight caseId path = .ok record.written.toVal) :
    casePreflight env run fixtureId caseId = .ok none ↔
      (∃ found, files.findings call = .ok found ∧ AllPass files call found) ∧ call.selectedFixtureId = some fixtureId ∧
        call.selectedCaseId = some caseId ∧ files.BoundTo run.fingerprints := by
  obtain ⟨found, inputs, hfound, hinputs, rfl⟩ := runPreflight_ok hrecord
  rw [casePreflight_iff hfp hpath hcontent, ready_written_iff hfound, PreflightFiles.BoundTo.iff_inputs hinputs]
  constructor
  · intro h
    obtain ⟨-, hpass, hfixture, hcase, hsource, hbound⟩ := h
    obtain ⟨s, hs, -⟩ := isSha256_str (hfp "runner_source" (by decide))
    refine ⟨⟨found, hfound, hpass⟩, hfixture, hcase, ⟨s, ?_, hs⟩, hbound⟩
    rw [hs] at hsource
    cases hnone : inputs.source with
    | none => rw [hnone] at hsource; cases hsource
    | some value => rw [hnone] at hsource; rw [Val.str.inj hsource]
  · intro h
    obtain ⟨⟨found', hfound', hpass⟩, hfixture, hcase, ⟨s, hs, hsource⟩, hbound⟩ := h
    rw [hfound] at hfound'
    cases hfound'
    refine ⟨shape_written hfound hpass inputs ?_, hpass, hfixture, hcase, ?_, hbound⟩
    · obtain ⟨-, hauthority, hschema, hcatalog, hmatrix⟩ := inputs_ok hinputs
      simp only [List.forall_mem_cons, List.not_mem_nil, false_imp_iff, implies_true, and_true]
      exact ⟨isSha256_inputFingerprint hauthority, isSha256_inputFingerprint hschema, isSha256_inputFingerprint hcatalog,
        isSha256_inputFingerprint hmatrix⟩
    · rw [hsource, hs]
      rfl

/-! A project whose files are all empty, but for those that are read as JSON. -/

def examplePackageFile (path : String) (sha256 : Val) : Val := (Dict.ofItems [("path", .str path), ("sha256", sha256)]).toVal

def exampleRunner : Dict := .ofItems [
  ("runner_id", .str RUNNER_ID),
  ("runner_version", .str RUNNER_VERSION),
  ("source_fingerprint", .str (sha256Bytes .empty)),
  ("manifest_fingerprint", .str (sha256Bytes .empty)),
  ("latest_alias_allowed", .bool false),
  ("self_upgrade_allowed", .bool false),
  ("dependency_download_allowed", .bool false)]

def exampleRunnerManifest : Dict := .ofItems [
  ("manifest_format", .str "PMIRI_GC_C1_REPLAY_RUNNER"),
  ("manifest_version", .str "0.1"),
  ("status", .str "READY_FOR_REPLAY"),
  ("runner", exampleRunner.toVal),
  ("package_files", .list [
    examplePackageFile "pmiri_gc_c1_replay_runner.py" (.str (sha256Bytes .empty)),
    examplePackageFile "README.md" (.str (sha256Bytes .empty)),
    examplePackageFile "runner-manifest.json" (.str "SELF_HASH_EXCLUDED_FROM_PACKAGE_FINGERPRINT")]),
  ("clean_room_required", .bool true),
  ("network_allowed", .bool false),
  ("credentials_allowed", .bool false),
  ("production_access_allowed", .bool false),
  ("r_fc_replay_performed", .bool false),
  ("execution_authorization", .str "NOT_GRANTED")]

def exampleFixtures : Dict := .ofItems [("fixtures", .list [(Dict.ofItems [
  ("fixture_id", .str "fixture://R-FC-01"),
  ("cases", .list [(Dict.ofItems [("case_id", .str "R-FC-01-P")]).toVal])]).toVal])]

def exampleContent (name : String) : Val :=
  if name = "runner-manifest.json" then exampleRunnerManifest.toVal
  else if name = "PMIRI_GC-C1-02_REPLAY_FIXTURE_CATALOG.json" then exampleFixtures.toVal
  else .dict []

def examplePreflightFiles : PreflightFiles where
  isFile _ := true
  pathExists _ := true
  readBytes _ := .ok .empty
  openZip _ := none
  root := ["/", "project"]
  rootText := "/project"
  readJson path := some (exampleContent (path.getLast?.getD ""))

def examplePreflightCall : PreflightCall where
  identity := .ofItems [("runner_id", .str RUNNER_ID), ("runner_version", .str RUNNER_VERSION)]
  isolation := some exampleIsolation
  independentReviewer := some "reviewer://example"
  operator := some "operator://example"
  selectedFixtureId := some "fixture://R-FC-01"
  selectedCaseId := some "R-FC-01-P"
  startedAt := "2026-06-01T00:00:00Z"
  capturedAt := "2026-06-01T00:00:00Z"

theorem checkPackageFile_example {seen : List String} {path : String} (hseen : path ∉ seen) (hpath : path ∈ packagePaths)
    (hself : path ≠ "runner-manifest.json") (directory : List String) :
    checkPackageFile examplePreflightFiles.toMemberFiles directory seen (examplePackageFile path (.str (sha256Bytes .empty))) =
      .ok (path :: seen) := by
  have hinventory : (seen.contains path || !packagePaths.contains path) = false := by
    rw [Bool.or_eq_false_iff, Bool.not_eq_false', List.contains_iff_mem, ← Bool.not_eq_true, List.contains_iff_mem]
    exact ⟨hseen, hpath⟩
  have hdigest : isSha256 ((Dict.ofItems [("path", .str path), ("sha256", .str (sha256Bytes .empty))]).get "sha256") = true :=
    isSha256_sha256Bytes _
  have hsame : differs (Dict.ofItems [("path", .str path), ("sha256", .str (sha256Bytes .empty))]) "sha256" (sha256Bytes .empty) = false :=
    differs_false.mpr rfl
  unfold checkPackageFile examplePackageFile
  rw [Val.asDict_toVal]
  refine seq_ok.mpr ⟨rfl, seq_ok.mpr ⟨rejectIf_ok.mpr hinventory, ?_⟩⟩
  rw [if_neg hself]
  exact seq_ok.mpr ⟨rejectIf_ok.mpr (by rw [hdigest]; rfl), seq_ok.mpr ⟨rfl, bind_ok.mpr ⟨.empty, rfl, seq_ok.mpr ⟨rejectIf_ok.mpr hsame, rfl⟩⟩⟩⟩

theorem verifyRunnerPackage_example : verifyRunnerPackage examplePreflightFiles.toMemberFiles examplePreflightFiles.runnerManifest
    (some exampleRunnerManifest.toVal) = .ok (true, "pinned_runner_package_matches") := by
  have hdigests : (!isSha256 (exampleRunner.get "source_fingerprint") || !isSha256 (exampleRunner.get "manifest_fingerprint")) = false := by
    rw [show exampleRunner.get "source_fingerprint" = .str (sha256Bytes .empty) from rfl,
      show exampleRunner.get "manifest_fingerprint" = .str (sha256Bytes .empty) from rfl, isSha256_sha256Bytes]
    rfl
  have hfiles : [examplePackageFile "pmiri_gc_c1_replay_runner.py" (.str (sha256Bytes .empty)),
      examplePackageFile "README.md" (.str (sha256Bytes .empty)),
      examplePackageFile "runner-manifest.json" (.str "SELF_HASH_EXCLUDED_FROM_PACKAGE_FINGERPRINT")].foldlM
      (checkPackageFile examplePreflightFiles.toMemberFiles (parentPath examplePreflightFiles.runnerManifest)) [] =
      .ok ["runner-manifest.json", "README.md", "pmiri_gc_c1_replay_runner.py"] := by
    rw [List.foldlM_cons, checkPackageFile_example (by decide) (by decide) (by decide), ok_bind, List.foldlM_cons,
      checkPackageFile_example (by decide) (by decide) (by decide), ok_bind]
    rfl
  have hchecked : checkRunnerManifest examplePreflightFiles.toMemberFiles (parentPath examplePreflightFiles.runnerManifest)
      exampleRunnerManifest = .ok "pinned_runner_package_matches" := by
    unfold checkRunnerManifest
    refine seq_ok.mpr ⟨rfl, bind_ok.mpr ⟨false, rfl, seq_ok.mpr ⟨rfl, ?_⟩⟩⟩
    rw [show (exampleRunnerManifest.getD "runner" (.dict [])).asDict = some exampleRunner from Val.asDict_toVal _]
    exact seq_ok.mpr ⟨rfl, seq_ok.mpr ⟨rfl, seq_ok.mpr ⟨rejectIf_ok.mpr hdigests, seq_ok.mpr ⟨rfl, seq_ok.mpr ⟨rfl,
      bind_ok.mpr ⟨_, hfiles, seq_ok.mpr ⟨rfl, seq_ok.mpr ⟨rfl, rfl⟩⟩⟩⟩⟩⟩⟩⟩
  show verdictOf (Stop.raising (dictOr exampleRunnerManifest.toVal (.attributeError "get")) >>= fun fields => _) = _
  rw [dictOr_ok.mpr (Val.asDict_toVal _), Stop.raising, Except.mapError, ok_bind, hchecked]
  rfl

def examplePreflightFindings : PreflightFindings :=
  ⟨(true, "pinned_runner_package_matches"), (true, "all_manifest_member_hashes_match"), (true, "fixture_and_case_selection_is_declared")⟩

theorem readJson_example : examplePreflightFiles.readJson examplePreflightFiles.runnerManifest = some exampleRunnerManifest.toVal ∧
    examplePreflightFiles.readJson examplePreflightFiles.authorityManifest = some (.dict []) ∧
    examplePreflightFiles.readJson examplePreflightFiles.fixtureCatalog = some exampleFixtures.toVal :=
  have hread (path : List String) (name : String) : examplePreflightFiles.readJson (path ++ [name]) = some (exampleContent name) := by
    show some (exampleContent ((path ++ [name]).getLast?.getD "")) = _
    rw [List.getLast?_concat, Option.getD_some]
  ⟨(hread (examplePreflightFiles.docs ++ ["GC-C1", "PMIRI_GC-C1_REPLAY_RUNNER_0.1.0"]) _).trans (congrArg some (if_pos rfl)),
    (hread (examplePreflightFiles.docs ++ ["GATE-D-R2"]) _).trans (congrArg some ((if_neg (by decide)).trans (if_neg (by decide)))),
    (hread (examplePreflightFiles.docs ++ ["GC-C1"]) _).trans (congrArg some ((if_neg (by decide)).trans (if_pos rfl)))⟩

theorem findings_example : examplePreflightFiles.findings examplePreflightCall = .ok examplePreflightFindings := by
  obtain ⟨hmanifest, hauthority, hcatalog⟩ := readJson_example
  have hmembers : examplePreflightFiles.authorityBundle = .ok (true, "all_manifest_member_hashes_match") := by
    rw [PreflightFiles.authorityBundle, hauthority]
    rfl
  have hselection : verifyFixtureSelection (some exampleFixtures.toVal) (some "fixture://R-FC-01") (some "R-FC-01-P") =
      .ok (true, "fixture_and_case_selection_is_declared") := rfl
  unfold PreflightFiles.findings
  rw [hmanifest, verifyRunnerPackage_example, ok_bind, hmembers, ok_bind, hcatalog]
  exact congrArg (fun x : Except Exc (Bool × String) => x >>= fun selection => pure (PreflightFindings.mk _ _ selection)) hselection

theorem allPass_example : AllPass examplePreflightFiles examplePreflightCall examplePreflightFindings :=
  ⟨rfl, rfl, rfl, rfl, rfl, rfl, rfl, rfl⟩

def examplePreflightInputs : PreflightInputs where
  source := some (sha256Bytes .empty)
  manifest := .str (sha256Bytes .empty)
  authority := sha256Bytes .empty
  schema := sha256Bytes .empty
  catalog := sha256Bytes .empty
  matrix := sha256Bytes .empty

theorem inputs_example : examplePreflightFiles.inputs = .ok examplePreflightInputs := by
  rfl

def exampleCleared : PreflightRecord :=
  preflightRecord examplePreflightFiles.rootText examplePreflightCall
    (preflightChecks examplePreflightFiles examplePreflightCall examplePreflightFindings) examplePreflightInputs

theorem runPreflight_example : runPreflight examplePreflightFiles examplePreflightCall = .ok exampleCleared := by
  rw [runPreflight, findings_example, ok_bind, inputs_example, ok_bind]
  rfl

def exampleBound : Dict := .ofItems (REPLAY_FINGERPRINTS.map fun name => (name, .str (sha256Bytes .empty)))

theorem get_exampleBound : ∀ name ∈ REPLAY_FINGERPRINTS, exampleBound.get name = .str (sha256Bytes .empty) := by
  simp only [REPLAY_FINGERPRINTS, List.forall_mem_cons, List.not_mem_nil, false_imp_iff, implies_true, and_true]
  exact ⟨rfl, rfl, rfl, rfl, rfl, rfl, rfl⟩

theorem isSha256_exampleBound : ∀ name ∈ REPLAY_FINGERPRINTS, isSha256 (exampleBound.get name) = true := by
  intro name hname
  rw [get_exampleBound name hname]
  exact isSha256_sha256Bytes _

theorem boundTo_example : examplePreflightFiles.BoundTo exampleBound :=
  (PreflightFiles.BoundTo.iff_inputs inputs_example).mpr ⟨⟨_, rfl, rfl⟩, rfl, rfl, rfl, rfl⟩

def exampleWrittenSurroundings : Surroundings :=
  { exampleSurroundings (.ok .none) with preflight := fun _ _ => .ok exampleCleared.written.toVal }

def exampleBoundRun : CandidateRun := { exampleRun with fingerprints := exampleBound }

end

theorem preflight_clears_example :
    letI := asciiRuntime
    casePreflight exampleWrittenSurroundings exampleBoundRun "fixture://R-FC-01" "R-FC-01-P" = .ok none :=
  (@preflight_clears_iff asciiRuntime _ examplePreflightCall _ _ _ "fixture://R-FC-01" "R-FC-01-P" "preflight.json"
    (@isSha256_exampleBound asciiRuntime) (@runPreflight_example asciiRuntime) rfl rfl).mpr
    ⟨⟨_, @findings_example asciiRuntime, @allPass_example asciiRuntime⟩, rfl, rfl, @boundTo_example asciiRuntime⟩

end Pmiri
