import Pmiri.Deployment.Readiness
import Pmiri.Deployment.Exactness
import Mathlib.Data.List.Dedup

/-!
# What a ready report contains

The checks of an accepted report have distinct ids, and if the report is ready
then all of them are. It does not require the ids of the checks that
`runDeploymentReadiness` performs; the final gate requires those of the
external ones.
-/

namespace Pmiri

open Py

/-! ## Without errors -/

@[simp] theorem errorAbout_nil {c : Bool} {msg : String} {v : Val} : errorAbout c msg v = .ok [] ↔ c = false := by
  cases c with
  | false => simp [errorAbout]
  | true => cases v <;> simp [errorAbout]

theorem inSet_false {v : Val} {vs : List Val} (h : v.inSet vs = .ok false) : ∀ w ∈ vs, w.eq v = false := by
  unfold Val.inSet at h
  split at h
  · exact fun w hw => by simpa using List.any_eq_false.mp (Except.ok.inj h) w hw
  · cases h

section

variable [Runtime]

/-- A check without errors has a text as its id, which was not seen before. -/
theorem checkErrors_nil {ids : List Val} {item : Dict} (h : checkErrors ids item = .ok []) :
    ∃ name, item.get "check_id" = .str name ∧ ∀ v ∈ ids, v.eq (.str name) = false := by
  obtain ⟨seen, hseen, h⟩ := bind_ok.mp h
  obtain ⟨duplicate, hduplicate, h⟩ := bind_ok.mp h
  obtain ⟨invalid, -, h⟩ := bind_ok.mp h
  obtain ⟨value, -, h⟩ := bind_ok.mp h
  obtain ⟨mismatch, -, h⟩ := bind_ok.mp h
  simp only [pure, Except.pure, Except.ok.injEq, List.append_eq_nil_iff, errorIf_nil, Bool.not_eq_false', List.all_cons,
    Bool.and_eq_true] at h
  obtain ⟨⟨⟨rfl, hid, -⟩, -⟩, -⟩ := h
  obtain rfl := errorAbout_nil.mp hduplicate
  obtain ⟨name, -, hname⟩ := Val.isNonemptyStr_iff.mp hid
  exact ⟨name, hname, hname ▸ inSet_false hseen⟩

/-- Checks without errors are objects with distinct texts as their ids. -/
theorem checksErrors_nil {ids items : List Val} (h : checksErrors ids items = .ok []) :
    ∃ ds : List Dict, items.map Val.asDict = ds.map some ∧
      (∀ d ∈ ds, ∃ name, d.get "check_id" = .str name ∧ ∀ v ∈ ids, v.eq (.str name) = false) ∧
      ds.Pairwise fun a b => a.get "check_id" ≠ b.get "check_id" := by
  induction items generalizing ids with
  | nil => exact ⟨[], rfl, nofun, .nil⟩
  | cons item items ih =>
    rw [checksErrors] at h
    split at h
    · obtain ⟨errors, -, h⟩ := bind_ok.mp h
      cases h
    · rename_i d hd
      split at h
      · obtain ⟨errors, -, h⟩ := bind_ok.mp h
        cases h
      · obtain ⟨errors, herrors, h⟩ := bind_ok.mp h
        obtain ⟨rest, hrest, h⟩ := bind_ok.mp h
        obtain ⟨rfl, rfl⟩ := List.append_eq_nil_iff.mp (Except.ok.inj h)
        obtain ⟨name, hname, hnew⟩ := checkErrors_nil herrors
        obtain ⟨ds, hds, hids, hdistinct⟩ := ih hrest
        refine ⟨d :: ds, by rw [List.map_cons, hd, hds, List.map_cons], List.forall_mem_cons.mpr ⟨⟨name, hname, hnew⟩, ?_⟩,
          List.pairwise_cons.mpr ⟨?_, hdistinct⟩⟩
        · intro b hb
          obtain ⟨name', hname', hnew'⟩ := hids b hb
          exact ⟨name', hname', fun v hv => hnew' v (List.mem_cons_of_mem _ hv)⟩
        · intro b hb hsame
          obtain ⟨name', hname', hnew'⟩ := hids b hb
          have hfalse := hnew' (d.get "check_id") List.mem_cons_self
          rw [hsame, hname', Val.str_eq_str, beq_self_eq_true] at hfalse
          cases hfalse

omit [Runtime] in
/-- A ready report has no check with another result. -/
theorem overallErrors_nil {report : Dict} (h : overallErrors report = .ok []) (hready : report.get "overall_result" = .str "DEPLOYMENT_READY")
    {results : List Val} (hresults : checkResults report = some results) : ∀ v ∈ results, v = .str "READY" := by
  obtain ⟨unknown, -, h⟩ := bind_ok.mp h
  split at h
  · cases h
  · split at h
    · cases h
    · rename_i hblocked
      rw [differs_false.mpr hready, hresults] at hblocked
      intro v hv
      have hv := List.any_eq_false.mp (Bool.not_eq_true _ ▸ hblocked) v hv
      exact Val.eq_str.mp (by simpa using hv)

theorem validateReadinessReport_nil {report : Dict} (h : validateReadinessReport report = .ok []) :
    (∃ xs, report.get "checks" = .list xs ∧ checksErrors [] xs = .ok []) ∧ overallErrors report = .ok [] := by
  obtain ⟨checks, hchecks, h⟩ := bind_ok.mp h
  obtain ⟨external, -, h⟩ := bind_ok.mp h
  obtain ⟨fingerprint, -, h⟩ := bind_ok.mp h
  obtain ⟨overall, hoverall, h⟩ := bind_ok.mp h
  simp only [pure, Except.pure, Except.ok.injEq, List.append_eq_nil_iff] at h
  obtain ⟨⟨⟨⟨-, rfl⟩, -⟩, -⟩, rfl⟩ := h
  refine ⟨?_, hoverall⟩
  unfold reportChecksErrors at hchecks
  split at hchecks
  · rename_i item items hitems
    exact ⟨item :: items, hitems, hchecks⟩
  · cases hchecks

/-! ## Checks that are there -/

/-- The checks of a report that are objects. -/
def checkObjects (report : Dict) : List Dict :=
  match report.get "checks" with
  | .list items => items.filterMap Val.asDict
  | _ => []

def HasCheck (report : Dict) (checkId : String) : Prop := ∃ d ∈ checkObjects report, d.get "check_id" = .str checkId

/-- There is one check with this id, and it is ready. -/
def ReadyOnce (report : Dict) (checkId : String) : Prop :=
  ∃ d, (checkObjects report).filter (fun d => (d.get "check_id").eq (.str checkId)) = [d] ∧ d.get "result" = .str "READY"

omit [Runtime] in
theorem filterMap_asDict {xs : List Val} {ds : List Dict} (h : xs.map Val.asDict = ds.map some) : xs.filterMap Val.asDict = ds :=
  calc xs.filterMap Val.asDict = (xs.map Val.asDict).filterMap id := by rw [List.filterMap_map]; rfl
    _ = ds.filterMap some := by rw [h, List.filterMap_map]; rfl
    _ = ds := List.filterMap_some

omit [Runtime] in
theorem filter_checkId {ds : List Dict} (hdistinct : ds.Pairwise fun a b => a.get "check_id" ≠ b.get "check_id") {d : Dict} (hd : d ∈ ds)
    {checkId : String} (hid : d.get "check_id" = .str checkId) : ds.filter (fun d => (d.get "check_id").eq (.str checkId)) = [d] := by
  induction hdistinct with
  | nil => cases hd
  | @cons a ds ha hdistinct ih =>
    rcases List.mem_cons.mp hd with rfl | hd
    · have hrest : ds.filter (fun d => (d.get "check_id").eq (.str checkId)) = [] :=
        List.filter_eq_nil_iff.mpr fun b hb heq => ha b hb (hid.trans (Val.eq_str.mp heq).symm)
      rw [List.filter_cons, if_pos (Val.eq_str.mpr hid), hrest]
    · rw [List.filter_cons, if_neg fun heq => ha d hd ((Val.eq_str.mp heq).trans hid.symm), ih hd]

/-- In an accepted report that is ready, a check is ready once if it is there. -/
theorem readyOnce_iff {report : Dict} (h : validateReadinessReport report = .ok [])
    (hready : report.get "overall_result" = .str "DEPLOYMENT_READY") (checkId : String) :
    ReadyOnce report checkId ↔ HasCheck report checkId := by
  obtain ⟨⟨xs, hxs, hchecks⟩, hoverall⟩ := validateReadinessReport_nil h
  obtain ⟨ds, hds, -, hdistinct⟩ := checksErrors_nil hchecks
  have hobjects := filterMap_asDict hds
  have hresults : checkResults report = some (ds.map fun d => d.get "result") := by
    rw [checkResults, hxs, ← hobjects]
  have hall := overallErrors_nil hoverall hready hresults
  constructor
  · rintro ⟨d, hd, -⟩
    have hmem : d ∈ (checkObjects report).filter (fun d => (d.get "check_id").eq (.str checkId)) := hd ▸ List.mem_singleton_self d
    obtain ⟨hmem, hid⟩ := List.mem_filter.mp hmem
    exact ⟨d, hmem, Val.eq_str.mp hid⟩
  · rintro ⟨d, hd, hid⟩
    rw [checkObjects, hxs] at hd
    dsimp only at hd
    rw [hobjects] at hd
    refine ⟨d, ?_, hall _ (List.mem_map_of_mem hd)⟩
    rw [checkObjects, hxs]
    dsimp only
    rw [hobjects, filter_checkId hdistinct hd hid]

/-! ## The checks that are performed -/

/-- The ids of the checks that do not need external evidence. -/
def localCheckIds : List String :=
  ["LOC-0001", "LOC-0002", "LOC-0003"] ++
  ["artifacts/s0-acceptance-report.json", "artifacts/gate-d-runtime-smoke-report.json", "artifacts/d2-runtime-candidate-report.json",
    "artifacts/r-fc-blocked-candidate-report.json", "artifacts/r-fc-local-handler-candidate-report.json",
    "artifacts/r-fc-handler-manifest.json"].map artifactCheckId ++
  ["LOC-0008", "LOC-0009", "LOC-0010", "LOC-0011", "LOC-0012", "LOC-0013"]

theorem candidateArtifact_checkId (w : Workspace) (relative kind status : String) (predicate : Dict → Except Exc (Bool × String)) :
    (candidateArtifact w relative kind status predicate).checkId = artifactCheckId relative := by
  unfold candidateArtifact
  dsimp only
  split
  · rfl
  · split
    · rfl
    · split
      · split <;> rfl
      · rfl

omit [Runtime] in
theorem databaseCheck_checkId (w : Workspace) (checkId assertion absent : String) (configured : Bool) (path : Option (List String))
    (tables : List String) : (databaseCheck w checkId assertion absent configured path tables).checkId = checkId := by
  unfold databaseCheck
  split
  · split <;> rfl
  · rfl

theorem integrityCheck_checkId (w : Workspace) : (integrityCheck w).1.checkId = "LOC-0002" := by
  unfold integrityCheck
  dsimp only
  split <;> rfl

omit [Runtime] in
theorem schemaCheck_checkId (w : Workspace) : (schemaCheck w).checkId = "LOC-0003" := by
  unfold schemaCheck
  dsimp only
  split <;> rfl

theorem localChecks_checkId (w : Workspace) (profile : Dict) : (localChecks w profile).map (·.checkId) = localCheckIds := by
  simp only [localChecks, candidateArtifacts, List.map_append, List.map_cons, List.map_nil, integrityCheck_checkId, schemaCheck_checkId,
    candidateArtifact_checkId, storageCheck, controlPlaneCheck, databaseCheck_checkId]
  rfl

theorem verifiedExternalCheck_checkId {evidence : VerifiedEvidence} {blocker : ExternalBlocker} {check : ReadinessCheck}
    (h : verifiedExternalCheck evidence blocker = .ok check) : check.checkId = blocker.checkId := by
  unfold verifiedExternalCheck at h
  split at h
  · cases h
  · obtain ⟨refs, -, h⟩ := bind_ok.mp h
    obtain rfl := Except.ok.inj h
    rfl

theorem mapM_checkId {evidence : VerifiedEvidence} {blockers : List ExternalBlocker} {checks : List ReadinessCheck}
    (h : blockers.mapM (verifiedExternalCheck evidence) = .ok checks) : checks.map (·.checkId) = blockers.map (·.checkId) := by
  induction blockers generalizing checks with
  | nil =>
    obtain rfl := Except.ok.inj h
    rfl
  | cons blocker blockers ih =>
    rw [List.mapM_cons] at h
    obtain ⟨check, hcheck, h⟩ := bind_ok.mp h
    obtain ⟨rest, hrest, h⟩ := bind_ok.mp h
    obtain rfl := Except.ok.inj h
    rw [List.map_cons, List.map_cons, verifiedExternalCheck_checkId hcheck, ih hrest]

variable [Cryptography]

theorem externalChecks_checkId {supplied : SuppliedEvidence} {profile : Dict} {authorityRef : String} {checks : List ReadinessCheck}
    (h : externalChecks supplied profile authorityRef = .ok checks) : checks.map (·.checkId) = expectedExternalIds := by
  unfold externalChecks at h
  dsimp only at h
  split at h
  · obtain rfl := Except.ok.inj h
    rfl
  · split at h
    · exact mapM_checkId h
    · split at h
      · obtain rfl := Except.ok.inj h
        rfl
      · cases h
  · obtain rfl := Except.ok.inj h
    rfl

/-- The checks of a report are the local and the external ones, whatever they find. -/
theorem runDeploymentReadiness_checkId {w : Workspace} {profile : Option Dict} {capturedAt : String} {supplied : SuppliedEvidence}
    {report : DeploymentReadinessReport} (h : runDeploymentReadiness w profile capturedAt supplied = .ok report) :
    report.checks.map (·.checkId) = localCheckIds ++ expectedExternalIds := by
  rw [runDeploymentReadiness] at h
  extract_lets activeProfile authorityRef at h
  obtain ⟨-, h⟩ := seq_ok.mp h
  obtain ⟨external, hexternal, h⟩ := bind_ok.mp h
  obtain rfl := Except.ok.inj h
  rw [List.map_append, localChecks_checkId, externalChecks_checkId hexternal]

/-- A run performs a check with this id. -/
def Performed (checkId : String) : Prop :=
  ∃ w profile capturedAt supplied report, runDeploymentReadiness w profile capturedAt supplied = .ok report ∧
    ∃ check ∈ report.checks, check.checkId = checkId

/-- A project root with nothing in it. -/
def emptyWorkspace : Workspace where
  root := "/project"
  integrity := .ok (false, "")
  schemaRegistry := false
  json _ := none
  handlerManifestValid _ := false
  preflightErrors _ := []
  sealVerdict := (false, "seal_missing")
  inside _ := none
  sqliteProbe _ _ := (false, "database file is missing")
  networkDefaultDeny := (true, "")

omit [Runtime] [Cryptography] in
theorem validateProfile_defaultProfile : validateProfile defaultProfile = .ok () := rfl

theorem performed_iff {checkId : String} : Performed checkId ↔ checkId ∈ localCheckIds ++ expectedExternalIds := by
  constructor
  · rintro ⟨w, profile, capturedAt, supplied, report, h, check, hcheck, rfl⟩
    rw [← runDeploymentReadiness_checkId h]
    exact List.mem_map_of_mem hcheck
  · intro hmem
    have hrun : ∃ report, runDeploymentReadiness emptyWorkspace none "2026-01-01T00:00:00Z" {} = .ok report :=
      ⟨_, seq_ok.mpr ⟨validateProfile_defaultProfile, rfl⟩⟩
    obtain ⟨report, h⟩ := hrun
    rw [← runDeploymentReadiness_checkId h] at hmem
    obtain ⟨check, hcheck, hid⟩ := List.mem_map.mp hmem
    exact ⟨emptyWorkspace, none, _, {}, report, h, check, hcheck, hid⟩

/-! ## The final gate -/

omit [Cryptography] in
theorem finalCheck_result (checkId assertion result observation : String) (evidenceRefs : List String) :
    (finalCheck checkId assertion result observation evidenceRefs).get "result" = .str result := by
  simp [finalCheck, Dict.get_insert, Dict.ofItems]

omit [Cryptography] in
theorem finalCheck_not_ready {checkId assertion observation : String} {evidenceRefs : List String} {check : Dict}
    (h : pure (finalCheck checkId assertion "BLOCKED" observation evidenceRefs) = Except.ok (ε := Exc) check) :
    check.get "result" ≠ .str "READY" := by
  obtain rfl := Except.ok.inj h
  rw [finalCheck_result]
  exact fun e => absurd (Val.str.inj e) (by decide)

omit [Cryptography] in
/-- The results of the external checks have a key for each check whose id starts so. -/
theorem hasCheck_of_externalResults {checks : List Dict} {checkId : String}
    (h : (Dict.ofItems ((checks.filter fun item => "EXT-".toList.isPrefixOf (item.getD "check_id" (.str "")).toStr.toList).map
      fun item => ((item.get "check_id").toStr, item.get "result"))).contains checkId = true) :
    ∃ d ∈ checks, (d.get "check_id").toStr = checkId := by
  rw [Dict.contains_iff] at h
  obtain ⟨kv, hkv, rfl⟩ := List.mem_map.mp h
  obtain ⟨d, hd, rfl⟩ := List.mem_map.mp (Dict.mem_ofItems hkv)
  exact ⟨d, (List.mem_filter.mp hd).1, rfl⟩

omit [Cryptography] in
/-- The final gate takes a report that is accepted, ready, and has the external checks. -/
theorem readinessCheck_ready {report check : Dict} (h : readinessCheck (some report) = .ok check)
    (hready : check.get "result" = .str "READY") :
    validateReadinessReport report = .ok [] ∧ report.get "overall_result" = .str "DEPLOYMENT_READY" ∧
      ∀ checkId ∈ expectedExternalIds, HasCheck report checkId := by
  obtain ⟨errors, herrors, h⟩ := bind_ok.mp h
  split at h
  · exact absurd hready (finalCheck_not_ready h)
  · obtain ⟨⟨xs, hxs, hchecks⟩, -⟩ := validateReadinessReport_nil herrors
    rw [hxs] at h
    obtain ⟨elements, helements, h⟩ := bind_ok.mp h
    obtain rfl : xs = elements := Except.ok.inj helements
    extract_lets checks externalResults extReady blocked at h
    split at h
    · rename_i hcondition
      rw [Bool.and_eq_true, Bool.not_eq_true', differs_false] at hcondition
      refine ⟨herrors, hcondition.1, fun checkId hmem => ?_⟩
      obtain ⟨ds, hds, hids, -⟩ := checksErrors_nil hchecks
      have hkey := (Dict.keysAre_iff.mp (Bool.and_eq_true_iff.mp hcondition.2).1 checkId).mpr hmem
      obtain ⟨d, hd, hid⟩ := hasCheck_of_externalResults (Dict.contains_iff.mpr hkey)
      obtain ⟨name, hname, -⟩ := hids d (filterMap_asDict hds ▸ hd)
      rw [hname, Val.toStr_str] at hid
      refine ⟨d, ?_, hid ▸ hname⟩
      rw [checkObjects, hxs]
      exact hd
    · exact absurd hready (finalCheck_not_ready h)

/-! ## Reports that are accepted -/

section

omit [Cryptography]

namespace ReadinessCheck

/-- The texts of a check are not empty. -/
structure WellFormed (check : ReadinessCheck) : Prop where
  checkId : check.checkId ≠ ""
  category : check.category ≠ ""
  assertion : check.assertion ≠ ""
  observation : check.observation ≠ ""
  evidenceRefs : ∀ ref ∈ check.evidenceRefs, ref ≠ ""

theorem structured_fields (check : ReadinessCheck) : check.structured.get "check_id" = .str check.checkId ∧
    check.structured.get "category" = .str check.category ∧ check.structured.get "assertion" = .str check.assertion ∧
    check.structured.get "result" = .str check.result.text ∧ check.structured.get "observation" = .str check.observation ∧
    check.structured.get "evidence_refs" = strList check.evidenceRefs ∧ check.structured.get "severity" = .str "HARD_BLOCK" ∧
    check.structured.get "observed_fingerprint" = .str (sha256Json check.observed.toVal) := by
  simp [structured, observed, Dict.get_insert, Dict.ofItems]

theorem keysAre_structured (check : ReadinessCheck) : check.structured.keysAre CHECK_FIELDS = true := by
  rw [Dict.keysAre_iff]
  intro k
  rw [structured, Dict.mem_keys_insert, Dict.mem_keys_insert, observed, Dict.keys_ofItems (by simp)]
  simp [CHECK_FIELDS, CHECK_OBSERVED, or_assoc]

theorem checkErrors_structured {check : ReadinessCheck} (h : check.WellFormed) {ids : List Val}
    (hids : (Val.str check.checkId).inSet ids = .ok false) : checkErrors ids check.structured = .ok [] := by
  obtain ⟨hid, hcategory, hassertion, hresult, hobservation, hrefs, hseverity, hfingerprint⟩ := check.structured_fields
  have hobserved : Dict.ofItems (CHECK_OBSERVED.map fun key => (key, check.structured.get key)) = check.observed := by
    simp only [CHECK_OBSERVED, List.map_cons, List.map_nil, hid, hcategory, hassertion, hresult, hobservation, hrefs]
    rfl
  have hknown : (check.structured.get "result").notIn ["READY", "BLOCKED"] = .ok false := by
    rw [hresult]
    cases check.result <;> rfl
  have hstrings : (check.structured.get "evidence_refs").isStrList = true := by
    rw [hrefs]
    exact isStrList_strList.mpr h.evidenceRefs
  rw [checkErrors]
  extract_lets text expected
  have htext : text = [] := by
    simp [text, hid, hcategory, hassertion, hobservation, h.checkId, h.category, h.assertion, h.observation]
  have hexpected : differs check.structured "observed_fingerprint" expected = false := by
    rw [differs_false, hfingerprint]
    exact congrArg (fun d => Val.str (sha256Json (Dict.toVal d))) hobserved.symm
  refine bind_ok.mpr ⟨false, hid ▸ hids, bind_ok.mpr ⟨[], rfl, bind_ok.mpr ⟨false, ?_, bind_ok.mpr ⟨[], rfl, bind_ok.mpr ⟨[], ?_, ?_⟩⟩⟩⟩⟩
  · rw [hknown, differs_false.mpr hseverity, hstrings]
    rfl
  · rw [hexpected]
    rfl
  · rw [htext]
    rfl

omit [Runtime] in
theorem inSet_str {name : String} {ids : List String} (h : name ∉ ids) : (Val.str name).inSet (ids.map .str) = .ok false := by
  have hhashable : (ids.map Val.str).all Val.hashable = true := by simp [Val.hashable]
  have hnone : (ids.map Val.str).any (·.eq (.str name)) = false := by
    rw [List.any_map, List.any_eq_false]
    intro id hid heq
    exact h (Val.str.inj (Val.eq_str.mp heq) ▸ hid)
  rw [Val.inSet, hhashable, hnone]
  rfl

/-- Well-formed checks with distinct ids have no errors. -/
theorem checksErrors_structured {checks : List ReadinessCheck} (hwf : ∀ check ∈ checks, check.WellFormed)
    (hnodup : (checks.map (·.checkId)).Nodup) {ids : List String} (hnew : ∀ check ∈ checks, check.checkId ∉ ids) :
    checksErrors (ids.map .str) (checks.map fun check => check.structured.toVal) = .ok [] := by
  induction checks generalizing ids with
  | nil => rfl
  | cons check checks ih =>
    rw [List.forall_mem_cons] at hwf hnew
    rw [List.map_cons, List.nodup_cons] at hnodup
    have hrest : checksErrors ((check.checkId :: ids).map .str) (checks.map fun check => check.structured.toVal) = .ok [] := by
      refine ih hwf.2 hnodup.2 fun other hother hmem => ?_
      rcases List.mem_cons.mp hmem with hsame | hmem
      · exact hnodup.1 (hsame ▸ List.mem_map_of_mem hother)
      · exact hnew.2 other hother hmem
    rw [List.map_cons, checksErrors, Val.asDict_toVal]
    dsimp only
    rw [keysAre_structured, if_neg (by decide), checkErrors_structured hwf.1 (inSet_str hnew.1), check.structured_fields.1]
    exact bind_ok.mpr ⟨[], rfl, bind_ok.mpr ⟨[], hrest, rfl⟩⟩

end ReadinessCheck

namespace DeploymentReadinessReport

/-- What the fields of a report have to be. -/
structure WellFormed (report : DeploymentReadinessReport) : Prop where
  reportId : "readiness_".toList.isPrefixOf report.reportId.toList = true
  reportType : report.reportType = REPORT_TYPE
  reportVersion : report.reportVersion = REPORT_VERSION
  projectRoot : report.projectRoot ≠ ""
  profileId : report.profileId ≠ ""
  capturedAt : report.capturedAt ≠ ""
  profileFingerprint : isHex 64 report.profileFingerprint = true
  authorityFingerprint : isHex 64 report.authorityFingerprint = true
  checks : ∀ check ∈ report.checks, check.WellFormed
  nodup : (report.checks.map (·.checkId)).Nodup
  nonempty : report.checks ≠ []
  external : report.requiredExternalEvidence = EXTERNAL_BLOCKERS
  ready : report.overallResult = "DEPLOYMENT_READY" ∧ ∀ check ∈ report.checks, check.result = .READY

theorem structured_fields (report : DeploymentReadinessReport) :
    report.structured.get "report_id" = .str report.reportId ∧ report.structured.get "report_type" = .str report.reportType ∧
    report.structured.get "report_version" = .str report.reportVersion ∧
    report.structured.get "project_root" = .str report.projectRoot ∧ report.structured.get "profile_id" = .str report.profileId ∧
    report.structured.get "profile_fingerprint" = .str report.profileFingerprint ∧
    report.structured.get "authority_fingerprint" = .str report.authorityFingerprint ∧
    report.structured.get "captured_at" = .str report.capturedAt ∧
    report.structured.get "checks" = .list (report.checks.map fun check => check.structured.toVal) ∧
    report.structured.get "required_external_evidence" = .list (report.requiredExternalEvidence.map fun b =>
      (Dict.ofItems [("check_id", .str b.checkId), ("assertion", .str b.assertion), ("reason", .str b.reason)]).toVal) ∧
    report.structured.get "overall_result" = .str report.overallResult ∧
    report.structured.get "report_fingerprint" = .str (sha256Json report.unsigned.toVal) := by
  simp [structured, unsigned, Dict.get_insert, Dict.ofItems]

theorem keys_unsigned (report : DeploymentReadinessReport) : report.unsigned.keys = SIGNED_FIELDS := by
  rw [unsigned, Dict.keys_ofItems (by simp)]
  rfl

theorem validateReadinessReport_structured {report : DeploymentReadinessReport} (h : report.WellFormed) :
    validateReadinessReport report.structured = .ok [] := by
  obtain ⟨hid, htype, hversion, hroot, hprofile, hprofileFp, hauthority, hcaptured, hchecks, hexternal, hoverall, hfp⟩ :=
    report.structured_fields
  have hkeys : report.structured.keysAre REPORT_FIELDS = true := by
    rw [Dict.keysAre_iff]
    intro k
    rw [structured, Dict.mem_keys_insert, keys_unsigned]
    rw [SIGNED_FIELDS, List.mem_filter, bne_iff_ne]
    constructor
    · rintro (⟨hmem, -⟩ | rfl)
      · exact hmem
      · decide
    · intro hmem
      by_cases hk : k = "report_fingerprint"
      · exact .inr hk
      · exact .inl ⟨hmem, hk⟩
  have hfields : fieldErrors report.structured = [] := by
    have hidentity : (differs report.structured "report_type" REPORT_TYPE || differs report.structured "report_version" REPORT_VERSION) =
        false := by
      rw [differs_false.mpr (h.reportType ▸ htype), differs_false.mpr (h.reportVersion ▸ hversion)]
      rfl
    have hsha := isSha256_sha256Json report.unsigned.toVal
    have hprofileSha : isSha256 (.str report.profileFingerprint) = true := h.profileFingerprint
    have hauthoritySha : isSha256 (.str report.authorityFingerprint) = true := h.authorityFingerprint
    simp [fieldErrors, hkeys, hidentity, hid, hroot, hprofile, hcaptured, h.projectRoot, h.profileId, h.capturedAt, hprofileFp,
      hauthority, hfp, hsha, hprofileSha, hauthoritySha]
    exact List.isPrefixOf_iff_prefix.mp h.reportId
  have hreport : reportChecksErrors report.structured = .ok [] := by
    have hno : checksErrors [] (report.checks.map fun check => check.structured.toVal) = .ok [] :=
      ReadinessCheck.checksErrors_structured h.checks h.nodup fun _ _ => List.not_mem_nil
    rw [reportChecksErrors, hchecks]
    cases hlist : report.checks with
    | nil => exact absurd hlist h.nonempty
    | cons check checks => rw [hlist] at hno; exact hno
  have hblockers : externalErrors (report.structured.get "required_external_evidence") = .ok [] := by
    rw [hexternal, h.external]
    rfl
  have hfingerprint : fingerprintErrors report.structured = .ok [] := by
    have hpresent : (SIGNED_FIELDS.find? fun key => !report.structured.contains key) = none := by
      rw [List.find?_eq_none]
      intro key hkey
      rw [structured, Dict.contains_iff.mpr (Dict.mem_keys_insert.mpr (.inl (keys_unsigned report ▸ hkey)))]
      decide
    have hsigned : report.structured.filterKeys SIGNED_FIELDS.contains = report.unsigned := by
      rw [structured, Dict.filterKeys_insert (by decide)]
      exact Dict.filterKeys_self fun k hk => List.contains_iff_mem.mpr (keys_unsigned report ▸ hk)
    rw [fingerprintErrors, hpresent]
    dsimp only
    rw [hsigned, differs_false.mpr hfp]
    rfl
  have hnone : overallErrors report.structured = .ok [] := by
    have hobjects : (report.checks.map fun check => check.structured.toVal).filterMap Val.asDict = report.checks.map (·.structured) := by
      refine filterMap_asDict ?_
      rw [List.map_map, List.map_map]
      exact List.map_congr_left fun check _ => Val.asDict_toVal _
    have hready : (report.checks.map (·.structured)).map (fun d => d.get "result") = report.checks.map fun _ => .str "READY" := by
      rw [List.map_map]
      refine List.map_congr_left fun check hcheck => ?_
      rw [Function.comp_apply, check.structured_fields.2.2.2.1, h.ready.2 check hcheck]
      rfl
    have hresults : checkResults report.structured = some (report.checks.map fun _ => .str "READY") := by
      rw [checkResults, hchecks]
      dsimp only
      rw [hobjects, hready]
    have hall : ((report.checks.map fun _ => Val.str "READY").any fun v => !v.eq (.str "READY")) = false := by
      rw [List.any_map, List.any_eq_false]
      exact fun check _ => by simp
    have hdiffers : differs report.structured "overall_result" "DEPLOYMENT_READY" = false := differs_false.mpr (h.ready.1 ▸ hoverall)
    have hblocked : differs report.structured "overall_result" "DEPLOYMENT_READINESS_BLOCKED" = true := by
      rw [differs, hoverall, h.ready.1]
      rfl
    rw [overallErrors, hdiffers, hblocked, hresults, hoverall, h.ready.1, Option.any_some, hall]
    rfl
  rw [validateReadinessReport, hfields, hreport, hblockers, hfingerprint, hnone]
  rfl

theorem checkObjects_structured (report : DeploymentReadinessReport) :
    checkObjects report.structured = report.checks.map (·.structured) := by
  rw [checkObjects, report.structured_fields.2.2.2.2.2.2.2.2.1]
  refine filterMap_asDict ?_
  rw [List.map_map, List.map_map]
  exact List.map_congr_left fun check _ => Val.asDict_toVal _

theorem hasCheck_structured {report : DeploymentReadinessReport} {checkId : String} :
    HasCheck report.structured checkId ↔ checkId ∈ report.checks.map (·.checkId) := by
  rw [HasCheck, checkObjects_structured]
  constructor
  · rintro ⟨d, hd, hid⟩
    obtain ⟨check, hcheck, rfl⟩ := List.mem_map.mp hd
    rw [check.structured_fields.1] at hid
    exact List.mem_map.mpr ⟨check, hcheck, Val.str.inj hid⟩
  · intro hmem
    obtain ⟨check, hcheck, rfl⟩ := List.mem_map.mp hmem
    exact ⟨_, List.mem_map_of_mem hcheck, check.structured_fields.1⟩

/-- The final gate takes a report whose external checks are the expected ones. -/
theorem readinessCheck_structured {report : DeploymentReadinessReport} (h : report.WellFormed)
    (hexternal : (Dict.ofItems ((report.checks.filter fun check => "EXT-".toList.isPrefixOf check.checkId.toList).map
      fun check => (check.checkId, Val.str check.result.text))).keysAre expectedExternalIds = true) :
    ∃ check, readinessCheck (some report.structured) = .ok check ∧ check.get "result" = .str "READY" := by
  have hchecks := report.structured_fields.2.2.2.2.2.2.2.2.1
  have hobjects := checkObjects_structured report
  rw [checkObjects, hchecks] at hobjects
  dsimp only at hobjects
  have hid : ∀ check : ReadinessCheck, (check.structured.getD "check_id" (.str "")).toStr = check.checkId := by
    intro check
    simp [ReadinessCheck.structured, ReadinessCheck.observed, Dict.getD, Dict.get?_insert, Dict.ofItems]
  have hresults : ((report.checks.map (·.structured)).filter fun item =>
      "EXT-".toList.isPrefixOf (item.getD "check_id" (.str "")).toStr.toList).map
        (fun item => ((item.get "check_id").toStr, item.get "result")) =
      (report.checks.filter fun check => "EXT-".toList.isPrefixOf check.checkId.toList).map
        fun check => (check.checkId, Val.str check.result.text) := by
    rw [List.filter_map, List.map_map]
    simp only [Function.comp_def, hid]
    refine List.map_congr_left fun check _ => ?_
    rw [check.structured_fields.1, check.structured_fields.2.2.2.1]
    rfl
  have hready : (Dict.ofItems ((report.checks.filter fun check => "EXT-".toList.isPrefixOf check.checkId.toList).map
      fun check => (check.checkId, Val.str check.result.text))).items.all (fun kv => kv.2.eq (.str "READY")) = true := by
    refine List.all_eq_true.mpr fun kv hkv => ?_
    obtain ⟨check, hcheck, rfl⟩ := List.mem_map.mp (Dict.mem_ofItems hkv)
    rw [h.ready.2 check (List.mem_filter.mp hcheck).1]
    rfl
  have hoverall : differs report.structured "overall_result" "DEPLOYMENT_READY" = false :=
    differs_false.mpr (h.ready.1 ▸ report.structured_fields.2.2.2.2.2.2.2.2.2.2.1)
  have hrun : readinessCheck (some report.structured) = .ok (finalCheck "FA-01" "DEPLOYMENT_READINESS" "READY"
      "deployment-readiness report is READY and all EXT-01..EXT-06 checks are READY" ["artifacts/deployment-readiness-report.json"]) := by
    refine bind_ok.mpr ⟨[], validateReadinessReport_structured h, ?_⟩
    dsimp only
    rw [hchecks]
    refine bind_ok.mpr ⟨_, rfl, ?_⟩
    rw [hobjects, hresults, hexternal, hready, hoverall]
    rfl
  exact ⟨_, hrun, finalCheck_result ..⟩

end DeploymentReadinessReport

end

/-! ## Completeness -/

/-- A report that is accepted and ready has every check that a run performs, once and ready, if it has each of them. One that
the final gate takes has them if it has the local ones. -/
theorem deploymentReady_complete_iff (report : Dict) :
    (validateReadinessReport report = .ok [] → report.get "overall_result" = .str "DEPLOYMENT_READY" →
      ((∀ checkId, Performed checkId → ReadyOnce report checkId) ↔ ∀ checkId ∈ localCheckIds ++ expectedExternalIds, HasCheck report checkId)) ∧
    (∀ check, readinessCheck (some report) = .ok check → check.get "result" = .str "READY" →
      ((∀ checkId, Performed checkId → ReadyOnce report checkId) ↔ ∀ checkId ∈ localCheckIds, HasCheck report checkId)) := by
  have hcomplete : validateReadinessReport report = .ok [] → report.get "overall_result" = .str "DEPLOYMENT_READY" →
      ((∀ checkId, Performed checkId → ReadyOnce report checkId) ↔
        ∀ checkId ∈ localCheckIds ++ expectedExternalIds, HasCheck report checkId) := by
    intro h hready
    simp only [performed_iff, readyOnce_iff h hready]
  refine ⟨hcomplete, fun check h hready => ?_⟩
  obtain ⟨hvalid, hoverall, hexternal⟩ := readinessCheck_ready h hready
  rw [hcomplete hvalid hoverall, List.forall_mem_append]
  exact and_iff_left hexternal

end

/-! A report with ready checks of the given ids. -/

def exampleReadyReport (ids : List String) : DeploymentReadinessReport where
  reportId := "readiness_1"
  reportType := REPORT_TYPE
  reportVersion := REPORT_VERSION
  projectRoot := "/project"
  profileId := "profile-1"
  profileFingerprint := EvidenceForm.exampleFingerprint
  authorityFingerprint := EvidenceForm.exampleFingerprint
  capturedAt := "2026-01-01T00:00:00Z"
  checks := ids.map fun id => ⟨id, "LOCAL_EVIDENCE", "ASSERTION", .READY, "observed", []⟩
  requiredExternalEvidence := EXTERNAL_BLOCKERS
  overallResult := "DEPLOYMENT_READY"

theorem map_exampleReadyReport (ids : List String) : (exampleReadyReport ids).checks.map (·.checkId) = ids := by
  rw [exampleReadyReport, List.map_map]
  exact List.map_id ids

theorem wellFormed_exampleReadyReport {ids : List String} (hnodup : ids.Nodup) (hnonempty : ids ≠ []) (htext : "" ∉ ids) :
    (exampleReadyReport ids).WellFormed := by
  have hstart : "readiness_".toList.isPrefixOf "readiness_1".toList = true := by decide +kernel
  have hhex : isHex 64 EvidenceForm.exampleFingerprint = true := by decide +kernel
  have htexts : "/project" ≠ "" ∧ "profile-1" ≠ "" ∧ "2026-01-01T00:00:00Z" ≠ "" := by decide
  have hcheckTexts : "LOCAL_EVIDENCE" ≠ "" ∧ "ASSERTION" ≠ "" ∧ "observed" ≠ "" := by decide
  refine ⟨hstart, rfl, rfl, htexts.1, htexts.2.1, htexts.2.2, hhex, hhex, fun check hcheck => ?_, ?_, ?_, rfl, rfl, fun check hcheck => ?_⟩
  · obtain ⟨id, hid, rfl⟩ := List.mem_map.mp hcheck
    exact ⟨fun e => htext (e ▸ hid), hcheckTexts.1, hcheckTexts.2.1, hcheckTexts.2.2, nofun⟩
  · rwa [map_exampleReadyReport]
  · exact fun h => hnonempty (List.map_eq_nil_iff.mp h)
  · obtain ⟨id, hid, rfl⟩ := List.mem_map.mp hcheck
    rfl

/-- A report with the external checks alone is accepted, ready, and taken by the final gate. -/
theorem local_checks_missing :
    letI := asciiRuntime
    letI : Cryptography := ⟨fun _ _ _ => false, fun _ => .ok none⟩
    letI report := (exampleReadyReport expectedExternalIds).structured
    validateReadinessReport report = .ok [] ∧ report.get "overall_result" = .str "DEPLOYMENT_READY" ∧
      (∃ check, readinessCheck (some report) = .ok check ∧ check.get "result" = .str "READY") ∧
      Performed "LOC-0001" ∧ ¬ ReadyOnce report "LOC-0001" := by
  let := asciiRuntime
  let : Cryptography := ⟨fun _ _ _ => false, fun _ => .ok none⟩
  have hwf : (exampleReadyReport expectedExternalIds).WellFormed := wellFormed_exampleReadyReport (by decide) (by decide) (by decide)
  have hvalid := DeploymentReadinessReport.validateReadinessReport_structured hwf
  have hready := (exampleReadyReport expectedExternalIds).structured_fields.2.2.2.2.2.2.2.2.2.2.1
  refine ⟨hvalid, hready, DeploymentReadinessReport.readinessCheck_structured hwf (by decide +kernel),
    performed_iff.mpr List.mem_cons_self, ?_⟩
  rw [readyOnce_iff hvalid hready, DeploymentReadinessReport.hasCheck_structured, map_exampleReadyReport]
  decide

/-- A report with all checks has them once and ready. -/
theorem deploymentReady_complete_iff_example :
    letI := asciiRuntime
    letI : Cryptography := ⟨fun _ _ _ => false, fun _ => .ok none⟩
    letI report := (exampleReadyReport (localCheckIds ++ expectedExternalIds).dedup).structured
    letI external := (exampleReadyReport expectedExternalIds).structured
    (validateReadinessReport report = .ok [] ∧ ∀ checkId, Performed checkId → ReadyOnce report checkId) ∧
    ((∀ checkId, Performed checkId → ReadyOnce external checkId) ↔ ∀ checkId ∈ localCheckIds, HasCheck external checkId) := by
  let := asciiRuntime
  let : Cryptography := ⟨fun _ _ _ => false, fun _ => .ok none⟩
  constructor
  · have hwf : (exampleReadyReport (localCheckIds ++ expectedExternalIds).dedup).WellFormed := by
      refine wellFormed_exampleReadyReport (List.nodup_dedup _) ?_ ?_
      · exact List.ne_nil_of_mem (List.mem_dedup.mpr (List.mem_cons_self (a := "LOC-0001")))
      · simp [localCheckIds, artifactCheckId, expectedExternalIds]
    have hvalid := DeploymentReadinessReport.validateReadinessReport_structured hwf
    have hready := (exampleReadyReport (localCheckIds ++ expectedExternalIds).dedup).structured_fields.2.2.2.2.2.2.2.2.2.2.1
    refine ⟨hvalid, ((deploymentReady_complete_iff _).1 hvalid hready).mpr fun checkId hmem => ?_⟩
    rw [DeploymentReadinessReport.hasCheck_structured, map_exampleReadyReport, List.mem_dedup]
    exact hmem
  · have hwf : (exampleReadyReport expectedExternalIds).WellFormed := wellFormed_exampleReadyReport (by decide) (by decide) (by decide)
    obtain ⟨check, hcheck, hready⟩ := DeploymentReadinessReport.readinessCheck_structured hwf (by decide +kernel)
    exact (deploymentReady_complete_iff _).2 check hcheck hready

end Pmiri
