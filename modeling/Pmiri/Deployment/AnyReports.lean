import Pmiri.Deployment.Totality
import Pmiri.Python.AnyRead

/-!
# Reports of any values

The reports that the validators get, and the readiness file that the builder
reads, may hold values that cannot be written as JSON. Both validators compute
the fingerprint of every signed field before they return, so that a report with
such a value in one of them is not validated, whatever was found before. What
is not signed is compared with texts and fingerprints only.
-/

namespace Pmiri

open Py

namespace AnyObject

/-- The signed fields that the object has can be written. -/
def Signable (o : AnyObject) (fields : List String) : Prop := ∀ key ∈ fields, ∀ v, o.get? key = some v → v.Writable

/-- The signed fields that the object has go through `sha256_json`. -/
def serializeFields (o : AnyObject) (fields : List String) : Except Exc Unit :=
  forEach fields fun key => (o.get? key).elim (.ok ()) fun v => (serialized v).map fun _ => ()

theorem returns_serialized {v : AnyVal} : Returns (serialized v) ↔ v.Writable := by
  constructor
  · intro h
    obtain ⟨w, h⟩ := h
    by_contra hnot
    obtain ⟨e, he⟩ := serialized_of_not_writable hnot
    rw [he] at h
    cases h
  · exact fun h => ⟨_, serialized_of_writable h⟩

theorem returns_forEach {α : Type} {check : α → Except Exc Unit} {xs : List α} :
    Returns (forEach xs check) ↔ ∀ x ∈ xs, Returns (check x) := by
  induction xs with
  | nil => exact iff_of_true (returns_ok _) nofun
  | cons x xs ih =>
    rw [List.forall_mem_cons, ← ih]
    refine returns_bind.trans ?_
    simp only [Returns]
    exact exists_and_right

theorem serializeFields_returns {o : AnyObject} {fields : List String} : Returns (o.serializeFields fields) ↔ o.Signable fields := by
  refine returns_forEach.trans (forall₂_congr fun key _ => ?_)
  cases o.get? key with
  | none => exact iff_of_true (returns_ok _) nofun
  | some v =>
    simp only [Option.some.injEq, forall_eq']
    rw [← returns_serialized]
    exact returns_map

end AnyObject

section

variable [Runtime]

/-- `validate_readiness_report`. Which exception is raised first, where there is more than one to raise, is not kept. -/
def validateAnyReadiness (report : AnyObject) : Except Exc (List String) := do
  report.serializeFields SIGNED_FIELDS
  validateReadinessReport report.written

/-- A readiness report that the validator gets through. -/
structure AnyValidatable (report : AnyObject) : Prop where
  signable : report.Signable SIGNED_FIELDS
  validatable : Validatable report.written

omit [Runtime] in
theorem returns_seq {α : Type} {x : Except Exc Unit} {y : Except Exc α} : Returns (x >>= fun _ => y) ↔ Returns x ∧ Returns y := by
  refine returns_bind.trans ?_
  simp only [Returns]
  exact exists_and_right

theorem validateAnyReadiness_returns {report : AnyObject} : Returns (validateAnyReadiness report) ↔ AnyValidatable report := by
  rw [validateAnyReadiness, returns_seq, AnyObject.serializeFields_returns, validateReadinessReport_returns]
  exact ⟨fun h => ⟨h.1, h.2⟩, fun h => ⟨h.signable, h.validatable⟩⟩

variable [FloatText]

/-- `_read_json`: nothing where the file cannot be read or does not hold an object. -/
def readAnyObject (fs : FileSystem) (path : List String) : Except Exc (Option AnyObject) :=
  match fs.contentAt path with
  | none => .ok none
  | some content =>
    match anyLoadsBytes content with
    | .error e => if isUnreadable e then .ok none else .error e
    | .ok (.dict items) => .ok (some ⟨items⟩)
    | .ok _ => .ok none

/-- The signed fields of the readiness report that was read go through `sha256_json` when it is validated. -/
def serializeReadiness (readiness : Option AnyObject) : Except Exc Unit :=
  readiness.elim (.ok ()) fun report => report.serializeFields SIGNED_FIELDS

/-- `validate_final_acceptance_report` -/
def validateAnyFinal (fs : FileSystem) (workingDirectory : List String) (report : AnyObject) (projectRoot : Option (List String)) :
    Except Exc (List String) := do
  report.serializeFields FINAL_SIGNED_FIELDS
  let current ← projectRoot.elim (.ok none) fun path =>
    readAnyObject fs (joinPath (fs.resolve path) "artifacts/deployment-readiness-report.json")
  serializeReadiness current
  finalReportErrors fs workingDirectory report.written (fun _ => current.map AnyObject.written) projectRoot

/-- The readiness file can be read or is refused as no JSON text, and what it holds, if that is an object, is validated. -/
def ReadinessValidatable (fs : FileSystem) (path : List String) : Prop :=
  ∃ readiness, readAnyObject fs path = .ok readiness ∧ ∀ report, readiness = some report → AnyValidatable report

omit [FloatText] in
theorem readiness_iff {readiness : Option AnyObject} :
    (Returns (serializeReadiness readiness) ∧ ∀ report, readiness.map AnyObject.written = some report → Validatable report) ↔
      ∀ report, readiness = some report → AnyValidatable report := by
  cases readiness with
  | none => exact iff_of_true ⟨returns_ok _, nofun⟩ nofun
  | some report =>
    simp only [Option.map_some, Option.some.injEq, forall_eq']
    exact (and_congr_left' AnyObject.serializeFields_returns).trans ⟨fun h => ⟨h.1, h.2⟩, fun h => ⟨h.signable, h.validatable⟩⟩

theorem validateAnyFinal_returns {fs : FileSystem} {workingDirectory : List String} {report : AnyObject}
    {projectRoot : Option (List String)} :
    Returns (validateAnyFinal fs workingDirectory report projectRoot) ↔
      report.Signable FINAL_SIGNED_FIELDS ∧ FinalValidatable report.written ∧
        ∀ path, projectRoot = some path →
          ReadinessValidatable fs (joinPath (fs.resolve path) "artifacts/deployment-readiness-report.json") := by
  unfold validateAnyFinal
  rw [returns_seq, AnyObject.serializeFields_returns, returns_bind]
  refine and_congr_right fun _ => ?_
  simp only [returns_seq, finalReportErrors_returns]
  cases projectRoot with
  | none =>
    constructor
    · rintro ⟨-, -, -, hfinal, -⟩
      exact ⟨hfinal, nofun⟩
    · exact fun h => ⟨none, rfl, returns_ok _, h.1, nofun⟩
  | some path =>
    simp only [Option.some.injEq, forall_eq', ReadinessValidatable, ← readiness_iff]
    constructor
    · rintro ⟨readiness, hread, hserialized, hfinal, hvalidatable⟩
      exact ⟨hfinal, readiness, hread, hserialized, hvalidatable⟩
    · rintro ⟨hfinal, readiness, hread, hserialized, hvalidatable⟩
      exact ⟨readiness, hread, hserialized, hfinal, hvalidatable⟩

/-! ## Building a final report -/

/-- What is in the readiness file of a request. -/
def AcceptanceRequest.anyReadiness (request : AcceptanceRequest) (fs : FileSystem) : Except Exc (Option AnyObject) :=
  readAnyObject fs (resolveBelow fs (fs.resolve request.projectRoot) request.readinessPath)

variable [Cryptography]

/-- `build_final_acceptance_report` -/
def buildAnyReport (fs : FileSystem) (request : AcceptanceRequest) : Except Exc Dict := do
  let readiness ← request.anyReadiness fs
  serializeReadiness readiness
  buildWithReadiness fs request (readiness.map AnyObject.written)

/-- A request for which a final report is built. -/
def AnyBuildable (fs : FileSystem) (request : AcceptanceRequest) : Prop :=
  ∃ readiness, request.anyReadiness fs = .ok readiness ∧ (∀ report, readiness = some report → report.Signable SIGNED_FIELDS) ∧
    Buildable fs request (readiness.map AnyObject.written)

omit [Runtime] [FloatText] [Cryptography] in
theorem serializeReadiness_returns {readiness : Option AnyObject} :
    Returns (serializeReadiness readiness) ↔ ∀ report, readiness = some report → report.Signable SIGNED_FIELDS := by
  cases readiness with
  | none => exact iff_of_true (returns_ok _) nofun
  | some report =>
    simp only [Option.some.injEq, forall_eq']
    exact AnyObject.serializeFields_returns

theorem buildAnyReport_returns {fs : FileSystem} {request : AcceptanceRequest} :
    Returns (buildAnyReport fs request) ↔ AnyBuildable fs request := by
  refine returns_bind.trans (exists_congr fun readiness => and_congr_right fun _ => ?_)
  rw [returns_seq, serializeReadiness_returns, buildWithReadiness_returns]

/-- The readiness file holds no object that the validator finds no errors in. -/
def AnyMalformed (fs : FileSystem) (request : AcceptanceRequest) : Prop :=
  ∀ report, request.anyReadiness fs = .ok (some report) → validateAnyReadiness report ≠ .ok []

theorem buildAnyReport_malformed {fs : FileSystem} {request : AcceptanceRequest} {final : Dict}
    (h : buildAnyReport fs request = .ok final) (hmalformed : AnyMalformed fs request) :
    final.get "overall_result" = .str FINAL_GATE_BLOCKED := by
  obtain ⟨readiness, hread, h⟩ := bind_ok.mp h
  obtain ⟨hserialized, h⟩ := seq_ok.mp h
  refine buildWithReadiness_malformed h fun current hcurrent hnone => ?_
  obtain ⟨report, rfl, rfl⟩ := Option.map_eq_some_iff.mp hcurrent
  refine hmalformed report hread ?_
  rw [validateAnyReadiness]
  exact seq_ok.mpr ⟨hserialized, hnone⟩

/-- The validators return, and a final report is built and is blocked if the readiness file is malformed, exactly where each
value that is looked up, hashed, put into a message or fingerprinted is one that can be. -/
theorem reportValidators_total_iff (fs : FileSystem) (workingDirectory : List String) (report : AnyObject)
    (projectRoot : Option (List String)) (request : AcceptanceRequest) :
    ((∃ errors, validateAnyReadiness report = .ok errors) ↔ AnyValidatable report) ∧
    ((∃ errors, validateAnyFinal fs workingDirectory report projectRoot = .ok errors) ↔
      report.Signable FINAL_SIGNED_FIELDS ∧ FinalValidatable report.written ∧
        ∀ path, projectRoot = some path →
          ReadinessValidatable fs (joinPath (fs.resolve path) "artifacts/deployment-readiness-report.json")) ∧
    ((∃ final, buildAnyReport fs request = .ok final ∧
      (AnyMalformed fs request → final.get "overall_result" = .str FINAL_GATE_BLOCKED)) ↔ AnyBuildable fs request) := by
  refine ⟨validateAnyReadiness_returns, validateAnyFinal_returns, ?_⟩
  rw [← buildAnyReport_returns]
  exact exists_congr fun final => and_iff_left_of_imp buildAnyReport_malformed

end

/-! A readiness file that holds an empty object. -/

def emptyReadinessFile : RelPath := ⟨["readiness.json"], by decide, by decide⟩

def emptyReadinessProject : FileSystem where
  entries := [(emptyReadinessFile, .file "\x7b\x7d".toUTF8)]
  nodup := List.nodup_singleton _
  resolve := plainResolve
  resolve_resolve := plainResolve_plainResolve
  resolve_file p _ _ := plainResolve_of_valid p.valid

def emptyReadinessRequest : AcceptanceRequest :=
  { projectRoot := ["/"], readinessPath := emptyReadinessFile.asPosix, clock := Instant.first, workingDirectory := ["/"] }

section

variable [FloatText]

theorem anyReadiness_emptyReadinessProject : emptyReadinessRequest.anyReadiness emptyReadinessProject = .ok (some ⟨[]⟩) := by
  have hresolve : emptyReadinessProject.resolve (resolveBelow emptyReadinessProject ["/"] emptyReadinessFile.asPosix) =
      ["/"] ++ emptyReadinessFile.names := by
    rw [resolveBelow, RelPath.joinPath_asPosix, emptyReadinessProject.resolve_resolve]
    exact plainResolve_of_valid emptyReadinessFile.valid
  have hcontent : emptyReadinessProject.contentAt (resolveBelow emptyReadinessProject ["/"] emptyReadinessFile.asPosix) =
      some "\x7b\x7d".toUTF8 := by
    rw [Disk.contentAt, hresolve, Disk.fileAt, Disk.below_append]
    exact (emptyReadinessProject.file?_eq_some).mpr (List.mem_singleton_self _)
  have hloads : anyLoadsBytes "\x7b\x7d".toUTF8 = .ok (.dict []) := by
    rw [anyLoadsBytes, fromUTF8?_toUTF8]
    rfl
  have hroot : emptyReadinessProject.resolve ["/"] = ["/"] := plainResolve_of_valid rfl
  show readAnyObject emptyReadinessProject (resolveBelow emptyReadinessProject (emptyReadinessProject.resolve ["/"]) emptyReadinessFile.asPosix) = _
  rw [hroot, readAnyObject, hcontent]
  dsimp only
  rw [hloads]

end

/-- Of an empty object neither validator finds the errors, and where the readiness file holds one, no final report is built. -/
theorem empty_report_raises :
    letI := asciiRuntime
    letI := withoutFloats
    letI : Cryptography := ⟨fun _ _ _ => false, fun _ => .ok none⟩
    validateAnyReadiness ⟨[]⟩ = .error (.keyError "report_id") ∧
    validateAnyFinal emptyReadinessProject ["/"] ⟨[]⟩ none = .error (.keyError "artifact_kind") ∧
    emptyReadinessRequest.anyReadiness emptyReadinessProject = .ok (some ⟨[]⟩) ∧
    buildAnyReport emptyReadinessProject emptyReadinessRequest = .error (.keyError "report_id") := by
  let := asciiRuntime
  let := withoutFloats
  let : Cryptography := ⟨fun _ _ _ => false, fun _ => .ok none⟩
  refine ⟨rfl, rfl, anyReadiness_emptyReadinessProject, ?_⟩
  rw [buildAnyReport, anyReadiness_emptyReadinessProject]
  rfl

end Pmiri
