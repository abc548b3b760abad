import Pmiri.Models
import Pmiri.Keyed
import Pmiri.Python.Pathlib

/-!
# Source records

`models.py` and `store.py`: what both stores keep of a registered source, how
it is identified and ordered, which of its versions is current, and what a
registration makes of its arguments.
-/

namespace Pmiri

open Py

/-- What identifies and orders a version of a source. -/
structure SourceVersion where
  sourceId : String
  versionId : String
  projectId : String
  sourceName : String
  contentFingerprint : String
  captureTime : String

/-- A record as an index holds it, without the content. -/
structure SourceEntry extends SourceVersion where
  metadata : Dict := .empty

structure SourceRecord extends SourceEntry where
  content : String

namespace SourceVersion

/-- `(item["source_id"], item["version_id"])` -/
def versionKey (v : SourceVersion) : String × String := (v.sourceId, v.versionId)

/-- `(item["project_id"], item["source_id"], item["version_id"])` -/
def orderKey (v : SourceVersion) : List String := [v.projectId, v.sourceId, v.versionId]

/-- `(item["capture_time"], item["version_id"])` -/
def currencyKey (v : SourceVersion) : List String := [v.captureTime, v.versionId]

/-- The version belongs to the project, if one is asked for. -/
def inProject (project : Option String) (v : SourceVersion) : Bool :=
  match project with
  | none => true
  | some p => v.projectId == p

end SourceVersion

namespace SourceEntry

/-- `public_dict` -/
def publicDict (e : SourceEntry) : Dict :=
  .ofItems [
    ("source_id", .str e.sourceId),
    ("version_id", .str e.versionId),
    ("project_id", .str e.projectId),
    ("source_name", .str e.sourceName),
    ("content_fingerprint", .str e.contentFingerprint),
    ("capture_time", .str e.captureTime),
    ("metadata", e.metadata.sorted.toVal)]

/-- The entry after it has been written as JSON text and read back. -/
def stored (e : SourceEntry) : SourceEntry := { e with metadata := e.metadata.sortKeys }

@[simp] theorem stored_toSourceVersion (e : SourceEntry) : e.stored.toSourceVersion = e.toSourceVersion := rfl

@[simp] theorem stored_stored (e : SourceEntry) : e.stored.stored = e.stored := by
  simp only [stored, Dict.sortKeys_sortKeys]

end SourceEntry

/-! ## Selection -/

section Selection

variable {α β : Type} (version : α → SourceVersion)

def ofProject (project : Option String) (xs : List α) : List α := xs.filter fun x => (version x).inProject project

/-- `latest.values()`: the newest version of each source. -/
def latestVersions (xs : List α) : List α :=
  Keyed.newest (fun x => (version x).sourceId) (fun x => (version x).currencyKey) xs

/-- `xs.sort(key=lambda item: (item["project_id"], item["source_id"], item["version_id"]))` -/
def sortVersions (xs : List α) : List α := Keyed.sortBy (fun x => (version x).orderKey) xs

/-- What `list_sources` lists of `xs`. -/
def selectVersions (project : Option String) (includeHistory : Bool) (xs : List α) : List α :=
  let found := ofProject version project xs
  sortVersions version (if includeHistory then found else latestVersions version found)

/-- No two items are of one version of one source. -/
def Distinct (xs : List α) : Prop := (xs.map fun x => (version x).versionKey).Nodup

variable {version}

theorem Distinct.inj {xs : List α} (h : Distinct version xs) {a b : α} (ha : a ∈ xs) (hb : b ∈ xs)
    (e : (version a).versionKey = (version b).versionKey) : a = b :=
  List.inj_on_of_nodup_map h ha hb e

theorem Distinct.orderKey_inj {xs : List α} (h : Distinct version xs) :
    ∀ a ∈ xs, ∀ b ∈ xs, (version a).orderKey = (version b).orderKey → a = b := by
  intro a ha b hb e
  simp only [SourceVersion.orderKey, List.cons.injEq, and_true] at e
  exact h.inj ha hb (Prod.ext e.2.1 e.2.2)

theorem Distinct.currencyKey_inj {xs : List α} (h : Distinct version xs) :
    ∀ a ∈ xs, ∀ b ∈ xs, (version a).sourceId = (version b).sourceId →
      (version a).currencyKey = (version b).currencyKey → a = b := by
  intro a ha b hb hs e
  simp only [SourceVersion.currencyKey, List.cons.injEq, and_true] at e
  exact h.inj ha hb (Prod.ext hs e.2)

theorem Distinct.sublist {xs ys : List α} (h : Distinct version ys) (hs : xs.Sublist ys) : Distinct version xs :=
  List.Nodup.sublist (hs.map _) h

theorem Distinct.perm {xs ys : List α} (h : Distinct version xs) (hp : xs.Perm ys) : Distinct version ys :=
  (hp.map _).nodup_iff.mp h

theorem latestVersions_distinct (xs : List α) : Distinct version (latestVersions version xs) := by
  refine List.Nodup.of_map Prod.fst ?_
  rw [List.map_map]
  exact Keyed.nodup_newest _ _ xs

theorem sortVersions_eq_of_perm {xs ys : List α} (h : Distinct version xs) (hp : xs.Perm ys) :
    sortVersions version xs = sortVersions version ys := Keyed.sortBy_eq_of_perm _ h.orderKey_inj hp

/-- Among distinct versions the order does not matter. -/
theorem selectVersions_perm {xs ys : List α} (h : Distinct version xs) (hp : xs.Perm ys) (project : Option String)
    (includeHistory : Bool) : selectVersions version project includeHistory xs = selectVersions version project includeHistory ys := by
  have hf : (ofProject version project xs).Perm (ofProject version project ys) := hp.filter _
  have hd : Distinct version (ofProject version project xs) := h.sublist List.filter_sublist
  cases includeHistory with
  | true => exact sortVersions_eq_of_perm hd hf
  | false => exact sortVersions_eq_of_perm (latestVersions_distinct _) (Keyed.newest_perm _ _ hd.currencyKey_inj hf)

/-- It does not matter if the versions are sorted before the newest are taken. -/
theorem selectVersions_of_sorted {xs : List α} (h : Distinct version xs) (project : Option String) (includeHistory : Bool) :
    sortVersions version (if includeHistory then sortVersions version (ofProject version project xs)
      else latestVersions version (sortVersions version (ofProject version project xs))) =
        selectVersions version project includeHistory xs := by
  have hd : Distinct version (ofProject version project xs) := h.sublist List.filter_sublist
  have hp : (sortVersions version (ofProject version project xs)).Perm (ofProject version project xs) := Keyed.sortBy_perm _ _
  cases includeHistory with
  | true => exact Keyed.sortBy_sortBy _ _
  | false =>
    refine sortVersions_eq_of_perm (latestVersions_distinct _) ?_
    exact Keyed.newest_perm _ _ (hd.perm hp.symm).currencyKey_inj hp

theorem selectVersions_all (xs : List α) : selectVersions version none true xs = sortVersions version xs := by
  simp [selectVersions, ofProject, SourceVersion.inProject]

@[simp] theorem sortVersions_sortVersions (xs : List α) : sortVersions version (sortVersions version xs) = sortVersions version xs :=
  Keyed.sortBy_sortBy _ xs

theorem mem_selectVersions_history {xs : List α} {project : Option String} {x : α} :
    x ∈ selectVersions version project true xs ↔ x ∈ xs ∧ (version x).inProject project = true := by
  simp [selectVersions, sortVersions, ofProject]

/-- A listed version is one that no other of its source and project exceeds. -/
theorem mem_selectVersions {xs : List α} (h : Distinct version xs) {project : Option String} {x : α} :
    x ∈ selectVersions version project false xs ↔ (x ∈ xs ∧ (version x).inProject project = true) ∧
      ∀ y ∈ xs, (version y).inProject project = true → (version y).sourceId = (version x).sourceId →
        (version y).currencyKey ≤ (version x).currencyKey := by
  have hd : Distinct version (ofProject version project xs) := h.sublist List.filter_sublist
  simp only [selectVersions, Bool.false_eq_true, ↓reduceIte, sortVersions, Keyed.mem_sortBy, latestVersions]
  rw [Keyed.mem_newest _ _ hd.currencyKey_inj]
  simp only [ofProject, List.mem_filter, and_imp]

theorem mem_of_mem_selectVersions {xs : List α} {project : Option String} {includeHistory : Bool} {x : α}
    (h : x ∈ selectVersions version project includeHistory xs) : x ∈ xs := by
  cases includeHistory with
  | true => exact (mem_selectVersions_history.mp h).1
  | false =>
    simp only [selectVersions, Bool.false_eq_true, ↓reduceIte, sortVersions, Keyed.mem_sortBy] at h
    exact List.mem_of_mem_filter (Keyed.mem_of_mem_newest _ _ h)

variable {version' : β → SourceVersion} (f : α → β) (hf : ∀ a, version' (f a) = version a)

include hf in
theorem map_selectVersions (project : Option String) (includeHistory : Bool) (xs : List α) :
    (selectVersions version project includeHistory xs).map f = selectVersions version' project includeHistory (xs.map f) := by
  have hfilter : (ofProject version project xs).map f = ofProject version' project (xs.map f) := by
    simp only [ofProject, List.filter_map, Function.comp_def, hf]
  simp only [selectVersions, sortVersions, latestVersions]
  have hsort : ∀ ys : List α, (Keyed.sortBy (fun x => (version x).orderKey) ys).map f =
      Keyed.sortBy (fun x => (version' x).orderKey) (ys.map f) := Keyed.map_sortBy f fun a => by rw [hf]
  have hnewest : ∀ ys : List α, (Keyed.newest (fun x => (version x).sourceId) (fun x => (version x).currencyKey) ys).map f =
      Keyed.newest (fun x => (version' x).sourceId) (fun x => (version' x).currencyKey) (ys.map f) :=
    Keyed.map_newest f (fun a => by rw [hf]) fun a => by rw [hf]
  rw [hsort, ← hfilter]
  split
  · rfl
  · rw [hnewest]

include hf in
theorem map_sortVersions (xs : List α) : (sortVersions version xs).map f = sortVersions version' (xs.map f) :=
  Keyed.map_sortBy f (fun a => by rw [hf]) xs

end Selection

/-! ## Registrations -/

theorem epoch_ne_empty : "1970-01-01T00:00:00Z" ≠ "" := by decide

/-- The arguments of a `register_bytes` call, the system that it runs on, and
the reading of the clock that stands in for a capture time. -/
structure RegisterCall where
  platform : Platform := .posix
  projectId : String
  sourceName : String
  raw : ByteArray
  captureTime : Option String := none
  metadata : Option Dict := none
  utcNow : { t : String // t ≠ "" } := ⟨"1970-01-01T00:00:00Z", epoch_ne_empty⟩

/-- `all(isinstance(value, str) for value in d.values())` -/
def isStringMap (d : Dict) : Bool := d.items.all fun kv => kv.2.isStr

/-- `not project_id or not source_name or name_path.is_absolute() or ".." in name_path.parts`, negated -/
def identityValid (platform : Platform) (projectId sourceName : String) : Bool :=
  let path := PurePath.ofText platform sourceName.toList
  projectId != "" && sourceName != "" && !path.isAbsolute platform && !path.parts.contains ['.', '.']

/-- `source_name.replace("\\", "/")` -/
def normalizeName (sourceName : String) : String := String.ofList (PurePath.replaceChar '\\' '/' sourceName.toList)

section

variable [Runtime]

/-- `_source_id` -/
def sourceIdOf (projectId sourceName : String) : String :=
  "src_" ++ String.ofList ((sha256Json (Dict.ofItems [
    ("project_id", .str projectId), ("source_name", .str sourceName)]).toVal).toList.take 32)

namespace RegisterCall

/-- The record that `register_bytes` makes of the content. -/
def record (c : RegisterCall) (content : String) : SourceRecord :=
  let fingerprint := sha256Bytes content.toUTF8
  { sourceId := sourceIdOf c.projectId (normalizeName c.sourceName)
    versionId := "ver_" ++ fingerprint
    projectId := c.projectId
    sourceName := normalizeName c.sourceName
    contentFingerprint := fingerprint
    captureTime := match c.captureTime with
      | some t => if t = "" then c.utcNow else t
      | none => c.utcNow
    metadata := c.metadata.getD .empty
    content := content }

/-- The checks that both stores make before they write anything. -/
def checked (c : RegisterCall) : Except Exc SourceRecord := do
  raiseIf (!identityValid c.platform c.projectId c.sourceName) (valueError "source_identity_invalid")
  return c.record (← normalizeText c.raw)

end RegisterCall

/-- What a record is derived from. -/
structure SourceRecord.Derived (r : SourceRecord) : Prop where
  source : r.sourceId = sourceIdOf r.projectId r.sourceName
  version : r.versionId = "ver_" ++ r.contentFingerprint
  fingerprint : r.contentFingerprint = sha256Bytes r.content.toUTF8
  text : normalizeText r.content.toUTF8 = .ok r.content
  captured : r.captureTime ≠ ""
  name : normalizeName r.sourceName = r.sourceName

omit [Runtime] in
theorem normalizeName_normalizeName (sourceName : String) : normalizeName (normalizeName sourceName) = normalizeName sourceName := by
  simp only [normalizeName, String.toList_ofList, PurePath.replaceChar_self]

theorem RegisterCall.checked_ok {c : RegisterCall} {r : SourceRecord} :
    c.checked = .ok r ↔ identityValid c.platform c.projectId c.sourceName = true ∧
      ∃ content, normalizeText c.raw = .ok content ∧ r = c.record content := by
  rw [checked, seq_ok, raiseIf_ok, Bool.not_eq_false', bind_ok]
  simp only [pure, Except.pure, Except.ok.injEq, eq_comm (a := r)]

theorem RegisterCall.derived {c : RegisterCall} {r : SourceRecord} (h : c.checked = .ok r) : r.Derived := by
  obtain ⟨-, content, hcontent, rfl⟩ := checked_ok.mp h
  refine ⟨rfl, rfl, rfl, normalizeText_toUTF8 hcontent, ?_, normalizeName_normalizeName _⟩
  simp only [record]
  split
  · split
    · exact c.utcNow.2
    · assumption
  · exact c.utcNow.2

/-- Records of one version have one fingerprint. -/
theorem SourceRecord.Derived.fingerprint_eq {r r' : SourceRecord} (h : r.Derived) (h' : r'.Derived)
    (e : r.versionId = r'.versionId) : r.contentFingerprint = r'.contentFingerprint := by
  rw [h.version, h'.version] at e
  exact String.append_right_inj _ |>.mp e

end

/-! ## Names -/

/-- On Windows a normalized name is as good as the name. -/
theorem identityValid_normalizeName_windows {projectId sourceName : String}
    (h : identityValid .windows projectId sourceName = true) :
    identityValid .windows projectId (normalizeName sourceName) = true := by
  have hne : normalizeName sourceName ≠ "" := by
    have hne : sourceName ≠ "" := by
      rintro rfl
      simp [identityValid] at h
    intro e
    have hmap := congrArg String.toList e
    simp only [normalizeName, PurePath.replaceChar, String.toList_ofList, String.toList_empty, List.map_eq_nil_iff] at hmap
    exact hne (String.toList_injective hmap)
  simp only [identityValid, normalizeName, String.toList_ofList, PurePath.ofText_windows_replace, Bool.and_eq_true] at h ⊢
  exact ⟨⟨⟨h.1.1.1, bne_iff_ne.mpr hne⟩, h.1.2⟩, h.2⟩

end Pmiri
