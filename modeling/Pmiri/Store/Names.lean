import Pmiri.Python.Sha256
import Pmiri.Store.Sqlite

/-!
# Stored names

The name of a source is checked as a path of the platform and stored with
slashes in place of backslashes. It stays inside the store, for a reader that
takes `/` as the separator, exactly where the backslashes are not the ones
that lead out.
-/

namespace Pmiri

open Py

/-! ## Two separators -/

theorem replaceChar_cons (a b c : Char) (cs : List Char) :
    PurePath.replaceChar a b (c :: cs) = (if c = a then b else c) :: PurePath.replaceChar a b cs := rfl

theorem splitOn_cons_sep (sep : Char) (cs : List Char) : splitOn sep (sep :: cs) = [] :: splitOn sep cs := by
  rw [splitOn, if_pos rfl]

/-- A part grows at its front. -/
theorem splitOn_cons {sep c : Char} {cs part : List Char} {parts : List (List Char)} (hc : c ≠ sep)
    (h : splitOn sep cs = part :: parts) : splitOn sep (c :: cs) = (c :: part) :: parts := by
  rw [splitOn, if_neg hc, h]

/-- To split where one separator replaces another is to split on both. -/
theorem splitOn_replaceChar (a b : Char) (hab : a ≠ b) (cs : List Char) :
    splitOn b (PurePath.replaceChar a b cs) = (splitOn b cs).flatMap (splitOn a) := by
  induction cs with
  | nil => rfl
  | cons c cs ih =>
    obtain ⟨part, parts, hparts⟩ := List.exists_cons_of_ne_nil (splitOn_ne_nil b cs)
    obtain ⟨first, rest, hfirst⟩ := List.exists_cons_of_ne_nil (splitOn_ne_nil a part)
    rw [hparts, List.flatMap_cons, hfirst, List.cons_append] at ih
    rw [replaceChar_cons]
    by_cases hb : c = b
    · subst hb
      rw [if_neg (Ne.symm hab), splitOn_cons_sep, splitOn_cons_sep, ih, hparts, List.flatMap_cons, List.flatMap_cons, hfirst]
      rfl
    · rw [splitOn_cons hb hparts, List.flatMap_cons]
      by_cases ha : c = a
      · subst ha
        rw [if_pos rfl, splitOn_cons_sep, splitOn_cons_sep, ih, hfirst]
        rfl
      · rw [if_neg ha, splitOn_cons hb ih, splitOn_cons ha hfirst]
        rfl

/-- It does not matter which of two separators replaces the other. -/
theorem splitOn_replaceChar_comm (a b : Char) (cs : List Char) :
    splitOn b (PurePath.replaceChar a b cs) = splitOn a (PurePath.replaceChar b a cs) := by
  induction cs with
  | nil => rfl
  | cons c cs ih =>
    rw [replaceChar_cons, replaceChar_cons]
    by_cases ha : c = a
    · subst ha
      rw [if_pos rfl, splitOn_cons_sep, ih]
      split <;> rw [splitOn_cons_sep]
    · by_cases hb : c = b
      · subst hb
        rw [if_neg ha, if_pos rfl, splitOn_cons_sep, splitOn_cons_sep, ih]
      · obtain ⟨part, parts, hparts⟩ := List.exists_cons_of_ne_nil (splitOn_ne_nil a (PurePath.replaceChar b a cs))
        rw [if_neg ha, if_neg hb, splitOn_cons ha hparts, splitOn_cons hb (ih.trans hparts)]

/-! ## Names that stay inside -/

/-- With `/` as separator, a name is relative and has no `..` segment. -/
def Contained (name : List Char) : Prop := name.head? ≠ some '/' ∧ ['.', '.'] ∉ splitOn '/' name

/-- The separators of a name do not lead out. On POSIX backslashes are
characters like others for the check, on Windows a root without a drive is not
absolute. -/
def SeparatorsKept (platform : Platform) (name : List Char) : Prop :=
  match platform with
  | .posix => name.head? ≠ some '\\' ∧ ∀ part ∈ splitOn '/' name, ['.', '.'] ∉ splitOn '\\' part
  | .windows => name.head? ≠ some '/' ∧ name.head? ≠ some '\\'

theorem identityValid_iff {platform : Platform} {projectId sourceName : String} :
    identityValid platform projectId sourceName = true ↔ projectId ≠ "" ∧ sourceName ≠ "" ∧
      (PurePath.ofText platform sourceName.toList).isAbsolute platform = false ∧
      ['.', '.'] ∉ (PurePath.ofText platform sourceName.toList).parts := by
  simp only [identityValid, Bool.and_eq_true, bne_iff_ne, Bool.not_eq_true', List.contains_eq_mem, decide_eq_false_iff_not,
    and_assoc]

theorem head?_replaceChar (cs : List Char) :
    (PurePath.replaceChar '\\' '/' cs).head? = some '/' ↔ cs.head? = some '/' ∨ cs.head? = some '\\' := by
  cases cs with
  | nil => simp [PurePath.replaceChar]
  | cons c cs =>
    rw [replaceChar_cons, List.head?_cons, List.head?_cons]
    by_cases h : c = '\\' <;> simp [h]

/-- A relative name on POSIX does not begin with a slash. -/
theorem head?_of_posix {cs : List Char} (h : (PurePath.ofText .posix cs).isAbsolute .posix = false) : cs.head? ≠ some '/' := by
  intro hslash
  obtain ⟨rest, rfl⟩ : ∃ rest, cs = '/' :: rest := by
    cases cs with
    | nil => cases hslash
    | cons c rest => exact ⟨rest, by rw [Option.some.inj hslash]⟩
  simp only [PurePath.isAbsolute, PurePath.ofText, PurePath.posixSplitroot, Bool.not_eq_false'] at h
  split at h <;> simp_all

theorem contained_posix {cs : List Char} (h : (PurePath.ofText .posix cs).isAbsolute .posix = false) :
    Contained (PurePath.replaceChar '\\' '/' cs) ↔ SeparatorsKept .posix cs := by
  rw [Contained, SeparatorsKept, splitOn_replaceChar '\\' '/' (by decide), List.mem_flatMap, ne_eq, head?_replaceChar,
    or_iff_right (head?_of_posix h)]
  push Not
  rfl

theorem dots_mem_segments {rel : List Char} (h : ['.', '.'] ∈ splitOn '\\' rel) : ['.', '.'] ∈ PurePath.segments '\\' rel :=
  List.mem_filter.mpr ⟨h, by decide⟩

/-- On Windows a name without a separator at its front has its `..` segments among the parts of its path. -/
theorem dots_windows {cs : List Char} (hfront : (PurePath.replaceChar '/' '\\' cs).head? ≠ some '\\')
    (habsolute : (PurePath.ofText .windows cs).isAbsolute .windows = false)
    (hparts : ['.', '.'] ∉ (PurePath.ofText .windows cs).parts) :
    ['.', '.'] ∉ splitOn '\\' (PurePath.replaceChar '/' '\\' cs) := by
  intro hdots
  rw [PurePath.ofText] at habsolute hparts
  rcases PurePath.ntSplitroot_cases hfront with ⟨c, rest, hcs, hsplit⟩ | ⟨c, rest, hcs, hsplit⟩ | hsplit
  · -- a drive with a root is absolute
    simp [hsplit, PurePath.isAbsolute, PurePath.implicitRoot] at habsolute
  · -- the segment with the drive is not `..`
    have hc : c ≠ '\\' := by
      rintro rfl
      exact hfront (by rw [hcs, List.head?_cons])
    obtain ⟨part, parts, hrest⟩ := List.exists_cons_of_ne_nil (splitOn_ne_nil '\\' rest)
    rw [hcs, splitOn_cons hc (splitOn_cons (by decide) hrest)] at hdots
    have hmem : ['.', '.'] ∈ splitOn '\\' rest := by
      rw [hrest]
      rcases List.mem_cons.mp hdots with h | h
      · simp at h
      · exact List.mem_cons_of_mem _ h
    apply hparts
    simp only [hsplit, PurePath.parts, List.isEmpty_cons, Bool.false_and, Bool.false_eq_true, ↓reduceIte]
    exact List.mem_cons_of_mem _ (dots_mem_segments hmem)
  · apply hparts
    simp only [hsplit, PurePath.parts, PurePath.implicitRoot, List.isEmpty_nil, List.head?_nil, Bool.true_and]
    simpa using dots_mem_segments hdots

theorem contained_windows {cs : List Char} (habsolute : (PurePath.ofText .windows cs).isAbsolute .windows = false)
    (hparts : ['.', '.'] ∉ (PurePath.ofText .windows cs).parts) :
    Contained (PurePath.replaceChar '\\' '/' cs) ↔ SeparatorsKept .windows cs := by
  rw [Contained, SeparatorsKept, ne_eq, head?_replaceChar, not_or, and_iff_left_iff_imp]
  rintro ⟨hslash, hback⟩
  rw [splitOn_replaceChar_comm]
  refine dots_windows ?_ habsolute hparts
  cases cs with
  | nil => simp [PurePath.replaceChar]
  | cons c cs =>
    rw [replaceChar_cons, List.head?_cons]
    rw [List.head?_cons] at hslash hback
    split <;> rename_i hc
    · exact absurd (congrArg some hc) hslash
    · exact hback

/-- A name that passes the check is stored as one that stays inside exactly if its separators do not lead out. -/
theorem contained_normalizeName {platform : Platform} {projectId sourceName : String}
    (h : identityValid platform projectId sourceName = true) :
    Contained (normalizeName sourceName).toList ↔ SeparatorsKept platform sourceName.toList := by
  obtain ⟨-, -, habsolute, hparts⟩ := identityValid_iff.mp h
  rw [normalizeName, String.toList_ofList]
  cases platform with
  | posix => exact contained_posix habsolute
  | windows => exact contained_windows habsolute hparts

/-! ## The names that the stores hold -/

/-- The names in the index. -/
def LocalStore.names (s : LocalStore) : List String :=
  match s.index.read with
  | .ok entries => entries.map (·.sourceName)
  | .error _ => []

/-- The names in the table. -/
def SQLiteStore.names [Runtime] (s : SQLiteStore) : List String :=
  match s.database.ensureSchema with
  | .ok (_, rows) => rows.map (·.sourceName)
  | .error _ => []

section

variable [Runtime]

theorem RegisterCall.sourceName_of_checked {c : RegisterCall} {r : SourceRecord} (h : c.checked = .ok r) :
    identityValid c.platform c.projectId c.sourceName = true ∧ r.sourceName = normalizeName c.sourceName := by
  obtain ⟨hvalid, content, -, rfl⟩ := checked_ok.mp h
  exact ⟨hvalid, rfl⟩

/-- A registration stores no name but its own. -/
theorem LocalStore.names_registerBytes {s : LocalStore} {c : RegisterCall} {name : String}
    (h : name ∈ (s.registerBytes c).2.names) :
    name ∈ s.names ∨ identityValid c.platform c.projectId c.sourceName = true ∧ name = normalizeName c.sourceName := by
  cases hc : c.checked with
  | error e =>
    rw [registerBytes_error hc] at h
    exact .inl h
  | ok record =>
    obtain ⟨hvalid, hname⟩ := RegisterCall.sourceName_of_checked hc
    have hread := (read_initialized s).1
    simp only [registerBytes, hc] at h
    split at h
    · rename_i e he
      rw [LocalStore.names, he] at h
      cases h
    · rename_i entries he
      have hnames : s.names = entries.map (·.sourceName) := by rw [LocalStore.names, ← hread, he]
      split at h
      · rw [LocalStore.names, he] at h
        exact .inl (hnames ▸ h)
      · simp only [LocalStore.names, IndexFile.read, List.map_map, List.mem_map, sortVersions, Keyed.mem_sortBy] at h
        obtain ⟨e, hmem, rfl⟩ := h
        rcases List.mem_append.mp hmem with hmem | hmem
        · exact .inl (hnames ▸ List.mem_map.mpr ⟨e, hmem, rfl⟩)
        · obtain rfl := List.mem_singleton.mp hmem
          exact .inr ⟨hvalid, hname⟩

theorem SQLiteStore.names_registerBytes {s : SQLiteStore} {c : RegisterCall} {name : String}
    (h : name ∈ (s.registerBytes c).2.names) :
    name ∈ s.names ∨ identityValid c.platform c.projectId c.sourceName = true ∧ name = normalizeName c.sourceName := by
  cases hc : c.checked with
  | error e =>
    simp only [registerBytes, hc] at h
    exact .inl h
  | ok record =>
    obtain ⟨hvalid, hname⟩ := RegisterCall.sourceName_of_checked hc
    simp only [registerBytes, hc] at h
    split at h
    · exact .inl h
    · split at h
      · exact .inl h
      · rename_i blobs rows hschema
        have hnames : s.names = rows.map (·.sourceName) := by rw [SQLiteStore.names, hschema]
        split at h
        · have hconnected : s.database.connected.ensureSchema = s.database.ensureSchema := by cases s.database <;> rfl
          rw [SQLiteStore.names, hconnected, ← SQLiteStore.names] at h
          exact .inl h
        · simp only [SQLiteStore.names, Database.ensureSchema, insertSource, List.mem_map] at h
          obtain ⟨row, hmem, rfl⟩ := h
          rcases Keyed.mem_of_mem_add _ hmem with hmem | hmem
          · exact .inl (hnames ▸ List.mem_map_of_mem hmem)
          · subst hmem
            exact .inr ⟨hvalid, hname⟩

/-- No registration under these arguments stores a name that leads out of the store. -/
def NamesContained (platform : Platform) (projectId sourceName : String) : Prop :=
  ∀ c : RegisterCall, c.platform = platform → c.projectId = projectId → c.sourceName = sourceName →
    (∀ s : LocalStore, ∀ name ∈ (s.registerBytes c).2.names, name ∈ s.names ∨ Contained name.toList) ∧
      ∀ s : SQLiteStore, ∀ name ∈ (s.registerBytes c).2.names, name ∈ s.names ∨ Contained name.toList

/-- A fresh store takes the name. -/
theorem separatorsKept_of_namesContained {platform : Platform} {projectId sourceName : String}
    (h : NamesContained platform projectId sourceName) (hvalid : identityValid platform projectId sourceName = true) :
    SeparatorsKept platform sourceName.toList := by
  obtain ⟨content, hcontent⟩ : ∃ content, normalizeText ByteArray.empty = .ok content := ⟨_, rfl⟩
  let c : RegisterCall := { platform, projectId, sourceName, raw := ByteArray.empty }
  have hc : c.checked = .ok (c.record content) := RegisterCall.checked_ok.mpr ⟨hvalid, content, hcontent, rfl⟩
  have hname : normalizeName sourceName ∈ (LocalStore.registerBytes {} c).2.names := by
    simp [LocalStore.registerBytes, hc, LocalStore.initialized, IndexFile.read, LocalStore.names, sortVersions, Keyed.sortBy,
      SourceEntry.stored, RegisterCall.record, c]
  rcases (h c rfl rfl rfl).1 {} _ hname with hmem | hmem
  · cases hmem
  · exact (contained_normalizeName hvalid).mp hmem

/-- Exactly the names with separators that lead out are stored so that they lead out. -/
theorem namesContained_iff (platform : Platform) (projectId sourceName : String) :
    NamesContained platform projectId sourceName ↔
      (identityValid platform projectId sourceName = true → SeparatorsKept platform sourceName.toList) := by
  constructor
  · exact separatorsKept_of_namesContained
  · rintro h c rfl rfl rfl
    refine ⟨fun s name hname => ?_, fun s name hname => ?_⟩
    · refine (LocalStore.names_registerBytes hname).imp_right ?_
      rintro ⟨hvalid, rfl⟩
      exact (contained_normalizeName hvalid).mpr (h hvalid)
    · refine (SQLiteStore.names_registerBytes hname).imp_right ?_
      rintro ⟨hvalid, rfl⟩
      exact (contained_normalizeName hvalid).mpr (h hvalid)

end

/-- `a\..\b` is stored as `a/../b`. -/
theorem name_escapes :
    letI := asciiRuntime
    ¬ NamesContained .posix "p" "a\\..\\b" := by
  let := asciiRuntime
  intro h
  have hkept := separatorsKept_of_namesContained h (by decide)
  exact absurd (hkept.2 "a\\..\\b".toList (by decide)) (by decide)

end Pmiri
