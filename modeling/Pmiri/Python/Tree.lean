import Pmiri.Python.Pathlib
import Pmiri.Python.Checks

/-!
# Directory trees

What a POSIX file system has below a directory, as far as `Path.rglob`,
`Path.resolve`, `Path.is_file` and `Path.read_bytes` tell. An absolute path is
the list of its parts; a path below the directory is the list of its names.
-/

namespace Py

/-! ## Paths -/

/-- A name that a directory entry can have. -/
def validName (name : String) : Bool := name != "" && name != "." && name != ".." && !name.toList.contains '/'

/-- A path relative to a directory, with at least one name. -/
structure RelPath where
  names : List String
  nonempty : names ≠ []
  valid : names.all validName = true
deriving DecidableEq

namespace RelPath

/-- The path with these names, if there is one. -/
def ofNames (names : List String) : Option RelPath :=
  if h : names ≠ [] ∧ names.all validName = true then some ⟨names, h.1, h.2⟩ else none

/-- `path.name` -/
def name (p : RelPath) : String := p.names.getLast p.nonempty

/-- `path.as_posix()` -/
def asPosix (p : RelPath) : String := String.ofList (joinWith '/' (p.names.map String.toList))

/-- `path.suffix` -/
def suffix (p : RelPath) : List Char :=
  match rpartition '.' p.name.toList with
  | (stem, ext, found) => if found && !stem.isEmpty && !ext.isEmpty then '.' :: ext else []

@[ext] theorem ext {p q : RelPath} (h : p.names = q.names) : p = q := by
  cases p
  cases q
  cases h
  rfl

/-- The path and its parents below the root. -/
def ancestors (p : RelPath) : List RelPath := p.names.inits.filterMap ofNames

/-- `p / q` -/
def join (p q : RelPath) : RelPath where
  names := p.names ++ q.names
  nonempty := List.append_ne_nil_of_left_ne_nil p.nonempty q.names
  valid := by rw [List.all_append, p.valid, q.valid, Bool.and_self]

theorem join_inj {p q r : RelPath} (h : p.join q = p.join r) : q = r := ext (List.append_cancel_left (congrArg names h))

end RelPath

theorem RelPath.mem_ancestors {p q : RelPath} : q ∈ p.ancestors ↔ q.names <+: p.names := by
  rw [RelPath.ancestors, List.mem_filterMap]
  constructor
  · intro h
    obtain ⟨names, hnames, hq⟩ := h
    unfold RelPath.ofNames at hq
    split at hq
    · obtain rfl := Option.some.inj hq
      exact (List.mem_inits _ _).mp hnames
    · cases hq
  · intro h
    exact ⟨q.names, (List.mem_inits _ _).mpr h, dif_pos ⟨q.nonempty, q.valid⟩⟩

/-- `base / text` -/
def joinPath (base : List String) (text : String) : List String :=
  let p := PurePath.ofText .posix text.toList
  if p.root.isEmpty then base ++ p.tail.map String.ofList else String.ofList p.root :: p.tail.map String.ofList

/-- `a in b.parents` -/
def isParent (a b : List String) : Bool := a.isPrefixOf b && a != b

theorem isParent_of_append (a : List String) {names : List String} (h : names ≠ []) : isParent a (a ++ names) = true := by
  rw [isParent, Bool.and_eq_true, List.isPrefixOf_iff_prefix, bne_iff_ne]
  exact ⟨List.prefix_append a names, fun e => h (List.append_right_eq_self.mp e.symm)⟩

/-- `path.as_posix()`, for an absolute path. -/
def absoluteAsPosix : List String → String
  | [] => ""
  | anchor :: names => anchor ++ "/".intercalate names

/-! ## Texts of paths -/

theorem validName_iff {name : String} :
    validName name = true ↔ name ≠ "" ∧ name ≠ "." ∧ name ≠ ".." ∧ '/' ∉ name.toList := by
  simp [validName, and_assoc]

theorem posixSplitroot_of_ne {c : Char} {cs : List Char} (h : c ≠ '/') : PurePath.posixSplitroot (c :: cs) = ([], c :: cs) := by
  unfold PurePath.posixSplitroot
  split
  · rename_i e
    exact absurd (List.cons.inj e).1 h
  · rename_i e
    exact absurd (List.cons.inj e).1 h
  · rename_i e
    exact absurd (List.cons.inj e).1 h
  · rfl

namespace RelPath

variable (p : RelPath)

theorem valid_of_mem {name : String} (h : name ∈ p.names) : name ≠ "" ∧ name ≠ "." ∧ name ≠ ".." ∧ '/' ∉ name.toList :=
  validName_iff.mp (List.all_eq_true.mp p.valid name h)

theorem joinWith_cons_ne {part : List Char} {parts : List (List Char)} {c : Char} {cs : List Char} (h : part = c :: cs) :
    ∃ rest, joinWith '/' (part :: parts) = c :: rest := by
  subst h
  cases parts with
  | nil => exact ⟨cs, rfl⟩
  | cons part parts => exact ⟨_, rfl⟩

/-- The text of a path is parsed to its names. -/
theorem ofText_asPosix : PurePath.ofText .posix p.asPosix.toList = { tail := p.names.map String.toList } := by
  have hvalid : ∀ part ∈ p.names.map String.toList, part ≠ [] ∧ part ≠ ['.'] ∧ '/' ∉ part := by
    intro part hpart
    obtain ⟨name, hname, rfl⟩ := List.mem_map.mp hpart
    obtain ⟨hempty, hdot, -, hslash⟩ := p.valid_of_mem hname
    exact ⟨fun e => hempty (String.toList_inj.mp e), fun e => hdot (String.toList_inj.mp e), hslash⟩
  rw [asPosix, String.toList_ofList]
  have hne : p.names.map String.toList ≠ [] := fun e => p.nonempty (List.map_eq_nil_iff.mp e)
  generalize p.names.map String.toList = parts at hvalid hne
  have hsegments : PurePath.segments '/' (joinWith '/' parts) = parts := by
    rw [PurePath.segments, splitOn_joinWith hne fun part h => (hvalid part h).2.2]
    exact List.filter_eq_self.mpr fun part h => by simp [(hvalid part h).1, (hvalid part h).2.1]
  obtain ⟨part, parts, rfl⟩ := List.exists_cons_of_ne_nil hne
  obtain ⟨hempty, -, hslash⟩ := hvalid part List.mem_cons_self
  obtain ⟨c, cs, hc⟩ := List.exists_cons_of_ne_nil hempty
  obtain ⟨rest, hrest⟩ : ∃ rest, joinWith '/' (part :: parts) = c :: rest := joinWith_cons_ne hc
  have hsplit : PurePath.posixSplitroot (joinWith '/' (part :: parts)) = ([], joinWith '/' (part :: parts)) := by
    rw [hrest]
    exact posixSplitroot_of_ne fun e => hslash (by rw [hc, e]; exact List.mem_cons_self)
  simp only [PurePath.ofText, hsplit, hsegments]

theorem joinPath_asPosix (base : List String) : joinPath base p.asPosix = base ++ p.names := by
  rw [joinPath, ofText_asPosix]
  simp

theorem asPosix_inj {p q : RelPath} (h : p.asPosix = q.asPosix) : p = q := by
  have := p.joinPath_asPosix []
  rw [h, joinPath_asPosix, List.nil_append, List.nil_append] at this
  exact ext this.symm

theorem asPosix_eq_intercalate : p.asPosix = "/".intercalate p.names := by
  have hjoin : ∀ parts : List (List Char), joinWith '/' parts = ['/'].intercalate parts := by
    intro parts
    induction parts with
    | nil => rfl
    | cons part parts ih =>
      cases parts with
      | nil => simp [joinWith]
      | cons part' parts =>
        rw [joinWith, ih, List.intercalate_cons_cons, List.append_assoc, List.singleton_append]
        exact List.cons_ne_nil _ _
  rw [← String.toList_inj, asPosix, String.toList_ofList, String.toList_intercalate, hjoin]
  rfl

theorem asPosix_join (q : RelPath) : (p.join q).asPosix = p.asPosix ++ "/" ++ q.asPosix := by
  rw [asPosix_eq_intercalate, asPosix_eq_intercalate, asPosix_eq_intercalate, join,
    String.intercalate_append_of_ne_nil p.nonempty q.nonempty]

theorem asPosix_ne_empty : p.asPosix ≠ "" := by
  intro e
  have := p.joinPath_asPosix []
  rw [e] at this
  exact p.nonempty this.symm

end RelPath

/-! ## Disks -/

inductive Entry where
  | file (content : ByteArray)
  | directory
  | symlink

/-- The file system below `root`, a resolved path: the entries that
`rglob("*")` finds, none of them behind a symbolic link, and what `Path.resolve`
makes of an absolute path. -/
structure Disk (root : List String) where
  entries : List (RelPath × Entry)
  nodup : (entries.map Prod.fst).Nodup
  resolve : List String → List String
  resolve_resolve : ∀ path, resolve (resolve path) = resolve path
  resolve_file : ∀ p content, (p, .file content) ∈ entries → resolve (root ++ p.names) = root ++ p.names

namespace Disk

variable {root : List String} (disk : Disk root)

/-- What is at a path below the root. -/
def entry? (p : RelPath) : Option Entry := (disk.entries.find? fun e => e.1 = p).map Prod.snd

/-- The content of the regular file at a path below the root. -/
def file? (p : RelPath) : Option ByteArray :=
  match disk.entry? p with
  | some (.file content) => some content
  | _ => none

/-- The names below the root of an absolute path. -/
def below (root path : List String) : Option RelPath :=
  if root.isPrefixOf path then RelPath.ofNames (path.drop root.length) else none

/-- The content of a resolved path, if it is a regular file below the root. -/
def fileAt (path : List String) : Option ByteArray := (below root path).bind disk.file?

theorem below_append (p : RelPath) : below root (root ++ p.names) = some p := by
  have hstart : root.isPrefixOf (root ++ p.names) = true := by simp
  rw [below, if_pos hstart, List.drop_left, RelPath.ofNames, dif_pos ⟨p.nonempty, p.valid⟩]

theorem below_eq_some {path : List String} {p : RelPath} (h : below root path = some p) : path = root ++ p.names := by
  unfold below at h
  split at h
  · rename_i hstart
    obtain ⟨names, rfl⟩ := List.isPrefixOf_iff_prefix.mp hstart
    rw [List.drop_left, RelPath.ofNames] at h
    split at h
    · obtain rfl := Option.some.inj h
      rfl
    · cases h
  · cases h

/-- `path.mkdir(parents=True, exist_ok=True)`, for a resolved path: it fails if
anything but a directory is in the way. -/
def mkdir (path : List String) : Except Exc Unit :=
  raiseIf (disk.entries.any fun e => (match e.2 with | .directory => false | _ => true) && (root ++ e.1.names).isPrefixOf path)
    (.osError "File exists")

/-- The disk with a regular file at a path that is resolved to itself. -/
def put (p : RelPath) (content : ByteArray) (h : disk.resolve (root ++ p.names) = root ++ p.names) : Disk root where
  entries := disk.entries.filter (fun e => e.1 ≠ p) ++ [(p, .file content)]
  nodup := by
    rw [List.map_append, List.nodup_append]
    refine ⟨disk.nodup.sublist (List.filter_sublist.map _), List.nodup_singleton _, fun q hq q' hq' e => ?_⟩
    obtain ⟨entry, hentry, rfl⟩ := List.mem_map.mp hq
    rw [List.map_singleton, List.mem_singleton] at hq'
    exact of_decide_eq_true (List.mem_filter.mp hentry).2 (e.trans hq')
  resolve := disk.resolve
  resolve_resolve := disk.resolve_resolve
  resolve_file := by
    intro q content' hq
    rcases List.mem_append.mp hq with hq | hq
    · exact disk.resolve_file q content' (List.mem_filter.mp hq).1
    · obtain rfl : q = p := congrArg Prod.fst (List.mem_singleton.mp hq)
      exact h

/-- The disk with a directory at a path at which there is nothing. -/
def makeDirectory (p : RelPath) : Disk root :=
  if h : p ∈ disk.entries.map Prod.fst then disk
  else
    { entries := disk.entries ++ [(p, .directory)]
      nodup := by
        rw [List.map_append, List.nodup_append]
        refine ⟨disk.nodup, List.nodup_singleton _, fun q hq q' hq' e => ?_⟩
        rw [List.map_singleton, List.mem_singleton] at hq'
        obtain rfl : q' = p := hq'
        exact h (e ▸ hq)
      resolve := disk.resolve
      resolve_resolve := disk.resolve_resolve
      resolve_file := by
        intro q content hq
        rcases List.mem_append.mp hq with hq | hq
        · exact disk.resolve_file q content hq
        · cases List.mem_singleton.mp hq }

/-- What `path.mkdir(parents=True, exist_ok=True)` makes, for a resolved path. -/
def makeDirectories (path : List String) : Except Exc (Disk root) := do
  disk.mkdir path
  return match below root path with
    | some p => p.ancestors.foldl makeDirectory disk
    | none => disk

/-- `path.write_bytes(content)`: a symbolic link is written through, and a
directory is not written. -/
def write (path : List String) (content : ByteArray) : Except Exc (Disk root) :=
  if (disk.resolve path).isPrefixOf root then .error (.osError "Is a directory")
  else
    match h : below root (disk.resolve path) with
    | none => .ok disk
    | some p =>
      match disk.entry? p with
      | some .directory => .error (.osError "Is a directory")
      | _ => .ok (disk.put p content (by rw [← below_eq_some h, disk.resolve_resolve]))

/-! Questions about a path that need not be resolved. -/

/-- `path.read_bytes()`, if `path.is_file()`. -/
def contentAt (path : List String) : Option ByteArray := disk.fileAt (disk.resolve path)

/-- `path.is_file()` -/
def isFile (path : List String) : Bool := (disk.contentAt path).isSome

/-- `path.is_dir()` -/
def isDirectory (path : List String) : Bool :=
  disk.resolve path == root ||
    match (below root (disk.resolve path)).bind disk.entry? with
    | some .directory => true
    | _ => false

/-- `path.is_symlink()` -/
def isSymlink (path : List String) : Bool :=
  match (below root (disk.resolve path.dropLast ++ path.getLast?.toList)).bind disk.entry? with
  | some .symlink => true
  | _ => false

/-- `path.exists()` -/
def pathExists (path : List String) : Bool :=
  disk.resolve path == root || ((below root (disk.resolve path)).bind disk.entry?).isSome

/-- `path.rglob("*")`: what there is, by its path relative to `path`. -/
def rglob (path : List String) : List (RelPath × Entry) :=
  disk.entries.filterMap fun e => (below (disk.resolve path) (root ++ e.1.names)).map (·, e.2)

/-! ## What is on a disk -/

theorem entry?_eq_some {p : RelPath} {entry : Entry} : disk.entry? p = some entry ↔ (p, entry) ∈ disk.entries := by
  rw [ entry?, Option.map_eq_some_iff]
  constructor
  · intro h
    obtain ⟨e, he, hsnd⟩ := h
    have hfst : e.1 = p := by simpa using List.find?_some he
    exact hfst ▸ hsnd ▸ List.mem_of_find?_eq_some he
  · intro h
    rcases hf : disk.entries.find? (fun e => e.1 = p) with _ | e
    · exact absurd (decide_eq_true rfl) (List.find?_eq_none.mp hf _ h)
    · have hfst : e.1 = p := by simpa using List.find?_some hf
      exact ⟨e, hf, by rw [List.inj_on_of_nodup_map disk.nodup (List.mem_of_find?_eq_some hf) h hfst]⟩

theorem file?_eq_some {p : RelPath} {content : ByteArray} : disk.file? p = some content ↔ (p, .file content) ∈ disk.entries := by
  rw [← entry?_eq_some, file?]
  split
  · rename_i hentry
    simp [hentry]
  · rename_i hentry
    simpa using hentry content

theorem entry?_eq_none {p : RelPath} : disk.entry? p = none ↔ p ∉ disk.entries.map Prod.fst := by
  rw [Option.eq_none_iff_forall_ne_some, List.mem_map]
  simp only [ne_eq, entry?_eq_some, not_exists, not_and]
  exact ⟨fun h e he hp => h e.2 (hp ▸ he), fun h entry he => h (p, entry) he rfl⟩

theorem mem_makeDirectory {p q : RelPath} {entry : Entry} :
    (q, entry) ∈ (disk.makeDirectory p).entries ↔
      (q, entry) ∈ disk.entries ∨ q = p ∧ entry = .directory ∧ q ∉ disk.entries.map Prod.fst := by
  unfold makeDirectory
  split
  · rename_i h
    constructor
    · exact .inl
    · intro hq
      rcases hq with hq | ⟨rfl, -, hnot⟩
      · exact hq
      · exact absurd h hnot
  · rename_i h
    simp only [List.mem_append, List.mem_singleton, Prod.mk.injEq]
    refine or_congr Iff.rfl ⟨fun hq => ⟨hq.1, hq.2, hq.1 ▸ h⟩, fun hq => ⟨hq.1, hq.2.1⟩⟩

@[simp] theorem resolve_makeDirectory (p : RelPath) : (disk.makeDirectory p).resolve = disk.resolve := by
  unfold makeDirectory
  split <;> rfl

theorem resolve_foldl_makeDirectory (ps : List RelPath) : (ps.foldl makeDirectory disk).resolve = disk.resolve := by
  induction ps generalizing disk with
  | nil => rfl
  | cons p ps ih => rw [List.foldl_cons, ih, resolve_makeDirectory]

theorem mem_foldl_makeDirectory {ps : List RelPath} {q : RelPath} {entry : Entry} :
    (q, entry) ∈ (ps.foldl makeDirectory disk).entries ↔
      (q, entry) ∈ disk.entries ∨ q ∈ ps ∧ entry = .directory ∧ q ∉ disk.entries.map Prod.fst := by
  induction ps generalizing disk with
  | nil => simp
  | cons p ps ih =>
    have hkeys : q ∈ (disk.makeDirectory p).entries.map Prod.fst ↔ q ∈ disk.entries.map Prod.fst ∨ q = p := by
      rw [List.mem_map, List.mem_map]
      constructor
      · intro h
        obtain ⟨⟨q', e⟩, he, rfl⟩ := h
        rcases (mem_makeDirectory disk).mp he with he | ⟨rfl, -⟩
        · exact .inl ⟨_, he, rfl⟩
        · exact .inr rfl
      · intro h
        by_cases hq : q ∈ disk.entries.map Prod.fst
        · obtain ⟨⟨q', e⟩, he, rfl⟩ := List.mem_map.mp hq
          exact ⟨_, (mem_makeDirectory disk).mpr (.inl he), rfl⟩
        · obtain rfl := h.resolve_left (fun h => hq (List.mem_map.mpr h))
          exact ⟨(q, .directory), (mem_makeDirectory disk).mpr (.inr ⟨rfl, rfl, hq⟩), rfl⟩
    rw [List.foldl_cons, ih, mem_makeDirectory, hkeys, List.mem_cons]
    constructor
    · intro h
      rcases h with (h | ⟨rfl, hentry, hnot⟩) | ⟨hmem, hentry, hnot⟩
      · exact .inl h
      · exact .inr ⟨.inl rfl, hentry, hnot⟩
      · exact .inr ⟨.inr hmem, hentry, fun h => hnot (.inl h)⟩
    · intro h
      rcases h with h | ⟨hmem, hentry, hnot⟩
      · exact .inl (.inl h)
      · by_cases hq : q = p
        · exact .inl (.inr ⟨hq, hentry, hnot⟩)
        · exact .inr ⟨hmem.resolve_left hq, hentry, fun h => h.elim hnot hq⟩

/-- What is on a disk once the directories of a path are made. -/
theorem makeDirectories_ok {names : List String} (hvalid : names.all validName = true) {disk' : Disk root}
    (h : disk.makeDirectories (root ++ names) = .ok disk') :
    disk'.resolve = disk.resolve ∧ ∀ q entry, (q, entry) ∈ disk'.entries ↔
      (q, entry) ∈ disk.entries ∨ q.names <+: names ∧ entry = .directory ∧ q ∉ disk.entries.map Prod.fst := by
  unfold makeDirectories at h
  obtain ⟨-, h⟩ := seq_ok.mp h
  by_cases hnames : names = []
  · have hbelow : below root (root ++ names) = none := by
      rw [below, if_pos (by simp), List.drop_left, RelPath.ofNames, dif_neg fun h => h.1 hnames]
    rw [hbelow] at h
    obtain rfl := Except.ok.inj h
    refine ⟨rfl, fun q entry => ⟨.inl, fun hq => hq.elim id fun hq => ?_⟩⟩
    rw [hnames, List.prefix_nil] at hq
    exact absurd hq.1 q.nonempty
  · have hbelow : below root (root ++ names) = some ⟨names, hnames, hvalid⟩ := below_append ⟨names, hnames, hvalid⟩
    rw [hbelow] at h
    obtain rfl := Except.ok.inj h
    refine ⟨disk.resolve_foldl_makeDirectory _, fun q entry => ?_⟩
    rw [mem_foldl_makeDirectory, RelPath.mem_ancestors]

theorem exists_makeDirectories {path : List String}
    (h : ∀ p entry, (p, entry) ∈ disk.entries → root ++ p.names <+: path → entry = .directory) :
    ∃ disk', disk.makeDirectories path = .ok disk' := by
  have hmkdir : disk.mkdir path = .ok () := by
    rw [mkdir, raiseIf_ok, List.any_eq_false]
    intro e he hblocked
    rw [Bool.and_eq_true, List.isPrefixOf_iff_prefix] at hblocked
    have hdirectory := h e.1 e.2 he hblocked.2
    rw [hdirectory] at hblocked
    exact Bool.false_ne_true hblocked.1
  exact ⟨_, seq_ok.mpr ⟨hmkdir, rfl⟩⟩

theorem makeDirectories_blocked {path : List String} {p : RelPath} {entry : Entry} (hp : (p, entry) ∈ disk.entries)
    (hbefore : root ++ p.names <+: path) (hne : entry ≠ .directory) :
    disk.makeDirectories path = .error (.osError "File exists") := by
  have hmkdir : disk.mkdir path = .error (.osError "File exists") := by
    refine if_pos (List.any_eq_true.mpr ⟨(p, entry), hp, ?_⟩)
    rw [Bool.and_eq_true, List.isPrefixOf_iff_prefix]
    refine ⟨?_, hbefore⟩
    cases entry with
    | file content => rfl
    | directory => exact absurd rfl hne
    | symlink => rfl
  rw [makeDirectories, hmkdir]
  rfl

/-- A file is written where nothing is. -/
theorem write_new {p : RelPath} (hresolve : disk.resolve (root ++ p.names) = root ++ p.names) (hentry : disk.entry? p = none)
    (content : ByteArray) :
    ∃ disk', disk.write (root ++ p.names) content = .ok disk' ∧ disk'.resolve = disk.resolve ∧
      ∀ q entry, (q, entry) ∈ disk'.entries ↔ (q, entry) ∈ disk.entries ∨ q = p ∧ entry = .file content := by
  have hstart : (disk.resolve (root ++ p.names)).isPrefixOf root = false := by
    rw [hresolve, ← Bool.not_eq_true, List.isPrefixOf_iff_prefix]
    intro h
    have := h.length_le
    have hpos := List.length_pos_of_ne_nil p.nonempty
    rw [List.length_append] at this
    omega
  unfold write
  rw [hstart, if_neg Bool.false_ne_true]
  split
  · rename_i hnone
    rw [hresolve, below_append] at hnone
    cases hnone
  · rename_i q hq
    rw [hresolve, below_append] at hq
    obtain rfl := Option.some.inj hq
    rw [hentry]
    refine ⟨_, rfl, rfl, fun q entry => ?_⟩
    rw [put, List.mem_append, List.mem_filter, List.mem_singleton, Prod.mk.injEq]
    refine or_congr ⟨And.left, fun hq => ⟨hq, decide_eq_true fun e => ?_⟩⟩ Iff.rfl
    rw [disk.entry?_eq_none, List.mem_map] at hentry
    exact hentry ⟨_, hq, e⟩

theorem mem_rglob_iff {path : List String} {q : RelPath} {entry : Entry} :
    (q, entry) ∈ disk.rglob path ↔ ∃ p, (p, entry) ∈ disk.entries ∧ root ++ p.names = disk.resolve path ++ q.names := by
  have hbelow : ∀ p : RelPath, below (disk.resolve path) (root ++ p.names) = some q ↔ root ++ p.names = disk.resolve path ++ q.names := by
    intro p
    constructor
    · exact below_eq_some
    · intro hp
      rw [hp, below_append]
  rw [rglob, List.mem_filterMap]
  constructor
  · intro hmem
    obtain ⟨⟨p, entry'⟩, hmem, hmap⟩ := hmem
    obtain ⟨q', hq', heq⟩ := Option.map_eq_some_iff.mp hmap
    cases heq
    exact ⟨p, hmem, (hbelow p).mp hq'⟩
  · intro hmem
    obtain ⟨p, hmem, hp⟩ := hmem
    exact ⟨_, hmem, by rw [(hbelow p).mpr hp]; rfl⟩

/-- A walk from the path of `b` finds what has `b` before its names. -/
theorem mem_rglob {path : List String} {b q : RelPath} {entry : Entry} (h : disk.resolve path = root ++ b.names) :
    (q, entry) ∈ disk.rglob path ↔ (b.join q, entry) ∈ disk.entries := by
  rw [mem_rglob_iff, h]
  constructor
  · intro hmem
    obtain ⟨p, hmem, hp⟩ := hmem
    rw [List.append_assoc] at hp
    obtain rfl : p = b.join q := RelPath.ext (List.append_cancel_left hp)
    exact hmem
  · intro hmem
    exact ⟨_, hmem, (List.append_assoc _ _ _).symm⟩

theorem isSymlink_eq_false (h : ∀ e ∈ disk.entries, e.2 ≠ .symlink) (path : List String) : disk.isSymlink path = false := by
  unfold isSymlink
  split
  · rename_i hentry
    obtain ⟨p, -, hp⟩ := Option.bind_eq_some_iff.mp hentry
    exact absurd rfl (h _ (disk.entry?_eq_some.mp hp))
  · rfl

theorem file?_put (p q : RelPath) (content : ByteArray) (h : disk.resolve (root ++ p.names) = root ++ p.names) :
    (disk.put p content h).file? q = if q = p then some content else disk.file? q := by
  split
  · rename_i e
    rw [e, file?_eq_some]
    exact List.mem_append_right _ (List.mem_singleton.mpr rfl)
  · rename_i hne
    refine Option.ext fun content' => ?_
    rw [file?_eq_some, file?_eq_some, put, List.mem_append, List.mem_filter, List.mem_singleton]
    constructor
    · rintro (h | h)
      · exact h.1
      · exact absurd (congrArg Prod.fst h) hne
    · exact fun h => .inl ⟨h, decide_eq_true hne⟩

theorem resolve_of_file? {p : RelPath} {content : ByteArray} (h : disk.file? p = some content) :
    disk.resolve (root ++ p.names) = root ++ p.names := disk.resolve_file p content (disk.file?_eq_some.mp h)

theorem contentAt_of_resolve {path : List String} {p : RelPath} (h : disk.resolve path = root ++ p.names) :
    disk.contentAt path = disk.file? p := by
  rw [contentAt, h, fileAt, below_append, Option.bind_some]

theorem isDirectory_of_resolve {path : List String} {p : RelPath} (h : disk.resolve path = root ++ p.names) :
    disk.isDirectory path = true ↔ (p, .directory) ∈ disk.entries := by
  have hne : (root ++ p.names == root) = false := by
    rw [beq_eq_false_iff_ne]
    exact fun e => p.nonempty (List.append_right_eq_self.mp e)
  rw [isDirectory, h, hne, Bool.false_or, below_append, Option.bind_some, ← disk.entry?_eq_some]
  split
  · rename_i hentry
    simp [hentry]
  · rename_i hentry
    simpa using hentry

theorem fileAt_append (p : RelPath) : disk.fileAt (root ++ p.names) = disk.file? p := by
  rw [fileAt, below_append, Option.bind_some]

end Disk

/-! ## Resolving without symbolic links -/

/-- A name is followed from the directory with these names. -/
def followName (names : List String) (name : String) : List String :=
  if name = ".." then names.dropLast else if validName name then names ++ [name] else names

/-- `path.resolve()`, in the root directory and where there are no symbolic links. -/
def plainResolve (path : List String) : List String := "/" :: path.foldl followName []

theorem valid_followName {names : List String} (h : names.all validName = true) (name : String) :
    (followName names name).all validName = true := by
  unfold followName
  split
  · rw [List.all_eq_true]
    exact fun name hname => List.all_eq_true.mp h name (List.dropLast_subset _ hname)
  · split
    · rename_i hvalid
      rw [List.all_append, h, List.all_cons, hvalid]
      rfl
    · exact h

theorem valid_foldl_followName {names : List String} (h : names.all validName = true) (path : List String) :
    (path.foldl followName names).all validName = true := by
  induction path generalizing names with
  | nil => exact h
  | cons name path ih => exact ih (valid_followName h name)

theorem foldl_followName_valid {names' : List String} (h : names'.all validName = true) (names : List String) :
    names'.foldl followName names = names ++ names' := by
  induction names' generalizing names with
  | nil => exact (List.append_nil names).symm
  | cons name names' ih =>
    rw [List.all_cons, Bool.and_eq_true] at h
    have hname : followName names name = names ++ [name] := by
      rw [followName, if_neg (validName_iff.mp h.1).2.2.1, if_pos h.1]
    rw [List.foldl_cons, hname, ih h.2, List.append_assoc, List.singleton_append]

theorem plainResolve_valid (path : List String) :
    ∃ names, plainResolve path = "/" :: names ∧ names.all validName = true := ⟨_, rfl, valid_foldl_followName rfl path⟩

/-- The names of a resolved path are followed to it. -/
theorem foldl_followName_resolved {names : List String} (h : names.all validName = true) :
    ("/" :: names).foldl followName [] = names := by
  have hroot : followName [] "/" = [] := by decide
  rw [List.foldl_cons, hroot, foldl_followName_valid h, List.nil_append]

theorem plainResolve_of_valid {names : List String} (h : names.all validName = true) : plainResolve ("/" :: names) = "/" :: names := by
  rw [plainResolve, foldl_followName_resolved h]

theorem plainResolve_plainResolve (path : List String) : plainResolve (plainResolve path) = plainResolve path := by
  obtain ⟨names, hnames, hvalid⟩ := plainResolve_valid path
  rw [hnames, plainResolve_of_valid hvalid]

theorem plainResolve_append (path names : List String) : plainResolve (path ++ names) = plainResolve (plainResolve path ++ names) := by
  have hvalid : (path.foldl followName []).all validName = true := valid_foldl_followName rfl path
  have hsame : (plainResolve path).foldl followName [] = path.foldl followName [] := foldl_followName_resolved hvalid
  rw [plainResolve, plainResolve, List.foldl_append, List.foldl_append, hsame]

end Py
