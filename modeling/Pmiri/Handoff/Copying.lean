import Pmiri.Python.Comprehension
import Pmiri.Handoff.Creation

/-!
# Copying the sources

What the file system has once the sources are copied into a new directory: the
files of the bundle, each at its place, the directories that they are in, and
otherwise what there was before.
-/

namespace Pmiri

open Py

/-! ## File systems -/

/-- A file system as POSIX has it: what something is below is a directory, paths are
resolved name by name, and to themselves where no symbolic link is in the way. -/
structure Regular (fs : FileSystem) : Prop where
  parents : ∀ (p q : RelPath) entry, (p.join q, entry) ∈ fs.entries → (p, .directory) ∈ fs.entries
  absolute : ∀ path, ∃ names, fs.resolve path = "/" :: names ∧ names.all validName = true
  resolve_append : ∀ names names', names'.all validName = true →
    fs.resolve ("/" :: names ++ names') = fs.resolve (fs.resolve ("/" :: names) ++ names')
  plain : ∀ path name, fs.resolve path = path → validName name = true →
    (∀ p : RelPath, "/" :: p.names = path ++ [name] → (p, .symlink) ∉ fs.entries) → fs.resolve (path ++ [name]) = path ++ [name]

section

variable {fs : FileSystem}

theorem entry_unique {p : RelPath} {entry entry' : Entry} (h : (p, entry) ∈ fs.entries) (h' : (p, entry') ∈ fs.entries) : entry = entry' :=
  congrArg Prod.snd (List.inj_on_of_nodup_map fs.nodup h h' rfl)

namespace Regular

variable (hfs : Regular fs)

include hfs

/-- What is before a path with something at it is a directory. -/
theorem directory_before {p q : RelPath} {entry : Entry} (h : (q, entry) ∈ fs.entries) (hstart : p.names <+: q.names)
    (hne : p ≠ q) : (p, .directory) ∈ fs.entries := by
  obtain ⟨rest, hrest⟩ := hstart
  have hnonempty : rest ≠ [] := fun e => hne (RelPath.ext (by rw [← hrest, e, List.append_nil]))
  have hvalid : rest.all validName = true := by
    have hq := q.valid
    rw [← hrest, List.all_append, Bool.and_eq_true] at hq
    exact hq.2
  have hjoin : p.join ⟨rest, hnonempty, hvalid⟩ = q := RelPath.ext hrest
  exact hfs.parents p _ entry (hjoin ▸ h)

/-- Names are appended to a resolved path where no symbolic link is in the way. -/
theorem resolve_plain {path names : List String} (hpath : fs.resolve path = path) (hvalid : names.all validName = true)
    (h : ∀ p : RelPath, ∀ rest, rest <+: names → rest ≠ [] → "/" :: p.names = path ++ rest → (p, .symlink) ∉ fs.entries) :
    fs.resolve (path ++ names) = path ++ names := by
  induction names generalizing path with
  | nil => rw [List.append_nil, hpath]
  | cons name names ih =>
    rw [List.all_cons, Bool.and_eq_true] at hvalid
    have hstep : fs.resolve (path ++ [name]) = path ++ [name] := by
      refine hfs.plain path name hpath hvalid.1 fun p hp => ?_
      exact h p [name] (List.prefix_append [name] names) (List.cons_ne_nil _ _) hp
    have hrest := ih hstep hvalid.2 fun p rest hrest _ hp => by
      refine h p (name :: rest) ((List.cons_prefix_cons).mpr ⟨rfl, hrest⟩) (List.cons_ne_nil _ _) ?_
      rw [hp, List.append_assoc, List.singleton_append]
    rwa [List.append_assoc, List.singleton_append] at hrest

end Regular

end

/-! ## Sources -/

/-- A regular file with this content is at the end of the path. -/
structure FileAt (fs : FileSystem) (path : List String) (content : ByteArray) (p : RelPath) : Prop where
  resolve : fs.resolve path = "/" :: p.names
  file : (p, .file content) ∈ fs.entries

theorem contentAt_iff {fs : FileSystem} {path : List String} {content : ByteArray} :
    fs.contentAt path = some content ↔ ∃ p, FileAt fs path content p := by
  constructor
  · intro h
    obtain ⟨p, hbelow, hfile⟩ := Option.bind_eq_some_iff.mp h
    exact ⟨p, Disk.below_eq_some hbelow, (fs.file?_eq_some).mp hfile⟩
  · intro h
    obtain ⟨p, hp⟩ := h
    rw [fs.contentAt_of_resolve hp.resolve, fs.file?_eq_some]
    exact hp.file

theorem FileAt.resolve_self {fs : FileSystem} {path : List String} {content : ByteArray} {p : RelPath} (h : FileAt fs path content p) :
    fs.resolve ("/" :: p.names) = "/" :: p.names := fs.resolve_file p content h.file

section

variable [Runtime] {fs : FileSystem} {rootNames : List String}

theorem mem_sourcesBelow {root : List String} {directory source : String} :
    source ∈ sourcesBelow fs root directory ↔ ∃ (q p : RelPath) (content : ByteArray), (p, .file content) ∈ fs.entries ∧
      "/" :: p.names = fs.resolve (joinPath root directory) ++ q.names ∧ "__pycache__" ∉ joinPath root directory ++ q.names ∧
        casefold q.suffix ≠ ".pyc".toList ∧ source = directory ++ "/" ++ q.asPosix := by
  rw [sourcesBelow, List.mem_filterMap]
  constructor
  · intro h
    obtain ⟨⟨q, entry⟩, hmem, hselected⟩ := h
    cases entry with
    | file content =>
      obtain ⟨p, hp, hnames⟩ := fs.mem_rglob_iff.mp hmem
      simp only [Option.ite_none_left_eq_some, Bool.or_eq_true, not_or, List.contains_iff_mem, beq_iff_eq, Option.some.injEq] at hselected
      exact ⟨q, p, content, hp, hnames, hselected.1.1, hselected.1.2, hselected.2.symm⟩
    | directory => cases hselected
    | symlink => cases hselected
  · intro h
    obtain ⟨q, p, content, hp, hnames, hcache, hsuffix, rfl⟩ := h
    refine ⟨(q, .file content), fs.mem_rglob_iff.mpr ⟨p, hp, hnames⟩, ?_⟩
    simp only [Option.ite_none_left_eq_some, Bool.or_eq_true, not_or, List.contains_iff_mem, beq_iff_eq]
    exact ⟨⟨hcache, hsuffix⟩, trivial⟩

omit [Runtime] in
theorem mem_sorted_dedup {names : List String} {s : String} : s ∈ names.dedup.insertionSort (· ≤ ·) ↔ s ∈ names := by
  rw [List.mem_insertionSort, List.mem_dedup]

theorem collectSources_ok_iff {root sources : List String} :
    collectSources fs root = .ok sources ↔
      (∀ relative ∈ STATIC_FILES, fs.isFile (joinPath root relative) = true) ∧
      (∀ directory ∈ SOURCE_DIRECTORIES, fs.isDirectory (joinPath root directory) = true) ∧
      sources = (STATIC_FILES ++ SOURCE_DIRECTORIES.flatMap (sourcesBelow fs root)).dedup.insertionSort (· ≤ ·) := by
  unfold collectSources
  rw [seq_ok, seq_ok, forEach_ok, forEach_ok]
  simp only [raiseIf_ok, Bool.not_eq_false']
  refine and_congr_right fun _ => and_congr_right fun _ => ?_
  exact ⟨fun h => (Except.ok.inj h).symm, fun h => congrArg Except.ok h.symm⟩

theorem mem_collectSources {root sources : List String} (h : collectSources fs root = .ok sources) {source : String} :
    source ∈ sources ↔ source ∈ STATIC_FILES ∨ ∃ directory ∈ SOURCE_DIRECTORIES, source ∈ sourcesBelow fs root directory := by
  obtain ⟨-, -, hsources⟩ := collectSources_ok_iff.mp h
  rw [hsources, mem_sorted_dedup, List.mem_append, List.mem_flatMap]

/-- Every source is the path of a file that is there. -/
theorem source_found (hfs : Regular fs) {sources : List String} (h : collectSources fs ("/" :: rootNames) = .ok sources)
    {source : String} (hsource : source ∈ sources) :
    ∃ P : RelPath, source = P.asPosix ∧ ∃ content p, FileAt fs ("/" :: rootNames ++ P.names) content p := by
  rcases (mem_collectSources h).mp hsource with hstatic | ⟨directory, hdirectory, hbelow⟩
  · obtain ⟨P, -, rfl⟩ := staticFiles_eq.mp hstatic
    obtain ⟨content, hcontent⟩ := Option.isSome_iff_exists.mp ((collectSources_ok_iff.mp h).1 _ hstatic)
    rw [RelPath.joinPath_asPosix] at hcontent
    exact ⟨P, rfl, content, contentAt_iff.mp hcontent⟩
  · obtain ⟨q, p, content, hp, hnames, -, -, rfl⟩ := mem_sourcesBelow.mp hbelow
    obtain ⟨D, -, rfl⟩ := sourceDirectories_eq hdirectory
    refine ⟨D.join q, (RelPath.asPosix_join D q).symm, content, p, ?_, hp⟩
    rw [RelPath.joinPath_asPosix] at hnames
    rw [RelPath.join, ← List.append_assoc, List.cons_append, hfs.resolve_append _ _ q.valid, ← List.cons_append, ← hnames]
    exact fs.resolve_file p content hp

omit [Runtime] in
/-- No source is below another. -/
theorem source_apart (hfs : Regular fs) {P P' : RelPath} {content content' : ByteArray} {p p' : RelPath}
    (h : FileAt fs ("/" :: rootNames ++ P.names) content p) (h' : FileAt fs ("/" :: rootNames ++ P'.names) content' p')
    (hstart : P.names <+: P'.names) : P = P' := by
  by_contra hne
  obtain ⟨rest, hrest⟩ := hstart
  have hnonempty : rest ≠ [] := fun e => hne (RelPath.ext (by rw [← hrest, e, List.append_nil]))
  have hvalid : rest.all validName = true := by
    have hq := P'.valid
    rw [← hrest, List.all_append, Bool.and_eq_true] at hq
    exact hq.2
  have hnothing : ∀ (q : RelPath) entry, (q, entry) ∈ fs.entries → ∀ rest', rest' ≠ [] → "/" :: q.names ≠ "/" :: p.names ++ rest' := by
    intro q entry hq rest' hne' hnames
    have hnames : q.names = p.names ++ rest' := (List.cons.inj hnames).2
    have hpq : p ≠ q := fun e => hne' (List.append_right_eq_self.mp (by rw [← hnames, e]))
    cases entry_unique h.file (hfs.directory_before hq ⟨rest', hnames.symm⟩ hpq)
  have hresolve : fs.resolve ("/" :: rootNames ++ P'.names) = "/" :: p.names ++ rest := by
    rw [← hrest, ← List.append_assoc, List.cons_append, hfs.resolve_append _ _ hvalid, ← List.cons_append, h.resolve]
    exact hfs.resolve_plain h.resolve_self hvalid fun q rest' _ hne' hnames hq => hnothing q .symlink hq rest' hne' hnames
  exact hnothing p' _ h'.file rest hnonempty (h'.resolve.symm.trans hresolve)

end

/-! ## Files that are added -/

/-- A file system with more files, each at its path, and the directories that they are in. -/
structure Added (fs fs' : FileSystem) (files : List (RelPath × ByteArray)) : Prop where
  resolve : fs'.resolve = fs.resolve
  kept : ∀ p entry, (p, entry) ∈ fs.entries → (p, entry) ∈ fs'.entries
  there : ∀ file ∈ files, (file.1, .file file.2) ∈ fs'.entries
  new : ∀ p entry, (p, entry) ∈ fs'.entries → (p, entry) ∈ fs.entries ∨ (∃ content, (p, content) ∈ files ∧ entry = .file content) ∨
    entry = .directory ∧ ∃ file ∈ files, p.names <+: file.1.names ∧ p ≠ file.1
  made : ∀ file ∈ files, ∀ p : RelPath, p.names <+: file.1.names → p ≠ file.1 → (p, .directory) ∈ fs'.entries

theorem Added.refl (fs : FileSystem) : Added fs fs [] where
  resolve := rfl
  kept _ _ h := h
  there _ h := nomatch h
  new _ _ h := .inl h
  made _ h := nomatch h

theorem Added.symlink_iff {fs fs' : FileSystem} {files : List (RelPath × ByteArray)} (h : Added fs fs' files) {p : RelPath} :
    (p, .symlink) ∈ fs'.entries ↔ (p, .symlink) ∈ fs.entries := by
  constructor
  · intro hp
    rcases h.new p _ hp with hp | ⟨_, _, heq⟩ | ⟨heq, -⟩
    · exact hp
    · cases heq
    · cases heq
  · intro hp
    exact h.kept p _ hp

theorem Added.file_iff {fs fs' : FileSystem} {files : List (RelPath × ByteArray)} (h : Added fs fs' files) {p : RelPath}
    {content : ByteArray} : (p, .file content) ∈ fs'.entries ↔ (p, .file content) ∈ fs.entries ∨ (p, content) ∈ files := by
  constructor
  · intro hp
    rcases h.new p _ hp with hp | ⟨content', hfile, heq⟩ | ⟨heq, -⟩
    · exact .inl hp
    · cases heq
      exact .inr hfile
    · cases heq
  · intro hp
    rcases hp with hp | hp
    · exact h.kept p _ hp
    · exact h.there _ hp

theorem not_before_parent (p : RelPath) : ¬ p.names <+: p.names.dropLast := by
  intro h
  have hlength := h.length_le
  have hpos := List.length_pos_of_ne_nil p.nonempty
  rw [List.length_dropLast] at hlength
  omega

/-- A path at which a file can be added. -/
structure Free (fs : FileSystem) (files : List (RelPath × ByteArray)) (p : RelPath) : Prop where
  resolve : fs.resolve ("/" :: p.names) = "/" :: p.names
  before : ∀ q entry, (q, entry) ∈ fs.entries → q.names <+: p.names → entry = .directory ∧ q ≠ p
  apart : ∀ file ∈ files, ¬ file.1.names <+: p.names ∧ ¬ p.names <+: file.1.names

theorem Free.not_mem {fs fs' : FileSystem} {files : List (RelPath × ByteArray)} {p : RelPath} (hfree : Free fs files p)
    (h : Added fs fs' files) {entry : Entry} : (p, entry) ∉ fs'.entries := by
  intro hp
  rcases h.new p entry hp with hp | ⟨content, hfile, -⟩ | ⟨-, file, hfile, hstart, -⟩
  · exact (hfree.before p entry hp (List.prefix_refl _)).2 rfl
  · exact (hfree.apart _ hfile).1 (List.prefix_refl _)
  · exact (hfree.apart file hfile).2 hstart

theorem before_parent {p q : RelPath} (h : p.names <+: q.names) (hne : p ≠ q) : p.names <+: q.names.dropLast := by
  obtain ⟨rest, hrest⟩ := h
  have hnonempty : rest ≠ [] := fun e => hne (RelPath.ext (by rw [← hrest, e, List.append_nil]))
  rw [← hrest, List.dropLast_append_of_ne_nil hnonempty]
  exact List.prefix_append _ _

/-- A file is written to a free path, when the directories on the way are made. -/
theorem Added.put {fs fs' made : FileSystem} {files : List (RelPath × ByteArray)} (h : Added fs fs' files) {p : RelPath}
    (hfree : Free fs files p) (content : ByteArray) (hresolve : made.resolve = fs'.resolve)
    (hentries : ∀ q entry, (q, entry) ∈ made.entries ↔
      (q, entry) ∈ fs'.entries ∨ q.names <+: p.names.dropLast ∧ entry = .directory ∧ q ∉ fs'.entries.map Prod.fst) :
    ∃ copied, made.write ("/" :: p.names) content = .ok copied ∧ Added fs copied ((p, content) :: files) := by
  have hself : made.resolve (["/"] ++ p.names) = ["/"] ++ p.names := by
    rw [hresolve, h.resolve]
    exact hfree.resolve
  have hnone : made.entry? p = none := by
    rw [made.entry?_eq_none, List.mem_map]
    intro hp
    obtain ⟨⟨q, entry⟩, hq, heq⟩ := hp
    obtain rfl : q = p := heq
    rcases (hentries q entry).mp hq with hq | ⟨hstart, -⟩
    · exact hfree.not_mem h hq
    · exact not_before_parent q hstart
  obtain ⟨copied, hcopied, hresolve', hentries'⟩ := made.write_new hself hnone content
  refine ⟨copied, hcopied, ?_, ?_, ?_, ?_, ?_⟩
  · rw [hresolve', hresolve, h.resolve]
  · intro q entry hq
    exact (hentries' q entry).mpr (.inl ((hentries q entry).mpr (.inl (h.kept q entry hq))))
  · intro file hmem
    rcases List.mem_cons.mp hmem with rfl | hmem
    · exact (hentries' p _).mpr (.inr ⟨rfl, rfl⟩)
    · exact (hentries' _ _).mpr (.inl ((hentries _ _).mpr (.inl (h.there file hmem))))
  · intro q entry hq
    rcases (hentries' q entry).mp hq with hq | ⟨rfl, rfl⟩
    · rcases (hentries q entry).mp hq with hq | ⟨hstart, hdirectory, -⟩
      · rcases h.new q entry hq with hq | ⟨content', hmem, heq⟩ | ⟨hdirectory, file, hmem, hstart, hne⟩
        · exact .inl hq
        · exact .inr (.inl ⟨content', List.mem_cons_of_mem _ hmem, heq⟩)
        · exact .inr (.inr ⟨hdirectory, file, List.mem_cons_of_mem _ hmem, hstart, hne⟩)
      · refine .inr (.inr ⟨hdirectory, (p, content), List.mem_cons_self, hstart.trans (List.dropLast_prefix _), ?_⟩)
        rintro rfl
        exact not_before_parent q hstart
    · exact .inr (.inl ⟨content, List.mem_cons_self, rfl⟩)
  · intro file hmem q hstart hne
    refine (hentries' q .directory).mpr (.inl ((hentries q .directory).mpr ?_))
    rcases List.mem_cons.mp hmem with rfl | hmem
    · by_cases hkey : q ∈ fs'.entries.map Prod.fst
      · obtain ⟨⟨q', entry⟩, hq, heq⟩ := List.mem_map.mp hkey
        obtain rfl : q' = q := heq
        rcases h.new q' entry hq with hbefore | ⟨content', hfile, -⟩ | ⟨rfl, -⟩
        · obtain ⟨rfl, -⟩ := hfree.before q' entry hbefore hstart
          exact .inl hq
        · exact absurd hstart (hfree.apart _ hfile).1
        · exact .inl hq
      · exact .inr ⟨before_parent hstart hne, rfl, hkey⟩
    · exact .inl (h.made file hmem q hstart hne)

/-- A file is copied to a free path, and the directories on the way are made. -/
theorem Added.write {fs fs' : FileSystem} {files : List (RelPath × ByteArray)} (h : Added fs fs' files) {p : RelPath}
    (hfree : Free fs files p) (content : ByteArray) :
    ∃ made, fs'.makeDirectories ("/" :: p.names).dropLast = .ok made ∧ (∀ path, made.contentAt path = fs'.contentAt path) ∧
      ∃ copied, made.write ("/" :: p.names) content = .ok copied ∧ Added fs copied ((p, content) :: files) := by
  have hparent : ("/" :: p.names).dropLast = ["/"] ++ p.names.dropLast := List.dropLast_cons_of_ne_nil p.nonempty
  have hvalid : p.names.dropLast.all validName = true := by
    rw [List.all_eq_true]
    exact fun name hname => List.all_eq_true.mp p.valid name (List.dropLast_subset _ hname)
  have hway : ∀ q entry, (q, entry) ∈ fs'.entries → ["/"] ++ q.names <+: ["/"] ++ p.names.dropLast → entry = .directory := by
    intro q entry hq hstart
    have hstart := ((List.prefix_append_right_inj _).mp hstart).trans (List.dropLast_prefix _)
    rcases h.new q entry hq with hq | ⟨content, hfile, -⟩ | ⟨hdirectory, -⟩
    · exact (hfree.before q entry hq hstart).1
    · exact absurd hstart (hfree.apart _ hfile).1
    · exact hdirectory
  obtain ⟨made, hmade⟩ := fs'.exists_makeDirectories hway
  obtain ⟨hresolve, hentries⟩ := fs'.makeDirectories_ok hvalid hmade
  have hfile : ∀ q content, (q, .file content) ∈ made.entries ↔ (q, .file content) ∈ fs'.entries := by
    intro q content
    rw [hentries]
    refine ⟨fun hq => hq.elim id fun hq => ?_, .inl⟩
    cases hq.2.1
  have hcontent : ∀ path, made.contentAt path = fs'.contentAt path := by
    intro path
    refine Option.ext fun content => ?_
    rw [contentAt_iff, contentAt_iff]
    refine exists_congr fun q => ⟨fun hq => ⟨?_, (hfile q content).mp hq.file⟩, fun hq => ⟨?_, (hfile q content).mpr hq.file⟩⟩
    · rw [← hresolve, hq.resolve]
    · rw [hresolve, hq.resolve]
  exact ⟨made, hparent ▸ hmade, hcontent, h.put hfree content hresolve hentries⟩

theorem FileAt.added {fs fs' : FileSystem} {files : List (RelPath × ByteArray)} (h : Added fs fs' files) {path : List String}
    {content : ByteArray} {p : RelPath} (hp : FileAt fs path content p) : FileAt fs' path content p :=
  ⟨by rw [h.resolve, hp.resolve], h.kept p _ hp.file⟩

/-! ## A new destination -/

/-- The place of a source in a bundle. -/
def placeOf (dest P : RelPath) : RelPath := dest.join (payloadName.join P)

theorem placeOf_before_iff {dest P P' : RelPath} : (placeOf dest P).names <+: (placeOf dest P').names ↔ P.names <+: P'.names := by
  show dest.names ++ (payloadName.names ++ P.names) <+: dest.names ++ (payloadName.names ++ P'.names) ↔ _
  rw [List.prefix_append_right_inj, List.prefix_append_right_inj]

/-- There is nothing at a path or below it, and nothing but directories before it. -/
structure NewAt (fs : FileSystem) (dest : RelPath) : Prop where
  resolve : fs.resolve ("/" :: dest.names) = "/" :: dest.names
  before : ∀ p entry, (p, entry) ∈ fs.entries → p.names <+: dest.names → entry = .directory
  nothing : ∀ p entry, (p, entry) ∈ fs.entries → ¬ dest.names <+: p.names

theorem NewAt.free {fs : FileSystem} (hfs : Regular fs) {dest : RelPath} (h : NewAt fs dest) {files : List (RelPath × ByteArray)}
    (p : RelPath) (hapart : ∀ file ∈ files, ¬ file.1.names <+: (dest.join p).names ∧ ¬ (dest.join p).names <+: file.1.names) :
    Free fs files (dest.join p) where
  resolve := by
    have hself := hfs.resolve_plain h.resolve p.valid fun q rest _ _ hq hmem =>
      h.nothing q .symlink hmem ⟨rest, (List.cons.inj hq).2.symm⟩
    exact hself
  before q entry hq hstart := by
    have hdest : dest.names <+: (dest.join p).names := List.prefix_append _ _
    rcases List.prefix_or_prefix_of_prefix hstart hdest with hbefore | hbelow
    · refine ⟨h.before q entry hq hbefore, ?_⟩
      rintro rfl
      exact h.nothing _ entry hq hdest
    · exact absurd hbelow (h.nothing q entry hq)
  apart := hapart

section

variable [Runtime] {fs : FileSystem} {rootNames : List String} {dest : RelPath}

/-- The entry of a source with this content. -/
def sourceEntry (source : RelPath × ByteArray) : Dict :=
  handoffEntry source.1.asPosix ("payload/" ++ source.1.asPosix) (handoffRole source.1.asPosix) source.2

/-- Each source is the content of a file, and none is below another. -/
structure Sources (fs : FileSystem) (rootNames : List String) (sources : List (RelPath × ByteArray)) : Prop where
  found : ∀ source ∈ sources, ∃ p, FileAt fs ("/" :: rootNames ++ source.1.names) source.2 p
  nodup : (sources.map Prod.fst).Nodup

theorem copySources_ok (hfs : Regular fs) (hdest : NewAt fs dest) {sources : List (RelPath × ByteArray)}
    (hsources : Sources fs rootNames sources) {fs' : FileSystem} {files : List (RelPath × ByteArray)} (hadded : Added fs fs' files)
    (hfiles : ∀ file ∈ files, ∃ P, file.1 = placeOf dest P ∧ ∀ source ∈ sources, ¬ P.names <+: source.1.names ∧ ¬ source.1.names <+: P.names) :
    ∃ fs'' files', copySources ("/" :: rootNames) ("/" :: dest.names ++ ["payload"]) (sources.map (·.1.asPosix)) fs' =
        (.ok (sources.map sourceEntry), fs'') ∧ Added fs fs'' files' ∧
      ∀ file, file ∈ files' ↔ file ∈ files ∨ ∃ source ∈ sources, file = (placeOf dest source.1, source.2) := by
  induction sources generalizing fs' files with
  | nil => exact ⟨fs', files, rfl, hadded, fun file => by simp⟩
  | cons source sources ih =>
    obtain ⟨P, content⟩ := source
    obtain ⟨p, hp⟩ := hsources.found _ List.mem_cons_self
    have hapart : ∀ file ∈ files, ¬ file.1.names <+: (placeOf dest P).names ∧ ¬ (placeOf dest P).names <+: file.1.names := by
      intro file hfile
      obtain ⟨P', heq, hP'⟩ := hfiles file hfile
      rw [heq, placeOf_before_iff, placeOf_before_iff]
      exact hP' _ List.mem_cons_self
    have hfree : Free fs files (placeOf dest P) := hdest.free hfs (payloadName.join P) hapart
    obtain ⟨made, hmade, hread, copied, hcopied, hadded'⟩ := hadded.write hfree content
    have hpath : joinPath ("/" :: dest.names ++ ["payload"]) P.asPosix = "/" :: (placeOf dest P).names := by
      rw [RelPath.joinPath_asPosix, List.append_assoc]
      rfl
    have hsource : made.contentAt (joinPath ("/" :: rootNames) P.asPosix) = some content := by
      rw [hread, RelPath.joinPath_asPosix, contentAt_iff]
      exact ⟨p, hp.added hadded⟩
    have hback : copied.contentAt ("/" :: (placeOf dest P).names) = some content := by
      rw [contentAt_iff]
      exact ⟨placeOf dest P, hadded'.resolve ▸ hfree.resolve, hadded'.there _ List.mem_cons_self⟩
    have hrest : ∀ file ∈ (placeOf dest P, content) :: files, ∃ P', file.1 = placeOf dest P' ∧
        ∀ source ∈ sources, ¬ P'.names <+: source.1.names ∧ ¬ source.1.names <+: P'.names := by
      intro file hfile
      rcases List.mem_cons.mp hfile with rfl | hfile
      · refine ⟨P, rfl, fun source hsource => ?_⟩
        obtain ⟨p', hp'⟩ := hsources.found source (List.mem_cons_of_mem _ hsource)
        have hne : P ≠ source.1 := fun e => (List.nodup_cons.mp hsources.nodup).1 (List.mem_map.mpr ⟨source, hsource, e.symm⟩)
        exact ⟨fun h => hne (source_apart hfs hp hp' h), fun h => hne (source_apart hfs hp' hp h).symm⟩
      · obtain ⟨P', heq, hP'⟩ := hfiles file hfile
        exact ⟨P', heq, fun source hsource => hP' source (List.mem_cons_of_mem _ hsource)⟩
    obtain ⟨fs'', files', hcopy, hadded'', hmem⟩ := ih ⟨fun s hs => hsources.found s (List.mem_cons_of_mem _ hs),
      (List.nodup_cons.mp hsources.nodup).2⟩ hadded' hrest
    refine ⟨fs'', files', ?_, hadded'', fun file => ?_⟩
    · rw [List.map_cons, copySources]
      simp only [hpath, hmade, hsource, hcopied, hback, hcopy]
      rfl
    · rw [hmem, List.mem_cons, List.exists_mem_cons_iff]
      tauto

theorem exists_sources (hfs : Regular fs) {names : List String} (h : collectSources fs ("/" :: rootNames) = .ok names) :
    ∃ sources, Sources fs rootNames sources ∧ names = sources.map (·.1.asPosix) := by
  have hall : ∀ name ∈ names, ∃ source : RelPath × ByteArray, name = source.1.asPosix ∧
      ∃ p, FileAt fs ("/" :: rootNames ++ source.1.names) source.2 p := by
    intro name hname
    obtain ⟨P, rfl, content, p, hp⟩ := source_found hfs h hname
    exact ⟨(P, content), rfl, p, hp⟩
  obtain ⟨sources, hsources⟩ := exists_forall₂ hall
  have hmap : names = sources.map (·.1.asPosix) := by
    clear hall h
    induction hsources with
    | nil => rfl
    | cons hsource _ ih => rw [List.map_cons, ← ih, ← hsource.1]
  refine ⟨sources, ⟨fun source hsource => ?_, ?_⟩, hmap⟩
  · obtain ⟨name, -, -, hfound⟩ := exists_of_forall₂ hsources hsource
    exact hfound
  · have hnodup : names.Nodup := by
      rw [(collectSources_ok_iff.mp h).2.2, (List.perm_insertionSort _ _).nodup_iff]
      exact List.nodup_dedup _
    rw [hmap] at hnodup
    refine List.Nodup.of_map RelPath.asPosix ?_
    rw [List.map_map]
    exact hnodup

/-! ## What the second inventory finds -/

/-- A file of the bundle at this destination is found by the second inventory. -/
def SeenAt (fs : FileSystem) (root : List String) (dest : List String) : Prop :=
  ∃ directory ∈ SOURCE_DIRECTORIES, ∃ rest, dest = fs.resolve (joinPath root directory) ++ rest ∧
    "__pycache__" ∉ joinPath root directory ++ rest

def manifestName : RelPath := ⟨["handoff-manifest.json"], by decide, by decide⟩

theorem suffix_manifest {q : RelPath} (h : q.name = "handoff-manifest.json") : casefold q.suffix ≠ ".pyc".toList := by
  have hsuffix : q.suffix = ".json".toList := by
    rw [RelPath.suffix, h]
    decide
  have hfold : casefold ".json".toList = ".json".toList := rfl
  rw [hsuffix, hfold]
  decide

/-- A file system with a bundle at the destination, and nothing else that is new. -/
structure Bundled (fs fs' : FileSystem) (dest : RelPath) (sources : List (RelPath × ByteArray)) (manifest : ByteArray)
    (files : List (RelPath × ByteArray)) : Prop where
  added : Added fs fs' files
  mem_files : ∀ file, file ∈ files ↔ file = (dest.join manifestName, manifest) ∨
    ∃ source ∈ sources, file = (placeOf dest source.1, source.2)

namespace Bundled

variable {fs' : FileSystem} {sources : List (RelPath × ByteArray)} {manifest : ByteArray} {files : List (RelPath × ByteArray)}

omit [Runtime] in
theorem below (h : Bundled fs fs' dest sources manifest files) {file : RelPath × ByteArray} (hfile : file ∈ files) :
    dest.names <+: file.1.names := by
  rcases (h.mem_files file).mp hfile with rfl | ⟨source, -, rfl⟩ <;> exact List.prefix_append _ _

omit [Runtime] in
theorem file_iff (h : Bundled fs fs' dest sources manifest files) {p : RelPath} {content : ByteArray} (hp : ¬ dest.names <+: p.names) :
    (p, .file content) ∈ fs'.entries ↔ (p, .file content) ∈ fs.entries := by
  rw [h.added.file_iff]
  exact ⟨fun hmem => hmem.elim id fun hmem => absurd (h.below hmem) hp, .inl⟩

omit [Runtime] in
theorem isSymlink (h : Bundled fs fs' dest sources manifest files) (path : List String) : fs'.isSymlink path = fs.isSymlink path := by
  have hiff : ∀ fs : FileSystem, fs.isSymlink path = true ↔
      ∃ p : RelPath, "/" :: p.names = fs.resolve path.dropLast ++ path.getLast?.toList ∧ (p, .symlink) ∈ fs.entries := by
    intro fs
    rw [Disk.isSymlink]
    constructor
    · intro hlink
      split at hlink
      · rename_i hentry
        obtain ⟨p, hbelow, hp⟩ := Option.bind_eq_some_iff.mp hentry
        exact ⟨p, (Disk.below_eq_some hbelow).symm, fs.entry?_eq_some.mp hp⟩
      · cases hlink
    · intro hlink
      obtain ⟨p, hpath, hp⟩ := hlink
      have hbelow : Disk.below ["/"] ("/" :: p.names) = some p := Disk.below_append p
      rw [← hpath, hbelow, Option.bind_some, fs.entry?_eq_some.mpr hp]
  rw [Bool.eq_iff_iff, hiff, hiff, h.added.resolve]
  simp only [h.added.symlink_iff]

theorem collect (h : Bundled fs fs' dest sources manifest files) {root names : List String} (hcollect : collectSources fs root = .ok names) :
    ∃ names', collectSources fs' root = .ok names' := by
  obtain ⟨hfiles, hdirectories, -⟩ := collectSources_ok_iff.mp hcollect
  refine ⟨_, collectSources_ok_iff.mpr ⟨fun relative hrelative => ?_, fun directory hdirectory => ?_, rfl⟩⟩
  · obtain ⟨content, hcontent⟩ := Option.isSome_iff_exists.mp (hfiles relative hrelative)
    obtain ⟨p, hp⟩ := contentAt_iff.mp hcontent
    rw [Disk.isFile, contentAt_iff.mpr ⟨p, hp.added h.added⟩]
    rfl
  · have hdir := hdirectories directory hdirectory
    unfold Disk.isDirectory at hdir ⊢
    rw [h.added.resolve]
    rw [Bool.or_eq_true] at hdir ⊢
    refine hdir.imp_right fun hentry => ?_
    split at hentry
    · rename_i hsome
      obtain ⟨p, hbelow, hp⟩ := Option.bind_eq_some_iff.mp hsome
      rw [hbelow, Option.bind_some, fs'.entry?_eq_some.mpr (h.added.kept p _ (fs.entry?_eq_some.mp hp))]
    · cases hentry

theorem sourcesBelow_mono (h : Bundled fs fs' dest sources manifest files) {root : List String} {directory source : String}
    (hsource : source ∈ sourcesBelow fs root directory) : source ∈ sourcesBelow fs' root directory := by
  obtain ⟨q, p, content, hp, hnames, hcache, hsuffix, rfl⟩ := mem_sourcesBelow.mp hsource
  exact mem_sourcesBelow.mpr ⟨q, p, content, h.added.kept p _ hp, h.added.resolve ▸ hnames, hcache, hsuffix, rfl⟩

/-- Where no file of the bundle is seen, the second inventory is the first. -/
theorem mem_collect_of_unseen (hdest : NewAt fs dest) (h : Bundled fs fs' dest sources manifest files)
    {root names names' : List String} (hcollect : collectSources fs root = .ok names) (hcollect' : collectSources fs' root = .ok names')
    (hunseen : ¬ SeenAt fs root ("/" :: dest.names)) (source : String) : source ∈ names ↔ source ∈ names' := by
  rw [mem_collectSources hcollect, mem_collectSources hcollect']
  refine or_congr Iff.rfl (exists_congr fun directory => and_congr_right fun hdirectory => ?_)
  constructor
  · exact h.sourcesBelow_mono
  · intro hsource
    obtain ⟨q, p, content, hp, hnames, hcache, hsuffix, rfl⟩ := mem_sourcesBelow.mp hsource
    rw [h.added.resolve] at hnames
    by_cases hbelow : dest.names <+: p.names
    · exfalso
      have hfirst : "/" :: dest.names <+: "/" :: p.names := (List.prefix_cons_inj "/").mpr hbelow
      have hsecond : fs.resolve (joinPath root directory) <+: "/" :: p.names := ⟨q.names, hnames.symm⟩
      rcases List.prefix_or_prefix_of_prefix hfirst hsecond with hinside | houtside
      · -- the source directory would be in the destination
        have hdir := (collectSources_ok_iff.mp hcollect).2.1 directory hdirectory
        rw [Disk.isDirectory, Bool.or_eq_true] at hdir
        rcases hdir with hroot | hentry
        · rw [beq_iff_eq.mp hroot] at hinside
          exact dest.nonempty (List.prefix_nil.mp ((List.prefix_cons_inj "/").mp hinside))
        · split at hentry
          · rename_i hsome
            obtain ⟨D, hD, hentry⟩ := Option.bind_eq_some_iff.mp hsome
            rw [Disk.below_eq_some hD] at hinside
            exact hdest.nothing D _ (fs.entry?_eq_some.mp hentry) ((List.prefix_cons_inj "/").mp hinside)
          · cases hentry
      · obtain ⟨rest, hrest⟩ := houtside
        refine hunseen ⟨directory, hdirectory, rest, hrest.symm, fun hmem => hcache ?_⟩
        have hstart : rest <+: q.names := by
          rw [← hrest, hnames] at hfirst
          exact (List.prefix_append_right_inj _).mp hfirst
        rcases List.mem_append.mp hmem with hmem | hmem
        · exact List.mem_append_left _ hmem
        · exact List.mem_append_right _ (hstart.subset hmem)
    · exact mem_sourcesBelow.mpr ⟨q, p, content, (h.file_iff hbelow).mp hp, hnames, hcache, hsuffix, rfl⟩

/-- Where the bundle is seen, its manifest is collected as a source. -/
theorem collect_of_seen (hfs : Regular fs) (h : Bundled fs fs' dest sources manifest files) {root names' : List String}
    (hcollect' : collectSources fs' root = .ok names') (hseen : SeenAt fs root ("/" :: dest.names)) :
    ∃ directory ∈ SOURCE_DIRECTORIES, ∃ q : RelPath, directory ++ "/" ++ q.asPosix ∈ names' ∧
      fs.resolve (joinPath root directory) ++ q.names = "/" :: (dest.join manifestName).names := by
  obtain ⟨directory, hdirectory, rest, hrest, hcache⟩ := hseen
  obtain ⟨names, hnames, -⟩ := hfs.absolute (joinPath root directory)
  have hvalid : rest.all validName = true := by
    have hdest := dest.valid
    rw [hnames, List.cons_append] at hrest
    rw [(List.cons.inj hrest).2, List.all_append, Bool.and_eq_true] at hdest
    exact hdest.2
  let q : RelPath := ⟨rest ++ ["handoff-manifest.json"], by simp, by rw [List.all_append, hvalid]; decide⟩
  have hpath : fs.resolve (joinPath root directory) ++ q.names = "/" :: (dest.join manifestName).names := by
    show fs.resolve (joinPath root directory) ++ (rest ++ ["handoff-manifest.json"]) = "/" :: (dest.names ++ ["handoff-manifest.json"])
    rw [← List.append_assoc, ← hrest]
    rfl
  refine ⟨directory, hdirectory, q, (mem_collectSources hcollect').mpr (.inr ⟨directory, hdirectory, mem_sourcesBelow.mpr ?_⟩), hpath⟩
  refine ⟨q, dest.join manifestName, manifest, ?_, ?_, ?_, ?_, rfl⟩
  · exact h.added.there _ ((h.mem_files _).mpr (.inl rfl))
  · rw [h.added.resolve, hpath]
  · show "__pycache__" ∉ joinPath root directory ++ (rest ++ ["handoff-manifest.json"])
    rw [← List.append_assoc, List.mem_append, not_or]
    exact ⟨hcache, by decide⟩
  · exact suffix_manifest (List.getLast_append_singleton _)

end Bundled

end

end Pmiri
