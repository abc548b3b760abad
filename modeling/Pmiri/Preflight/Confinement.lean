import Pmiri.Preflight.Declarations
import Pmiri.Python.Sha256

/-!
# Member names and places

What becomes of a member that is declared: the name it is known by, the place it
is looked for at, and the other members it is told from. A direct member is looked
for at its path as it is written, where backslashes are characters like others; the
name it is known by takes them for separators.
-/

namespace Pmiri

open Py Walks

/-- Two direct members are at one place, whatever the directory is. -/
def AtOnePlace (p q : String) : Prop := ∀ baseDir, plainResolve (directPlace baseDir p) = plainResolve (directPlace baseDir q)

/-- A direct member is looked for below the directory, whatever it is. -/
def StaysInside (p : String) : Prop := ∀ baseDir, plainResolve baseDir <+: plainResolve (directPlace baseDir p)

/-- No manifest that declares both paths, in one place each, is accepted. -/
def NeverBoth [Runtime] (declared : Val → List String) (p q : String) : Prop :=
  ∀ files baseDir manifest reason, [p, q].Subperm (declared manifest) →
    verifyDeclaredMembers files baseDir (some manifest) ≠ .ok (true, reason)

/-- Files outside the directory do not matter for manifests with this direct member only. -/
def Confined [Runtime] (p : String) : Prop :=
  ∀ files files' baseDir manifest, AgreeInside files files' baseDir → (∀ relative ∈ directPaths manifest, relative = p) →
    verifyDeclaredMembers files baseDir (some manifest) = verifyDeclaredMembers files' baseDir (some manifest)

/-! ## Places -/

theorem exists_length_le (used : List String) : ∃ n, ∀ name ∈ used, name.length ≤ n := by
  induction used with
  | nil => exact ⟨0, nofun⟩
  | cons name used ih =>
    obtain ⟨n, hn⟩ := ih
    refine ⟨max name.length n, List.forall_mem_cons.mpr ⟨Nat.le_max_left _ _, ?_⟩⟩
    intro name' h
    exact (hn name' h).trans (Nat.le_max_right _ _)

/-- There are always further names. -/
theorem exists_validName (used : List String) : ∃ name, validName name = true ∧ name ∉ used := by
  obtain ⟨n, hn⟩ := exists_length_le used
  refine ⟨String.ofList (List.replicate (n + 1) 'a'), ?_, fun h => ?_⟩
  · have hslash : '/' ∉ List.replicate (n + 1) 'a' := fun h => absurd (List.eq_of_mem_replicate h) (by decide)
    rw [validName_ofList]
    refine ⟨List.cons_ne_nil _ _, ?_, ?_, hslash⟩
    · exact fun e => absurd (List.cons.inj e).1 (by decide)
    · exact fun e => absurd (List.cons.inj e).1 (by decide)
  · have hlength := hn _ h
    rw [String.length_ofList, List.length_replicate] at hlength
    exact Nat.not_succ_le_self n hlength

theorem foldl_followName_anchored {names : List String} (h : ∀ name ∈ names, validName name = true) :
    ("/" :: names).foldl followName [] = names :=
  foldl_followName_resolved (List.all_eq_true.mpr h)

variable {p q : String}

theorem head?_of_opensRelative (h : OpensRelative p) : p.toList.head? ≠ some '/' := by
  intro hhead
  refine h.1 ?_
  rw [forwardSlashes, PurePath.replaceChar, List.head?_map, hhead]
  rfl

theorem atOnePlace_iff (hp : OpensRelative p) (hq : OpensRelative q) :
    AtOnePlace p q ↔ Walks.walk (slashSteps p.toList) = Walks.walk (slashSteps q.toList) := by
  simp only [AtOnePlace, directPlace, plainResolve_joinPath (head?_of_opensRelative hp),
    plainResolve_joinPath (head?_of_opensRelative hq)]
  constructor
  · intro h
    refine (eq_iff_namesFrom exists_validName).mp fun names hnames => ?_
    have hnames' := (List.cons.inj (h ("/" :: names))).2
    rwa [foldl_followName_anchored hnames] at hnames'
  · intro h baseDir
    rw [h]

theorem staysInside_iff (hp : OpensRelative p) : StaysInside p ↔ ¬ Climbs (slashSteps p.toList) := by
  simp only [StaysInside, directPlace, plainResolve_joinPath (head?_of_opensRelative hp)]
  rw [← walk_above, ← prefix_namesFrom_iff exists_validName]
  constructor
  · intro h names hnames
    have hstart := h ("/" :: names)
    rwa [plainResolve, foldl_followName_anchored hnames, List.cons_prefix_cons, and_iff_right rfl] at hstart
  · intro h baseDir
    rw [plainResolve, List.cons_prefix_cons]
    exact ⟨rfl, h _ (List.all_eq_true.mp (valid_foldl_followName rfl baseDir))⟩

/-- Two accepted paths are known by one name if they lead to one place with both separators. -/
theorem safeMemberName_eq_iff {name name' : String} (hp : safeMemberName p = some name) (hq : safeMemberName q = some name') :
    name = name' ↔ Walks.walk (memberSteps p) = Walks.walk (memberSteps q) := by
  obtain ⟨-, path, hpath, rfl⟩ := safeMemberName_eq_some.mp hp
  obtain ⟨-, path', hpath', rfl⟩ := safeMemberName_eq_some.mp hq
  rw [walk_eq_below.mpr hpath, walk_eq_below.mpr hpath']
  constructor
  · intro h
    rw [RelPath.asPosix_inj h]
  · intro h
    have hnames : path.names = path'.names := congrArg Place.below h
    rw [RelPath.ext hnames]

/-- Paths without backslashes are looked for where their names say. -/
theorem memberSteps_of_not_mem (h : '\\' ∉ p.toList) : memberSteps p = slashSteps p.toList := by
  rw [memberSteps, forwardSlashes_of_not_mem h]

/-! ## Manifests that are accepted -/

theorem directPaths_sublist (manifest : Val) : (directPaths manifest).Sublist (declaredPaths manifest) := by
  unfold directPaths declaredPaths
  split
  · exact (List.sublist_append_left _ _).filterMap memberPath
  · exact List.Sublist.refl _

section

variable [Runtime]

def directMember (content : ByteArray) (path : String) : Val :=
  .dict [("path", .str path), ("sha256", .str (sha256Bytes content))]

/-- A manifest that declares these paths, next to it. -/
def directManifest (content : ByteArray) (paths : List String) : Val :=
  .dict [("candidate_members", .list (paths.map (directMember content)))]

/-- There is a file with this content wherever one is looked for. -/
def filesEverywhere (content : ByteArray) : MemberFiles where
  isFile _ := false
  pathExists _ := true
  readBytes _ := .ok content
  openZip _ := none

variable {content : ByteArray}

@[simp] theorem memberPath_directMember (path : String) : memberPath (directMember content path) = some path := rfl

@[simp] theorem memberHash_directMember (path : String) : memberHash (directMember content path) = .str (sha256Bytes content) := rfl

theorem manifestParts_directManifest (paths : List String) :
    manifestParts (directManifest content paths) = .ok (paths.map (directMember content), []) := rfl

theorem filterMap_memberPath (paths : List String) : (paths.map (directMember content)).filterMap memberPath = paths := by
  rw [List.filterMap_map]
  exact List.filterMap_some

theorem directPaths_directManifest (paths : List String) : directPaths (directManifest content paths) = paths := by
  simp only [directPaths, manifestParts_directManifest, filterMap_memberPath]

theorem foldlM_declareMember {paths names : List String} (hnames : paths.map safeMemberName = names.map some) (declared : List String)
    (hnodup : (names.reverse ++ declared).Nodup) :
    (paths.map (directMember content)).foldlM declareMember declared = .ok (names.reverse ++ declared) := by
  induction paths generalizing names declared with
  | nil =>
    obtain rfl : names = [] := List.map_eq_nil_iff.mp hnames.symm
    rfl
  | cons path paths ih =>
    cases names with
    | nil => cases hnames
    | cons name names =>
      obtain ⟨hname, hnames⟩ := List.cons.inj hnames
      rw [List.reverse_cons, List.append_assoc, List.singleton_append] at hnodup ⊢
      have hnew : name ∉ declared := (List.nodup_cons.mp (List.nodup_append.mp hnodup).2.1).1
      have hround : declareMember declared (directMember content path) = .ok (name :: declared) := by
        simp only [declareMember, memberPath_directMember, newMember_ok.mpr ⟨hname, hnew⟩, ok_bind]
        rfl
      rw [List.map_cons, List.foldlM_cons, hround, ok_bind, ih hnames _ hnodup]

theorem foldlM_checkDirectMember (baseDir : List String) (paths : List String) (found : Findings) :
    (paths.map (directMember content)).foldlM (checkDirectMember (filesEverywhere content) baseDir) found = .ok found := by
  induction paths generalizing found with
  | nil => rfl
  | cons path paths ih =>
    have hround : checkDirectMember (filesEverywhere content) baseDir found (directMember content path) = .ok found := by
      simp [checkDirectMember, rejectIf, filesEverywhere, Val.eq_refl, pure, Except.pure]
    rw [List.map_cons, List.foldlM_cons, hround, ok_bind, ih]

/-- Paths with names of their own are accepted where the files are there. -/
theorem verify_directManifest (baseDir : List String) {paths names : List String}
    (hnames : paths.map safeMemberName = names.map some) (hnodup : names.Nodup) :
    verifyDeclaredMembers (filesEverywhere content) baseDir (some (directManifest content paths)) =
      .ok (true, "all_manifest_member_hashes_match") := by
  have hdeclared : (paths.map (directMember content)).foldlM declareMember [] = .ok (names.reverse ++ []) :=
    foldlM_declareMember hnames [] (by rw [List.append_nil, List.nodup_reverse]; exact hnodup)
  simp only [verifyDeclaredMembers, manifestParts_directManifest, ok_bind, checkMembers, hdeclared, List.foldlM_nil,
    foldlM_checkDirectMember, pure_bind]
  rfl

/-! ## Exactness -/

/-- Paths known by one name are not accepted together, wherever they are declared. -/
theorem neverBoth_of_same_name (h : safeMemberName p = safeMemberName q) : NeverBoth declaredPaths p q := by
  intro files baseDir manifest reason hboth haccepted
  obtain ⟨paths, hperm, hsub⟩ := hboth
  have hnodup := (nodup_declaredPaths haccepted).sublist (hsub.map safeMemberName)
  rw [(hperm.map safeMemberName).nodup_iff, List.map_cons, List.map_singleton, h] at hnodup
  exact (List.nodup_cons.mp hnodup).1 (List.mem_singleton_self _)

/-- Two direct members known by two names are accepted together, where the files are there. -/
theorem neverBoth_iff {name name' : String} (hp : safeMemberName p = some name) (hq : safeMemberName q = some name') :
    NeverBoth directPaths p q ↔ name = name' := by
  constructor
  · intro h
    by_contra hne
    have hnames : [p, q].map safeMemberName = [name, name'].map some := by
      rw [List.map_cons, List.map_singleton, hp, hq]
      rfl
    have hnodup : [name, name'].Nodup :=
      List.nodup_cons.mpr ⟨fun hmem => hne (List.mem_singleton.mp hmem), List.nodup_singleton _⟩
    refine h (filesEverywhere ByteArray.empty) [] (directManifest ByteArray.empty [p, q]) _ ?_ (verify_directManifest [] hnames hnodup)
    rw [directPaths_directManifest]
  · intro h files baseDir manifest reason hboth
    exact neverBoth_of_same_name (hp.trans (h ▸ hq.symm)) files baseDir manifest reason
      (hboth.trans (directPaths_sublist manifest).subperm)

/-- The files there are, without those outside a directory. -/
def filesInside (content : ByteArray) (baseDir : List String) : MemberFiles :=
  { filesEverywhere content with pathExists := fun path => (plainResolve baseDir).isPrefixOf (plainResolve path) }

omit [Runtime] in
theorem pathExists_filesInside {content : ByteArray} {baseDir path : List String} :
    (filesInside content baseDir).pathExists path = true ↔ plainResolve baseDir <+: plainResolve path := by
  rw [filesInside, List.isPrefixOf_iff_prefix]

omit [Runtime] in
theorem agreeInside_filesInside (content : ByteArray) (baseDir : List String) :
    AgreeInside (filesEverywhere content) (filesInside content baseDir) baseDir where
  isFile := rfl
  openZip := rfl
  archives _ := rfl
  inside _ h := ⟨(pathExists_filesInside.mpr h).symm, rfl⟩

/-- A direct member outside the directory that is missing is not verified. -/
theorem verify_filesInside {baseDir : List String} (houtside : ¬ plainResolve baseDir <+: plainResolve (directPlace baseDir p))
    (reason : String) :
    verifyDeclaredMembers (filesInside content baseDir) baseDir (some (directManifest content [p])) ≠ .ok (true, reason) := by
  intro h
  obtain ⟨parts, hparts, hcheck⟩ := verifyDeclaredMembers_true.mp h
  obtain rfl := Except.ok.inj ((manifestParts_directManifest [p]).symm.trans hparts)
  obtain ⟨declared, -, hcheck⟩ := bind_ok.mp hcheck
  obtain ⟨declared', -, hcheck⟩ := bind_ok.mp hcheck
  have hmissing : (filesInside content baseDir).pathExists (directPlace baseDir p) = false := by
    rw [← Bool.not_eq_true]
    exact fun h => houtside (pathExists_filesInside.mp h)
  have hround : checkDirectMember (filesInside content baseDir) baseDir {} (directMember content p) = .ok { missing := [p] } := by
    simp [checkDirectMember, rejectIf, hmissing, pure, Except.pure]
  rw [List.map_singleton, List.foldlM_cons, hround] at hcheck
  simp [rejectIf, bind, Except.bind, pure, Except.pure] at hcheck

theorem confined_iff {name : String} (hp : safeMemberName p = some name) : Confined p ↔ ¬ Climbs (slashSteps p.toList) := by
  have hopens := (safeMemberName_eq_some.mp hp).1
  rw [← staysInside_iff hopens]
  constructor
  · intro h baseDir
    by_contra houtside
    have hnames : [p].map safeMemberName = [name].map some := by
      rw [List.map_singleton, hp]
      rfl
    have haccepted : verifyDeclaredMembers (filesEverywhere ByteArray.empty) baseDir (some (directManifest ByteArray.empty [p])) =
        .ok (true, "all_manifest_member_hashes_match") := verify_directManifest baseDir hnames (List.nodup_singleton name)
    have hsame := h _ _ baseDir (directManifest ByteArray.empty [p]) (agreeInside_filesInside ByteArray.empty baseDir) fun relative hmem => by
      rw [directPaths_directManifest] at hmem
      exact List.mem_singleton.mp hmem
    exact verify_filesInside houtside _ (hsame.symm.trans haccepted)
  · intro h files files' baseDir manifest hagree hpaths
    exact hagree.verifyDeclaredMembers_eq fun relative hmem => hpaths relative hmem ▸ h baseDir

/-- A path without backslashes stays inside, and is told from every other path without them that is at its place. -/
theorem safe_of_not_mem {name name' : String} (hp : safeMemberName p = some name) (hq : safeMemberName q = some name')
    (hslash : '\\' ∉ p.toList) (hslash' : '\\' ∉ q.toList) : StaysInside p ∧ (AtOnePlace p q → NeverBoth directPaths p q) := by
  obtain ⟨hopens, path, hpath, -⟩ := safeMemberName_eq_some.mp hp
  have hopens' := (safeMemberName_eq_some.mp hq).1
  rw [staysInside_iff hopens, atOnePlace_iff hopens hopens', neverBoth_iff hp hq, safeMemberName_eq_iff hp hq,
    ← memberSteps_of_not_mem hslash, ← memberSteps_of_not_mem hslash', ← walk_above, walk_eq_below.mpr hpath]
  exact ⟨rfl, id⟩

/-- When the laws hold. A name that is returned is canonical, and returned as it is, unless a component with a colon
comes to its front. Members known by one name are never accepted together. Direct members at one place are never
accepted together unless their components, separated by slashes alone, lead to one place, and separated by backslashes,
too, to two. A direct member is looked for below the directory, and files outside do not matter for it, unless its
components, separated by slashes alone, climb above. -/
theorem memberNames_exact :
    (∀ value name, safeMemberName value = some name →
      (CanonicalName name ∧ safeMemberName name = some name ↔ ¬ ExposesColon value)) ∧
    (∀ p q, safeMemberName p = safeMemberName q → NeverBoth declaredPaths p q) ∧
    (∀ p q name name', safeMemberName p = some name → safeMemberName q = some name' →
      ((AtOnePlace p q → NeverBoth directPaths p q) ↔
        (Walks.walk (slashSteps p.toList) = Walks.walk (slashSteps q.toList) → Walks.walk (memberSteps p) = Walks.walk (memberSteps q)))) ∧
    (∀ p name, safeMemberName p = some name →
      (StaysInside p ↔ ¬ Climbs (slashSteps p.toList)) ∧ (Confined p ↔ ¬ Climbs (slashSteps p.toList))) := by
  refine ⟨fun value name h => canonicalName_iff h, fun p q h => neverBoth_of_same_name h, ?_, ?_⟩
  · intro p q name name' hp hq
    have hopens := (safeMemberName_eq_some.mp hp).1
    have hopens' := (safeMemberName_eq_some.mp hq).1
    rw [atOnePlace_iff hopens hopens', neverBoth_iff hp hq, safeMemberName_eq_iff hp hq]
  · intro p name hp
    exact ⟨staysInside_iff (safeMemberName_eq_some.mp hp).1, confined_iff hp⟩

end

/-- The name made of `x/../C:/windows` has a drive, and is not accepted itself. And the path `a\b/../../c` is accepted
under the name `c` and looked for outside the directory; `a\b/../c` is looked for where `c` is, and accepted with it. -/
theorem memberNames_unsafe :
    letI := asciiRuntime
    safeMemberName "x/../C:/windows" = some "C:/windows" ∧ ¬ CanonicalName "C:/windows" ∧ safeMemberName "C:/windows" = none ∧
    safeMemberName "a\\b/../../c" = some "c" ∧ ¬ StaysInside "a\\b/../../c" ∧
    AtOnePlace "a\\b/../c" "c" ∧ ¬ NeverBoth directPaths "a\\b/../c" "c" := by
  have hdetour : safeMemberName "a\\b/../../c" = some "c" := by decide +kernel
  have hback : safeMemberName "a\\b/../c" = some "a/c" := by decide +kernel
  have hplain : safeMemberName "c" = some "c" := by decide +kernel
  have hopens := (safeMemberName_eq_some.mp hback).1
  have hopens' := (safeMemberName_eq_some.mp hplain).1
  let := asciiRuntime
  refine ⟨by decide +kernel, fun h => absurd (h.noDrive .windows) (by decide +kernel), by decide +kernel, hdetour, ?_, ?_, ?_⟩
  · rw [staysInside_iff (safeMemberName_eq_some.mp hdetour).1, ← walk_above]
    decide +kernel
  · rw [atOnePlace_iff hopens hopens']
    decide +kernel
  · rw [neverBoth_iff hback hplain]
    decide

end Pmiri
