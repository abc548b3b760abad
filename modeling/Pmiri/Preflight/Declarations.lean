import Pmiri.Preflight.MemberNames
import Mathlib.Data.List.Nodup

/-!
# What a manifest declares

An accepted manifest declares every member under a name of its own, and the
verdict depends on the files at the places of the direct members and on the
archives, and on nothing else.
-/

namespace Pmiri

open Py Walks

/-- The canonical name of a member. -/
def memberName (member : Val) : Option String := (memberPath member).bind safeMemberName

/-- The paths of the direct members of a manifest. -/
def directPaths (manifest : Val) : List String :=
  match manifestParts manifest with
  | .ok parts => parts.1.filterMap memberPath
  | .error _ => []

/-- The paths of all members that a manifest declares. -/
def declaredPaths (manifest : Val) : List String :=
  match manifestParts manifest with
  | .ok parts => (parts.1 ++ parts.2.flatMap ArchiveSection.members).filterMap memberPath
  | .error _ => []

/-- A member is declared under a name that was not declared before. -/
def Adds (declared : List String) (member : Val) (declared' : List String) : Prop :=
  ∃ canonical, memberName member = some canonical ∧ canonical ∉ declared ∧ declared' = canonical :: declared

/-- Members are declared, each under a name of its own. -/
structure Declares (members : List Val) (declared declared' : List String) : Prop where
  named : ∃ names : List String, members.map memberName = names.map some ∧ declared' = names.reverse ++ declared
  nodup : declared.Nodup → declared'.Nodup

variable {members : List Val} {declared declared' declared'' : List String}

theorem Declares.nil (declared : List String) : Declares [] declared declared := ⟨⟨[], rfl, rfl⟩, id⟩

theorem Declares.append {members' : List Val} (h : Declares members declared declared')
    (h' : Declares members' declared' declared'') : Declares (members ++ members') declared declared'' := by
  obtain ⟨names, hnames, rfl⟩ := h.named
  obtain ⟨names', hnames', rfl⟩ := h'.named
  refine ⟨⟨names ++ names', ?_, ?_⟩, fun hnodup => h'.nodup (h.nodup hnodup)⟩
  · rw [List.map_append, List.map_append, hnames, hnames']
  · rw [List.reverse_append, List.append_assoc]

theorem Adds.declares {member : Val} (h : Adds declared member declared') : Declares [member] declared declared' := by
  obtain ⟨canonical, hname, hnew, rfl⟩ := h
  exact ⟨⟨[canonical], by rw [List.map_singleton, hname, List.map_singleton], rfl⟩, fun hnodup => List.nodup_cons.mpr ⟨hnew, hnodup⟩⟩

/-- A loop of which every round declares what it is about declares all of it. -/
theorem foldlM_declares {α : Type} (membersOf : α → List Val) {round : List String → α → Except Stop (List String)}
    (hround : ∀ declared x declared', round declared x = .ok declared' → Declares (membersOf x) declared declared') {xs : List α}
    (h : xs.foldlM round declared = .ok declared') : Declares (xs.flatMap membersOf) declared declared' := by
  induction xs generalizing declared with
  | nil =>
    obtain rfl := Except.ok.inj h
    exact .nil declared
  | cons x xs ih =>
    rw [List.foldlM_cons] at h
    obtain ⟨declared₁, hfirst, hrest⟩ := bind_ok.mp h
    rw [List.flatMap_cons]
    exact (hround declared x declared₁ hfirst).append (ih hrest)

/-! ## The loops -/

theorem newMember_ok {relative canonical : String} :
    newMember declared relative = .ok canonical ↔ safeMemberName relative = some canonical ∧ canonical ∉ declared := by
  unfold newMember
  cases safeMemberName relative with
  | none => simp
  | some name =>
    by_cases h : name ∈ declared
    · simp only [List.contains_iff_mem, h, if_true, Option.some.injEq]
      exact iff_of_false nofun fun hname => hname.2 (hname.1 ▸ h)
    · simp only [List.contains_iff_mem, h, if_false, Except.ok.injEq, Option.some.injEq]
      exact ⟨fun e => ⟨e, e ▸ h⟩, fun hname => hname.1⟩

theorem adds_of_newMember {member : Val} {relative canonical : String} (hpath : memberPath member = some relative)
    (h : newMember declared relative = .ok canonical) : Adds declared member (canonical :: declared) := by
  obtain ⟨hname, hnew⟩ := newMember_ok.mp h
  exact ⟨canonical, by rw [memberName, hpath, Option.bind_some, hname], hnew, rfl⟩

theorem declareMember_ok {member : Val} (h : declareMember declared member = .ok declared') : Adds declared member declared' := by
  unfold declareMember at h
  split at h
  · cases h
  · rename_i relative hpath
    obtain ⟨canonical, hnew, hrest⟩ := bind_ok.mp h
    obtain rfl := Except.ok.inj hrest
    exact adds_of_newMember hpath hnew

theorem map_safeMemberName {names : List String} (h : members.map memberName = names.map some) :
    (members.filterMap memberPath).map safeMemberName = names.map some := by
  induction members generalizing names with
  | nil => exact h
  | cons member members ih =>
    cases names with
    | nil => cases h
    | cons name names =>
      obtain ⟨hname, hnames⟩ := List.cons.inj h
      obtain ⟨relative, hpath, hsafe⟩ := Option.bind_eq_some_iff.mp hname
      rw [List.filterMap_cons_some hpath, List.map_cons, List.map_cons, hsafe, ih hnames]

section

variable [Runtime] {files files' : MemberFiles} {baseDir : List String}

theorem checkArchiveMember_ok {archive : ZipArchive} {member : Val}
    (h : checkArchiveMember archive declared member = .ok declared') : Adds declared member declared' := by
  unfold checkArchiveMember at h
  split at h
  · cases h
  · rename_i relative hpath
    obtain ⟨-, h⟩ := seq_ok.mp h
    obtain ⟨canonical, hnew, h⟩ := bind_ok.mp h
    obtain ⟨-, h⟩ := seq_ok.mp h
    split at h
    · cases h
    · cases h
    · obtain ⟨-, h⟩ := seq_ok.mp h
      obtain rfl := Except.ok.inj h
      exact adds_of_newMember hpath hnew

theorem checkSection_ok {part : ArchiveSection} (h : checkSection files baseDir declared part = .ok declared') :
    Declares part.members declared declared' := by
  obtain ⟨archive, -, h⟩ := bind_ok.mp h
  have hmembers := foldlM_declares (fun member => [member]) (fun _ _ _ hround => (checkArchiveMember_ok hround).declares) h
  rwa [List.flatMap_singleton'] at hmembers

/-- Once the members are checked, each is declared under a name of its own. -/
theorem checkMembers_ok {directMembers : List Val} {sections : List ArchiveSection} {reason : String}
    (h : checkMembers files baseDir directMembers sections = .ok reason) :
    ∃ declared, Declares (directMembers ++ sections.flatMap ArchiveSection.members) [] declared := by
  obtain ⟨declared, hdirect, h⟩ := bind_ok.mp h
  obtain ⟨declared', hsections, -⟩ := bind_ok.mp h
  have hmembers := foldlM_declares (fun member => [member]) (fun _ _ _ hround => (declareMember_ok hround).declares) hdirect
  rw [List.flatMap_singleton'] at hmembers
  exact ⟨declared', hmembers.append (foldlM_declares ArchiveSection.members (fun _ _ _ hround => checkSection_ok hround) hsections)⟩

theorem verifyDeclaredMembers_true {manifest : Val} {reason : String} :
    verifyDeclaredMembers files baseDir (some manifest) = .ok (true, reason) ↔
      ∃ parts, manifestParts manifest = .ok parts ∧ checkMembers files baseDir parts.1 parts.2 = .ok reason :=
  verdictOf_true.trans bind_ok

/-- The paths that an accepted manifest declares have names of their own. -/
theorem nodup_declaredPaths {manifest : Val} {reason : String}
    (h : verifyDeclaredMembers files baseDir (some manifest) = .ok (true, reason)) :
    ((declaredPaths manifest).map safeMemberName).Nodup := by
  obtain ⟨parts, hparts, hcheck⟩ := verifyDeclaredMembers_true.mp h
  obtain ⟨declared, hdeclares⟩ := checkMembers_ok hcheck
  obtain ⟨names, hnames, hdeclared⟩ := hdeclares.named
  have hnodup := hdeclares.nodup List.nodup_nil
  rw [hdeclared, List.append_nil, List.nodup_reverse] at hnodup
  simp only [declaredPaths, hparts, map_safeMemberName hnames]
  exact hnodup.map fun _ _ e => Option.some.inj e

/-! ## What the verdict depends on -/

/-- The files look alike wherever a path leads below the directory, and so do the archives. -/
structure AgreeInside (files files' : MemberFiles) (baseDir : List String) : Prop where
  isFile : files.isFile = files'.isFile
  openZip : files.openZip = files'.openZip
  archives : ∀ sourceArchive,
    files.readBytes (archiveForSource files baseDir sourceArchive) = files'.readBytes (archiveForSource files baseDir sourceArchive)
  inside : ∀ path, plainResolve baseDir <+: plainResolve path →
    files.pathExists path = files'.pathExists path ∧ files.readBytes path = files'.readBytes path

theorem AgreeInside.openArchive_eq (h : AgreeInside files files' baseDir) (part : ArchiveSection) :
    openArchive files baseDir part = openArchive files' baseDir part := by
  have hsource : archiveForSource files' baseDir = archiveForSource files baseDir := by
    funext sourceArchive
    rw [archiveForSource, archiveForSource, h.isFile]
  unfold openArchive
  split
  · rename_i sourceArchive _
    simp only [hsource, ← h.isFile, ← h.openZip, ← h.archives sourceArchive]
  · rfl

theorem AgreeInside.checkSection_eq (h : AgreeInside files files' baseDir) :
    checkSection files baseDir = checkSection files' baseDir := by
  funext declared part
  rw [checkSection, checkSection, h.openArchive_eq]

/-- A round about a place inside is the same. -/
theorem AgreeInside.checkDirectMember_eq (h : AgreeInside files files' baseDir) {member : Val}
    (hinside : ∀ relative, memberPath member = some relative → plainResolve baseDir <+: plainResolve (directPlace baseDir relative))
    (found : Findings) : checkDirectMember files baseDir found member = checkDirectMember files' baseDir found member := by
  unfold checkDirectMember
  split
  · rfl
  · rename_i relative hpath
    obtain ⟨hexists, hread⟩ := h.inside _ (hinside relative hpath)
    rw [hexists, hread]

theorem AgreeInside.foldlM_checkDirectMember_eq (h : AgreeInside files files' baseDir)
    (hinside : ∀ relative ∈ members.filterMap memberPath, plainResolve baseDir <+: plainResolve (directPlace baseDir relative))
    (found : Findings) :
    members.foldlM (checkDirectMember files baseDir) found = members.foldlM (checkDirectMember files' baseDir) found := by
  induction members generalizing found with
  | nil => rfl
  | cons member members ih =>
    have hfirst := h.checkDirectMember_eq (fun relative hpath => hinside relative (List.mem_filterMap.mpr ⟨member, List.mem_cons_self, hpath⟩)) found
    have hrest : ∀ relative ∈ members.filterMap memberPath, plainResolve baseDir <+: plainResolve (directPlace baseDir relative) := by
      intro relative hmem
      obtain ⟨member', hmember, hpath⟩ := List.mem_filterMap.mp hmem
      exact hinside relative (List.mem_filterMap.mpr ⟨member', List.mem_cons_of_mem _ hmember, hpath⟩)
    rw [List.foldlM_cons, List.foldlM_cons, hfirst]
    exact congrArg _ (funext fun found' => ih hrest found')

/-- What is outside does not matter where no direct member is outside. -/
theorem AgreeInside.verifyDeclaredMembers_eq (h : AgreeInside files files' baseDir) {manifest : Val}
    (hinside : ∀ relative ∈ directPaths manifest, plainResolve baseDir <+: plainResolve (directPlace baseDir relative)) :
    verifyDeclaredMembers files baseDir (some manifest) = verifyDeclaredMembers files' baseDir (some manifest) := by
  simp only [verifyDeclaredMembers]
  cases hparts : manifestParts manifest with
  | error stop => rfl
  | ok parts =>
    simp only [directPaths, hparts] at hinside
    simp only [ok_bind, checkMembers, h.checkSection_eq, h.foldlM_checkDirectMember_eq hinside]

end

end Pmiri
