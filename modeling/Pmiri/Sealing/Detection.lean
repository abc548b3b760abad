import Pmiri.Sealing.Verify
import Pmiri.Python.Sha256

/-!
# What sealing detects

A seal is to accept a tree exactly if the evidence below the root is what it
was, wherever the root is. Both walks look for the names that they skip among
the directories above the root as well, and below such a root they find
nothing.
-/

namespace Pmiri

open Py

section

variable [Runtime] {root : List String}

/-- The output directory, relative to the root. -/
def Sealed.output (sealed : Sealed root) : List String := sealed.manifestPath.dropLast.drop root.length

/-- Contents of one file in two trees are equal if their digests are. -/
def NoCollision (disk disk' : Disk root) : Prop :=
  ∀ p c c', disk.file? p = some c → disk'.file? p = some c' → sha256Bytes c = sha256Bytes c' → c = c'

/-- A later state of the tree that was sealed: its manifest is where it was. -/
structure Later (sealed : Sealed root) (disk : Disk root) : Prop where
  resolve : disk.resolve sealed.manifestPath = sealed.disk.resolve sealed.manifestPath
  noCollision : NoCollision sealed.disk disk

/-- `verify_seal(sealed["manifest_path"], root=root)` -/
def Sealed.verify (sealed : Sealed root) (disk : Disk root) : Except Exc (Bool × String) :=
  verifySeal disk sealed.manifestPath (some sealed.manifest.toVal.sortKeys)

/-- Verification tells whether the evidence is what it was; what that is depends
on paths relative to the root only. -/
structure SealDetects (sealed : Sealed root) : Prop where
  accepts : ∀ disk, Later sealed disk → (∀ p, isEvidence sealed.output p = true → disk.file? p = sealed.disk.file? p) →
    sealed.verify disk = .ok (true, "SEALED")
  rejects : ∀ disk, Later sealed disk → (∃ p, isEvidence sealed.output p = true ∧ disk.file? p ≠ sealed.disk.file? p) →
    ∃ reason, sealed.verify disk = .ok (false, reason)

/-- The walks of sealing and verification skip what is not evidence, if it is
there, for a manifest that is found where `resolve` says. -/
structure WalksAgree (disk : Disk root) (sealed : Sealed root) : Prop where
  evidence : ∀ p, root ++ p.names ≠ sealed.manifestPath →
    (skipped root (disk.resolve sealed.manifestPath).dropLast p = false ↔ isEvidence sealed.output p = true)
  found : ∀ p, disk.file? p ≠ none →
    (skipped root sealed.manifestPath.dropLast p = false ↔ skipped root (disk.resolve sealed.manifestPath).dropLast p = false)

/-! ## What `seal_directory` leaves -/

omit [Runtime] in
/-- A file is written where its path leads to, and nowhere else. -/
theorem write_ok {disk disk' : Disk root} {path : List String} {content : ByteArray} (h : disk.write path content = .ok disk') :
    disk'.resolve = disk.resolve ∧ ∀ p, root ++ p.names ≠ disk.resolve path → disk'.file? p = disk.file? p := by
  unfold Disk.write at h
  split at h
  · cases h
  · split at h
    · obtain rfl := Except.ok.inj h
      exact ⟨rfl, fun _ _ => rfl⟩
    · rename_i p hbelow
      split at h
      · cases h
      · obtain rfl := Except.ok.inj h
        refine ⟨rfl, fun q hq => ?_⟩
        rw [disk.file?_put, if_neg fun e => hq (by rw [e, Disk.below_eq_some hbelow])]

structure SealedFrom (disk : Disk root) (caseId now : String) (sealed : Sealed root) : Prop where
  manifest : sealed.manifest = sealManifest root caseId now (walk disk sealed.manifestPath.dropLast)
  manifestPath : sealed.manifestPath = root ++ sealed.output ++ ["artifact-manifest.json"]
  resolve : sealed.disk.resolve = disk.resolve
  file? : ∀ p, root ++ p.names ≠ disk.resolve sealed.manifestPath → sealed.disk.file? p = disk.file? p

theorem sealDirectory_ok {disk : Disk root} {caseId : String} {clock : Instant} {sealed : Sealed root}
    (h : sealDirectory disk caseId clock = .ok sealed) : SealedFrom disk caseId (utcNow clock) sealed := by
  obtain ⟨hinside, h⟩ := seq_ok.mp h
  obtain ⟨-, h⟩ := seq_ok.mp h
  obtain ⟨disk', hwrite, h⟩ := bind_ok.mp h
  obtain rfl := Except.ok.inj h
  obtain ⟨hresolve, hfile⟩ := write_ok hwrite
  have hstart : root <+: sealDestination disk caseId := by
    rw [raiseIf_ok, Bool.and_eq_false_iff, Bool.not_eq_false', bne_eq_false_iff_eq, isParent, Bool.and_eq_true,
      List.isPrefixOf_iff_prefix] at hinside
    rcases hinside with hinside | hinside
    · exact hinside.1
    · exact ⟨[], by rw [hinside, List.append_nil]⟩
  obtain ⟨output, houtput⟩ := hstart
  refine ⟨?_, ?_, hresolve, hfile⟩
  · simp only [List.dropLast_concat]
  · simp only [Sealed.output, List.dropLast_concat, ← houtput, List.drop_left]

/-! ## Later states -/

/-- The contents that later states can have. -/
def versions (sealed : Sealed root) : Set (RelPath → Option ByteArray) := {files | ∃ disk, Later sealed disk ∧ files = disk.file?}

/-- Where the manifest is, if that is not where it leads to. -/
def pinned (sealed : Sealed root) : Set RelPath :=
  {p | root ++ p.names = sealed.manifestPath ∧ sealed.disk.resolve sealed.manifestPath ≠ sealed.manifestPath}

omit [Runtime] in
/-- The disk without what is at a path. -/
def remove (disk : Disk root) (p : RelPath) : Disk root where
  entries := disk.entries.filter fun e => e.1 ≠ p
  nodup := disk.nodup.sublist (List.filter_sublist.map _)
  resolve := disk.resolve
  resolve_resolve := disk.resolve_resolve
  resolve_file := fun q content h => disk.resolve_file q content (List.mem_filter.mp h).1

/-- The disk on which a path is resolved to itself. -/
def unlink (disk : Disk root) (path : List String) : Disk root where
  entries := disk.entries
  nodup := disk.nodup
  resolve := fun q => if q = path then path else disk.resolve q
  resolve_resolve := fun q => by
    by_cases hq : q = path
    · simp [hq]
    · by_cases hr : disk.resolve q = path
      · simp [hq, hr]
      · simp [hq, hr, disk.resolve_resolve]
  resolve_file := fun q content h => by
    split
    · rename_i e
      exact e.symm
    · exact disk.resolve_file q content h

omit [Runtime] in
theorem file?_remove (disk : Disk root) (p q : RelPath) : (remove disk p).file? q = if q = p then none else disk.file? q := by
  refine Option.ext fun content => ?_
  rw [Disk.file?_eq_some, remove, List.mem_filter]
  split
  · rename_i e
    simp [e]
  · rename_i hne
    simp [hne, Disk.file?_eq_some]

/-- Files that are the same in both trees, or in one of them only, do not collide. -/
theorem noCollision_of {disk disk' : Disk root}
    (h : ∀ p, disk'.file? p = disk.file? p ∨ disk.file? p = none ∨ disk'.file? p = none) : NoCollision disk disk' := by
  intro p c c' hc hc' _
  rcases h p with h | h | h
  · exact Option.some.inj (hc.symm.trans (h.symm.trans hc'))
  · rw [h] at hc
    cases hc
  · rw [h] at hc'
    cases hc'

theorem later_self (sealed : Sealed root) : Later sealed sealed.disk := ⟨rfl, noCollision_of fun _ => .inl rfl⟩

/-- Under every path that is not pinned something can change while all else stays. -/
theorem exists_version (sealed : Sealed root) {p : RelPath} (hp : p ∉ pinned sealed) :
    ∃ files ∈ versions sealed, files p ≠ sealed.disk.file? p ∧ ∀ q ≠ p, files q = sealed.disk.file? q := by
  have hpinned : root ++ p.names = sealed.manifestPath → sealed.disk.resolve sealed.manifestPath = sealed.manifestPath :=
    fun e => by_contra fun h => hp ⟨e, h⟩
  rcases hfile : sealed.disk.file? p with _ | content
  · -- a new file, on a disk where its path is no link
    let disk := (unlink sealed.disk (root ++ p.names)).put p ByteArray.empty (if_pos rfl)
    have hdisk : ∀ q, disk.file? q = if q = p then some ByteArray.empty else sealed.disk.file? q := fun q =>
      Disk.file?_put _ p q _ _
    refine ⟨disk.file?, ⟨disk, ⟨?_, noCollision_of fun q => ?_⟩, rfl⟩, ?_, fun q hq => by rw [hdisk, if_neg hq]⟩
    · change (if sealed.manifestPath = root ++ p.names then root ++ p.names else sealed.disk.resolve sealed.manifestPath) = _
      split
      · rename_i e
        rw [hpinned e.symm, e]
      · rfl
    · by_cases hq : q = p
      · exact .inr (.inl (hq ▸ hfile))
      · exact .inl (by rw [hdisk, if_neg hq])
    · rw [hdisk, if_pos rfl]
      simp
  · refine ⟨(remove sealed.disk p).file?, ⟨remove sealed.disk p, ⟨rfl, noCollision_of fun q => ?_⟩, rfl⟩, ?_,
      fun q hq => by rw [file?_remove, if_neg hq]⟩
    · by_cases hq : q = p
      · exact .inr (.inr (by rw [file?_remove, if_pos hq]))
      · exact .inl (by rw [file?_remove, if_neg hq])
    · rw [file?_remove, if_pos rfl]
      simp

omit [Runtime] in
/-- Nothing else is ever found where a link to the manifest is. -/
theorem file?_pinned {sealed : Sealed root} {disk : Disk root} (h : disk.resolve sealed.manifestPath = sealed.disk.resolve sealed.manifestPath)
    {p : RelPath} (hp : p ∈ pinned sealed) : disk.file? p = none := by
  rcases hfile : disk.file? p with _ | content
  · rfl
  · have := disk.resolve_of_file? hfile
    rw [hp.1, h] at this
    exact absurd this hp.2

/-! ## Detection -/

section

variable {disk : Disk root} {caseId now : String} {sealed : Sealed root}

/-- Neither the manifest nor what is beside it is evidence. -/
theorem not_isEvidence_manifest (h : SealedFrom disk caseId now sealed) {p : RelPath} (hp : root ++ p.names = sealed.manifestPath) :
    isEvidence sealed.output p = false := by
  have hnames : p.names = sealed.output ++ ["artifact-manifest.json"] := by
    rw [h.manifestPath, List.append_assoc] at hp
    exact List.append_cancel_left hp
  have hparent : isParent sealed.output p.names = true := by
    rw [isParent, hnames, Bool.and_eq_true, bne_iff_ne, List.isPrefixOf_iff_prefix]
    exact ⟨List.prefix_append _ _, fun e => by simpa using congrArg List.length e⟩
  rw [isEvidence, hparent]
  rfl

/-- The verdict on a later state. -/
theorem verify_later (h : SealedFrom disk caseId now sealed) {disk' : Disk root} (hlater : Later sealed disk') :
    ∃ verdict reason, sealed.verify disk' = .ok (verdict, reason) ∧
      (verdict = true ↔ (entryIds caseId (walk disk sealed.manifestPath.dropLast)).Nodup ∧
        Inventory.Matches contentDigest (looksAt root (disk.resolve sealed.manifestPath).dropLast) disk'.file?
          (Inventory.record contentDigest (looksAt root sealed.manifestPath.dropLast) disk.file?)) ∧
      (verdict = true → reason = "SEALED") := by
  have := verifySeal_sealManifest disk disk' sealed.manifestPath.dropLast sealed.manifestPath caseId now
  rwa [← h.manifest, hlater.resolve, h.resolve] at this

theorem verify_accepts (h : SealedFrom disk caseId now sealed) {disk' : Disk root} (hlater : Later sealed disk') :
    sealed.verify disk' = .ok (true, "SEALED") ↔ (entryIds caseId (walk disk sealed.manifestPath.dropLast)).Nodup ∧
      Inventory.Matches contentDigest (looksAt root (disk.resolve sealed.manifestPath).dropLast) disk'.file?
        (Inventory.record contentDigest (looksAt root sealed.manifestPath.dropLast) disk.file?) := by
  obtain ⟨verdict, reason, hverify, hiff, hreason⟩ := verify_later h hlater
  rw [← hiff, hverify]
  refine ⟨fun e => congrArg Prod.fst (Except.ok.inj e), fun e => ?_⟩
  rw [e, hreason e]

theorem verify_rejects (h : SealedFrom disk caseId now sealed) {disk' : Disk root} (hlater : Later sealed disk') :
    (∃ reason, sealed.verify disk' = .ok (false, reason)) ↔ sealed.verify disk' ≠ .ok (true, "SEALED") := by
  obtain ⟨verdict, reason, hverify, -, hreason⟩ := verify_later h hlater
  rw [hverify]
  cases verdict with
  | false => exact ⟨fun _ e => (by cases e), fun _ => ⟨reason, rfl⟩⟩
  | true =>
    rw [hreason rfl]
    exact ⟨fun ⟨_, e⟩ => (by cases e), fun e => absurd rfl e⟩

/-- Detection is that of an inventory, once the entries have distinct identifiers. -/
theorem sealDetects_iff_detects (h : SealedFrom disk caseId now sealed) :
    SealDetects sealed ↔ (entryIds caseId (walk disk sealed.manifestPath.dropLast)).Nodup ∧
      Inventory.Detects contentDigest (looksAt root sealed.manifestPath.dropLast)
        (looksAt root (disk.resolve sealed.manifestPath).dropLast) {p | isEvidence sealed.output p = true} disk.file?
        sealed.disk.file? (versions sealed) := by
  constructor
  · intro hd
    have hids := ((verify_accepts h (later_self sealed)).mp (hd.accepts _ (later_self sealed) fun _ _ => rfl)).1
    refine ⟨hids, ?_, ?_⟩
    · rintro _ ⟨disk', hlater, rfl⟩ hsame
      exact ((verify_accepts h hlater).mp (hd.accepts disk' hlater hsame)).2
    · rintro _ ⟨disk', hlater, rfl⟩ hchanged hm
      exact (verify_rejects h hlater).mp (hd.rejects disk' hlater hchanged) ((verify_accepts h hlater).mpr ⟨hids, hm⟩)
  · rintro ⟨hids, hd⟩
    constructor
    · intro disk' hlater hsame
      exact (verify_accepts h hlater).mpr ⟨hids, hd.accepts _ ⟨disk', hlater, rfl⟩ hsame⟩
    · intro disk' hlater hchanged
      refine (verify_rejects h hlater).mpr fun e => ?_
      exact hd.rejects _ ⟨disk', hlater, rfl⟩ hchanged ((verify_accepts h hlater).mp e).2

/-- The second walk finds the files that it looks at as they were before sealing. -/
theorem file?_looksAt (h : SealedFrom disk caseId now sealed) {p : RelPath}
    (hp : p ∈ looksAt root (disk.resolve sealed.manifestPath).dropLast) : sealed.disk.file? p = disk.file? p := by
  refine h.file? p fun e => ?_
  have hparent : isParent (disk.resolve sealed.manifestPath).dropLast (root ++ p.names) = true := by
    rw [← e, isParent, Bool.and_eq_true, bne_iff_ne, List.isPrefixOf_iff_prefix]
    refine ⟨List.dropLast_prefix _, fun e' => ?_⟩
    have := congrArg List.length e'
    have hpos := List.length_pos_of_ne_nil p.nonempty
    rw [List.length_dropLast, List.length_append] at this
    omega
  rw [mem_looksAt, skipped, hparent] at hp
  cases hp

theorem sealDetects_iff_walksAgree (h : SealedFrom disk caseId now sealed) :
    SealDetects sealed ↔ (entryIds caseId (walk disk sealed.manifestPath.dropLast)).Nodup ∧ WalksAgree disk sealed := by
  have hbeside : ∀ p, root ++ p.names = sealed.manifestPath → sealed.disk.resolve sealed.manifestPath = sealed.manifestPath →
      p ∉ looksAt root (disk.resolve sealed.manifestPath).dropLast := by
    intro p hp hresolve hlooks
    have hparent : isParent sealed.manifestPath.dropLast (root ++ p.names) = true := by
      rw [hp, h.manifestPath, List.dropLast_concat, isParent, Bool.and_eq_true, bne_iff_ne, List.isPrefixOf_iff_prefix]
      exact ⟨List.prefix_append _ _, fun e => by simpa using congrArg List.length e⟩
    rw [← h.resolve, hresolve, mem_looksAt, skipped, hparent] at hlooks
    cases hlooks
  have hdetects : Inventory.Detects contentDigest (looksAt root sealed.manifestPath.dropLast)
      (looksAt root (disk.resolve sealed.manifestPath).dropLast) {p | isEvidence sealed.output p = true} disk.file?
      sealed.disk.file? (versions sealed) ↔
        (∀ p ∉ pinned sealed, (p ∈ looksAt root (disk.resolve sealed.manifestPath).dropLast ↔ isEvidence sealed.output p = true)) ∧
          ∀ p, disk.file? p ≠ none → (p ∈ looksAt root sealed.manifestPath.dropLast ↔
            p ∈ looksAt root (disk.resolve sealed.manifestPath).dropLast) := by
    refine Inventory.detects_iff ⟨_, later_self sealed, rfl⟩ (fun p hp => file?_looksAt h hp) ?_ ?_
      (fun p hp => exists_version sealed hp) ?_
    · rintro _ ⟨disk', hlater, rfl⟩ p hp
      rw [file?_pinned hlater.resolve hp, file?_pinned rfl hp]
    · intro p (he : isEvidence sealed.output p = true) hp
      rw [not_isEvidence_manifest h hp.1] at he
      cases he
    · rintro _ ⟨disk', hlater, rfl⟩ p c c' hc hc' hdigest
      exact hlater.noCollision p c c' hc hc' (congrArg Prod.snd hdigest)
  rw [sealDetects_iff_detects h, hdetects]
  refine and_congr_right fun _ => ⟨fun hagree => ⟨fun p hp => ?_, hagree.2⟩, fun hagree => ⟨fun p hp => ?_, hagree.found⟩⟩
  · exact hagree.1 p fun hpinned => hp hpinned.1
  · by_cases hmanifest : root ++ p.names = sealed.manifestPath
    · have hresolve : sealed.disk.resolve sealed.manifestPath = sealed.manifestPath := by_contra fun hne => hp ⟨hmanifest, hne⟩
      refine iff_of_false (hbeside p hmanifest hresolve) fun he => ?_
      rw [not_isEvidence_manifest h hmanifest] at he
      cases he
    · exact hagree.evidence p hmanifest

omit [Runtime] in
theorem not_isParent_singleton {output : List String} {name : String} (h : output ≠ []) : isParent output [name] = false := by
  rw [isParent, Bool.and_eq_false_iff, bne_eq_false_iff_eq]
  rcases output with _ | ⟨part, _ | ⟨part', output⟩⟩
  · exact absurd rfl h
  · by_cases e : part = name
    · exact .inr (by rw [e])
    · exact .inl (by rw [List.isPrefixOf_cons_cons, beq_false_of_ne e, Bool.false_and])
  · exact .inl (by rw [List.isPrefixOf_cons_cons]; exact Bool.and_false _)

/-- Evidence can be beside an output directory that is below the root. -/
theorem isEvidence_a {output : List String} (h : output ≠ []) : isEvidence output ⟨["a"], by decide, by decide⟩ = true := by
  rw [isEvidence, not_isParent_singleton h]
  rfl

/-- The walks agree if the manifest is no link, unless a part of the root is
excluded and there is a path that evidence can have. -/
theorem walksAgree_iff (h : SealedFrom disk caseId now sealed) (hresolve : disk.resolve sealed.manifestPath = sealed.manifestPath) :
    WalksAgree disk sealed ↔ root.any excludedPart = false ∨ sealed.output = [] := by
  have hskipped : ∀ p, skipped root sealed.manifestPath.dropLast p = (root.any excludedPart || !isEvidence sealed.output p) := by
    intro p
    rw [h.manifestPath, List.dropLast_concat, skipped_eq]
  constructor
  · intro hagree
    by_contra hnot
    rw [not_or, Bool.not_eq_false] at hnot
    have hevidence := isEvidence_a hnot.2
    have hpath : root ++ ["a"] ≠ sealed.manifestPath := fun e => by
      rw [not_isEvidence_manifest h e] at hevidence
      cases hevidence
    have := (hagree.evidence ⟨["a"], by decide, by decide⟩ hpath).mpr hevidence
    rw [hresolve, hskipped, hnot.1] at this
    cases this
  · rintro (hroot | houtput)
    · refine ⟨fun p _ => ?_, fun p _ => by rw [hresolve]⟩
      rw [hresolve, hskipped, hroot, Bool.false_or, Bool.not_eq_false']
    · have hparent : ∀ p : RelPath, isParent sealed.output p.names = true := fun p => by
        rw [houtput, isParent, Bool.and_eq_true, bne_iff_ne]
        exact ⟨rfl, Ne.symm p.nonempty⟩
      refine ⟨fun p _ => ?_, fun p _ => by rw [hresolve]⟩
      rw [hresolve, hskipped, isEvidence, hparent]
      simp

end

end

/-! ## A tree with one file -/

theorem id_resolve (path : List String) : id (id path) = id path := rfl

/-- A disk without links that has these files. -/
def plainDisk (root : List String) (files : List (RelPath × ByteArray)) (h : (files.map Prod.fst).Nodup) : Disk root where
  entries := files.map fun file => (file.1, .file file.2)
  nodup := by rwa [List.map_map]
  resolve := id
  resolve_resolve := id_resolve
  resolve_file := fun _ _ _ => rfl

def exampleResult : RelPath := ⟨["result.json"], by decide, by decide⟩

def exampleUndeclared : RelPath := ⟨["undeclared.txt"], by decide, by decide⟩

def exampleManifest : RelPath := ⟨["artifacts", "case-1", "artifact-manifest.json"], by decide, by decide⟩

def exampleTree (root : List String) : Disk root := plainDisk root [(exampleResult, "null\n".toUTF8)] (by simp)

/-- A file can be written where nothing is. -/
theorem exists_write {root : List String} {disk : Disk root} {p : RelPath} (hresolve : disk.resolve (root ++ p.names) = root ++ p.names)
    (hentry : disk.entry? p = none) (content : ByteArray) : ∃ disk', disk.write (root ++ p.names) content = .ok disk' := by
  have hstart : (disk.resolve (root ++ p.names)).isPrefixOf root = false := by
    rw [hresolve, ← Bool.not_eq_true, List.isPrefixOf_iff_prefix]
    intro h
    have := h.length_le
    have hpos := List.length_pos_of_ne_nil p.nonempty
    rw [List.length_append] at this
    omega
  unfold Disk.write
  rw [hstart, if_neg Bool.false_ne_true]
  split
  · exact ⟨_, rfl⟩
  · rename_i q hq
    rw [hresolve, Disk.below_append] at hq
    obtain rfl := Option.some.inj hq
    rw [hentry]
    exact ⟨_, rfl⟩

theorem exampleTree_seal [Runtime] (root : List String) (clock : Instant) :
    ∃ sealed, sealDirectory (exampleTree root) "case-1" clock = .ok sealed ∧
      sealed.manifestPath = root ++ exampleManifest.names := by
  have hdestination : sealDestination (exampleTree root) "case-1" = root ++ ["artifacts", "case-1"] := by
    change root ++ ["artifacts"] ++ ["case-1"] = _
    rw [List.append_assoc]
    rfl
  have hmanifest : root ++ ["artifacts", "case-1"] ++ ["artifact-manifest.json"] = root ++ exampleManifest.names := by
    rw [List.append_assoc]
    rfl
  have hinside : isParent root (root ++ ["artifacts", "case-1"]) = true := by
    rw [isParent, Bool.and_eq_true, bne_iff_ne, List.isPrefixOf_iff_prefix]
    exact ⟨List.prefix_append _ _, fun e => by simpa using congrArg List.length e⟩
  have hmkdir : (exampleTree root).mkdir (root ++ ["artifacts", "case-1"]) = .ok () := by
    have hfree : (root ++ exampleResult.names).isPrefixOf (root ++ ["artifacts", "case-1"]) = false := by
      rw [← Bool.not_eq_true, List.isPrefixOf_iff_prefix, List.prefix_append_right_inj]
      decide
    rw [Disk.mkdir, raiseIf_ok]
    simp [exampleTree, plainDisk, hfree]
  obtain ⟨disk', hwrite⟩ := @exists_write root (exampleTree root) exampleManifest rfl rfl
    (canonicalJson (sealManifest root "case-1" (utcNow clock)
      (walk (exampleTree root) (root ++ ["artifacts", "case-1"]))).toVal ++ "\n".toUTF8)
  refine ⟨⟨sealManifest root "case-1" (utcNow clock) (walk (exampleTree root) (root ++ ["artifacts", "case-1"])),
    root ++ exampleManifest.names, disk'⟩, ?_, rfl⟩
  rw [sealDirectory]
  simp only [hdestination, hmanifest, hinside, hmkdir, hwrite, Bool.not_true, Bool.false_and, raiseIf, Bool.false_eq_true, if_false,
    ok_bind]
  rfl

/-- What the identifiers of the entries are the hash values of. -/
def exampleKeys : List Dict := .ofItems [("path", .str exampleResult.asPosix)] ::
  REQUIRED_ROLES.map fun role => .ofItems [("role", .str role), ("case_id", .str "case-1")]

/-- The first words of these hash values. -/
def exampleWords : List Nat := [
  0x5c8497dd, 0x29615d20, 0x3d5b5097, 0x997f6f90, 0x875aaa9e, 0xb82fc312, 0x30c2c590, 0x7f2b9d0b, 0x570a04f1,
  0xee9e48b2, 0xe33f1606, 0x6e6c1c29, 0xd518f86f, 0xb384134c, 0xe412b820, 0xbd5c0f38, 0x1da1f215]

def keyWord (key : Dict) : Nat := Sha256.firstWord (canonicalJson key.toVal)

-- Six hash values at a time, for the kernel keeps what it has evaluated.
theorem exampleWords_take : (exampleKeys.take 6).map keyWord = exampleWords.take 6 := by decide +kernel

theorem exampleWords_mid : ((exampleKeys.drop 6).take 6).map keyWord = (exampleWords.drop 6).take 6 := by decide +kernel

theorem exampleWords_drop : ((exampleKeys.drop 6).drop 6).map keyWord = (exampleWords.drop 6).drop 6 := by decide +kernel

theorem exampleKeys_words : exampleKeys.map keyWord = exampleWords := by
  rw [← List.take_append_drop 6 exampleKeys, ← List.take_append_drop 6 (exampleKeys.drop 6), List.map_append, List.map_append,
    exampleWords_take, exampleWords_mid, exampleWords_drop, List.take_append_drop, List.take_append_drop]

theorem entryId_ne {key key' : Dict} (h : keyWord key ≠ keyWord key') :
    letI := asciiRuntime
    entryId key ≠ entryId key' := by
  let := asciiRuntime
  intro heq
  rw [entryId, entryId, String.append_right_inj] at heq
  exact h (firstWord_eq_of_take (by decide) (String.ofList_injective heq))

/-- The file has no role, so that as many are absent without it. -/
theorem exampleIds_cons [Runtime] : entryIds "case-1" [(exampleResult, "null\n".toUTF8)] =
    entryId (.ofItems [("path", .str exampleResult.asPosix)]) :: entryIds "case-1" [] := by
  have habsent : absentRoles [(exampleResult, "null\n".toUTF8)] = absentRoles [] := by rfl
  rw [entryIds, entryIds, habsent, List.map_cons, List.map_nil, List.cons_append]

theorem exampleIds_nodup :
    letI := asciiRuntime
    (entryIds "case-1" [(exampleResult, "null\n".toUTF8)]).Nodup := by
  let := asciiRuntime
  have hids : entryIds "case-1" [] = REQUIRED_ROLES.map fun role => entryId (.ofItems [("role", .str role), ("case_id", .str "case-1")]) := rfl
  have hkeys : entryIds "case-1" [(exampleResult, "null\n".toUTF8)] = exampleKeys.map entryId := by
    rw [exampleIds_cons, hids, exampleKeys, List.map_cons, List.map_map]
    rfl
  have hwords : (exampleKeys.map keyWord).Nodup := exampleKeys_words ▸ by decide
  rw [hkeys, List.Nodup, List.pairwise_map]
  exact (List.pairwise_map.mp hwords).imp fun h => entryId_ne h

/-! ## The claim on sealing -/

/-- Sealing detects the changes of the evidence exactly if the identifiers of
the entries are distinct and the walks agree; with a manifest that is no link,
they agree exactly if no part of the root is an excluded one, unless all that is
below the root is output. -/
theorem sealDetects_iff [Runtime] {root : List String} {disk : Disk root} {caseId : String} {clock : Instant} {sealed : Sealed root}
    (h : sealDirectory disk caseId clock = .ok sealed) :
    (SealDetects sealed ↔ (entryIds caseId (walk disk sealed.manifestPath.dropLast)).Nodup ∧ WalksAgree disk sealed) ∧
      (disk.resolve sealed.manifestPath = sealed.manifestPath →
        (WalksAgree disk sealed ↔ root.any excludedPart = false ∨ sealed.output = [])) :=
  ⟨sealDetects_iff_walksAgree (sealDirectory_ok h), walksAgree_iff (sealDirectory_ok h)⟩

/-- Below `/home/build`, a file that was added is not detected. -/
theorem undeclared_accepted :
    letI := asciiRuntime
    ∃ sealed, sealDirectory (exampleTree ["/", "home", "build", "tree"]) "case-1" ⟨63902822400000000, by decide⟩ = .ok sealed ∧
      ∃ disk, Later sealed disk ∧ isEvidence sealed.output exampleUndeclared = true ∧ sealed.disk.file? exampleUndeclared = none ∧
        disk.file? exampleUndeclared = some "tamper\n".toUTF8 ∧ sealed.verify disk = .ok (true, "SEALED") := by
  let := asciiRuntime
  obtain ⟨sealed, hseal, hpath⟩ := exampleTree_seal ["/", "home", "build", "tree"] ⟨63902822400000000, by decide⟩
  have h := sealDirectory_ok hseal
  have houtput : sealed.output = ["artifacts", "case-1"] := by
    rw [Sealed.output, hpath]
    rfl
  have hnone : sealed.disk.file? exampleUndeclared = none := by
    rw [h.file? exampleUndeclared (by rw [hpath]; decide)]
    rfl
  have hresolve : sealed.disk.resolve (["/", "home", "build", "tree"] ++ exampleUndeclared.names) =
      ["/", "home", "build", "tree"] ++ exampleUndeclared.names := by
    rw [h.resolve]
    rfl
  have hskipped : ∀ p, p ∉ looksAt ["/", "home", "build", "tree"] (["/", "home", "build", "tree"] ++ sealed.output) := fun p => by
    have hroot : ["/", "home", "build", "tree"].any excludedPart = true := by decide
    rw [mem_looksAt, skipped_eq, hroot, Bool.true_or]
    simp
  have hlater : Later sealed (sealed.disk.put exampleUndeclared "tamper\n".toUTF8 hresolve) := by
    refine ⟨rfl, noCollision_of fun p => ?_⟩
    by_cases hp : p = exampleUndeclared
    · exact .inr (.inl (hp ▸ hnone))
    · exact .inl (by rw [Disk.file?_put, if_neg hp])
  refine ⟨sealed, hseal, _, hlater, by rw [houtput]; rfl, hnone, by rw [Disk.file?_put, if_pos rfl], ?_⟩
  refine (verify_accepts h hlater).mpr ⟨?_, fun p => ?_⟩
  · have hwalk : walk (exampleTree ["/", "home", "build", "tree"]) sealed.manifestPath.dropLast = [] := by
      rw [hpath]
      rfl
    have hids := exampleIds_nodup
    rw [exampleIds_cons] at hids
    rw [hwalk]
    exact (List.nodup_cons.mp hids).2
  · have hdirectory : sealed.manifestPath.dropLast = ["/", "home", "build", "tree"] ++ sealed.output := by
      rw [h.manifestPath, List.dropLast_concat]
    have hmanifest : (exampleTree ["/", "home", "build", "tree"]).resolve sealed.manifestPath = sealed.manifestPath := rfl
    rw [hmanifest, hdirectory, Inventory.record_of_not_mem (hskipped p), Inventory.record_of_not_mem (hskipped p)]

theorem sealDetects_iff_example :
    letI := asciiRuntime
    ∃ sealed, sealDirectory (exampleTree ["/", "home", "tree"]) "case-1" ⟨63902822400000000, by decide⟩ = .ok sealed ∧
      SealDetects sealed := by
  let := asciiRuntime
  obtain ⟨sealed, hseal, hpath⟩ := exampleTree_seal ["/", "home", "tree"] ⟨63902822400000000, by decide⟩
  refine ⟨sealed, hseal, ?_⟩
  have hclaim := sealDetects_iff hseal
  refine hclaim.1.mpr ⟨?_, (hclaim.2 rfl).mpr (.inl (by decide))⟩
  have hwalk : walk (exampleTree ["/", "home", "tree"]) sealed.manifestPath.dropLast = [(exampleResult, "null\n".toUTF8)] := by
    rw [hpath]
    rfl
  rw [hwalk]
  exact exampleIds_nodup

end Pmiri
