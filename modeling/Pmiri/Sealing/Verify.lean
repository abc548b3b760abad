import Pmiri.Sealing.Seal
import Pmiri.Python.Json
import Pmiri.Inventory

/-!
# What verification accepts

The verdict of `verify_seal` on a manifest that `seal_directory` wrote: it
accepts exactly if the entries have distinct identifiers and the files that the
second walk finds match what the first one recorded.
-/

namespace Pmiri

open Py

section

variable [Runtime] {root : List String}

/-! ## Walks -/

theorem mem_walk {disk : Disk root} {destination : List String} {p : RelPath} {content : ByteArray} :
    (p, content) ∈ walk disk destination ↔ disk.file? p = some content ∧ skipped root destination p = false := by
  rw [disk.file?_eq_some, walk, List.mem_filterMap]
  constructor
  · rintro ⟨⟨q, entry⟩, hq, h⟩
    cases entry with
    | file c =>
      simp only [Option.ite_none_left_eq_some, Bool.not_eq_true, Option.some.injEq, Prod.mk.injEq] at h
      obtain ⟨hs, rfl, rfl⟩ := h
      exact ⟨hq, hs⟩
    | directory => cases h
    | symlink => cases h
  · rintro ⟨hp, hs⟩
    exact ⟨_, hp, by simp [hs]⟩

/-- The paths of a walk are distinct. -/
theorem nodup_walk (disk : Disk root) (destination : List String) : ((walk disk destination).map Prod.fst).Nodup := by
  have hsub : ((walk disk destination).map Prod.fst).Sublist (disk.entries.map Prod.fst) := by
    rw [walk]
    induction disk.entries with
    | nil => exact List.Sublist.slnil
    | cons e es ih =>
      rw [List.filterMap_cons]
      split
      · exact ih.cons _
      · rename_i b hb
        have : b.1 = e.1 := by
          split at hb
          · split at hb
            · cases hb
            · cases hb
              rfl
          · cases hb
        rw [List.map_cons, List.map_cons, this]
        exact ih.cons_cons _
  exact disk.nodup.sublist hsub

/-- What a manifest records of the content of a file. -/
def contentDigest (content : ByteArray) : Nat × String := (content.size, sha256Bytes content)

/-- The paths that a walk does not skip. -/
def looksAt (root destination : List String) : Set RelPath := {p | skipped root destination p = false}

theorem mem_looksAt {destination : List String} {p : RelPath} :
    p ∈ looksAt root destination ↔ skipped root destination p = false := Iff.rfl

/-- What is recorded of a path is the digest of what the walk finds there. -/
theorem record_eq_some {disk : Disk root} {destination : List String} {p : RelPath} {digest : Nat × String} :
    Inventory.record contentDigest (looksAt root destination) disk.file? p = some digest ↔
      ∃ content, (p, content) ∈ walk disk destination ∧ contentDigest content = digest := by
  by_cases hp : p ∈ looksAt root destination
  · have hskip := mem_looksAt.mp hp
    rw [Inventory.record_of_mem hp, Option.map_eq_some_iff]
    exact exists_congr fun content => and_congr_left fun _ => by rw [mem_walk, and_iff_left hskip]
  · rw [Inventory.record_of_not_mem hp]
    refine ⟨fun h => (by cases h), ?_⟩
    rintro ⟨content, h, -⟩
    exact absurd (mem_walk.mp h).2 hp

theorem mem_walk_paths {disk : Disk root} {destination : List String} {p : RelPath} :
    p ∈ (walk disk destination).map Prod.fst ↔ ∃ content, (p, content) ∈ walk disk destination := by
  simp

/-- The files of one walk match those of another in paths, sizes and digests. -/
theorem matches_iff {disk disk' : Disk root} {destination destination' : List String} :
    Inventory.Matches contentDigest (looksAt root destination') disk'.file?
        (Inventory.record contentDigest (looksAt root destination) disk.file?) ↔
      (∀ p, p ∈ (walk disk' destination').map Prod.fst ↔ p ∈ (walk disk destination).map Prod.fst) ∧
        ∀ p c, (p, c) ∈ walk disk destination → ∃ c', disk'.file? p = some c' ∧ contentDigest c' = contentDigest c := by
  constructor
  · intro h
    have hrecord : ∀ p digest, (∃ c, (p, c) ∈ walk disk' destination' ∧ contentDigest c = digest) ↔
        ∃ c, (p, c) ∈ walk disk destination ∧ contentDigest c = digest := fun p digest => by
      rw [← record_eq_some, ← record_eq_some, h p]
    refine ⟨fun p => ?_, fun p c hc => ?_⟩
    · rw [mem_walk_paths, mem_walk_paths]
      constructor
      · rintro ⟨c, hc⟩
        obtain ⟨c', hc', -⟩ := (hrecord p _).mp ⟨c, hc, rfl⟩
        exact ⟨c', hc'⟩
      · rintro ⟨c, hc⟩
        obtain ⟨c', hc', -⟩ := (hrecord p _).mpr ⟨c, hc, rfl⟩
        exact ⟨c', hc'⟩
    · obtain ⟨c', hc', hdigest⟩ := (hrecord p _).mpr ⟨c, hc, rfl⟩
      exact ⟨c', (mem_walk.mp hc').1, hdigest⟩
  · rintro ⟨hpaths, hdigests⟩ p
    refine Option.ext fun digest => ?_
    rw [record_eq_some, record_eq_some]
    constructor
    · rintro ⟨c', hc', rfl⟩
      obtain ⟨c, hc⟩ := mem_walk_paths.mp ((hpaths p).mp (mem_walk_paths.mpr ⟨c', hc'⟩))
      obtain ⟨c'', hc'', hdigest⟩ := hdigests p c hc
      obtain rfl := Option.some.inj ((mem_walk.mp hc').1.symm.trans hc'')
      exact ⟨c, hc, hdigest.symm⟩
    · rintro ⟨c, hc, rfl⟩
      obtain ⟨c', hc'⟩ := mem_walk_paths.mp ((hpaths p).mpr (mem_walk_paths.mpr ⟨c, hc⟩))
      obtain ⟨c'', hc'', hdigest⟩ := hdigests p c hc
      obtain rfl := Option.some.inj ((mem_walk.mp hc').1.symm.trans hc'')
      exact ⟨c', hc', hdigest⟩

/-! ## The manifest that is read back -/

theorem bundleSha256_sortKeys (payload entries : Val) : bundleSha256 payload entries.sortKeys = bundleSha256 payload entries := by
  have hitems : ∀ v : Val, (Dict.ofItems [("manifest_payload_sha256", payload), ("entries", v)]).toVal =
      .dict [("manifest_payload_sha256", payload), ("entries", v)] := fun v => Dict.ofItems_toVal (by simp)
  rw [bundleSha256, bundleSha256, hitems, hitems]
  simp only [sha256Json, canonicalJson, Val.json, Val.jsonItems, Val.json_sortKeys]

omit [Runtime] in
theorem sortKeys_entriesVal (entries : List Dict) : (entriesVal entries).sortKeys = .list ((entries.map Dict.sortKeys).map Dict.toVal) := by
  rw [entriesVal, Dict.sortKeys_list]

omit [Runtime] in
theorem mapM_asMapping (entries : List Dict) : (entries.map Dict.toVal).mapM asMapping = .ok entries := by
  induction entries with
  | nil => rfl
  | cons d entries ih =>
    rw [List.map_cons, List.mapM_cons, ih, asMapping, Val.asDict_toVal]
    rfl

/-- Both fingerprints of a manifest are those that verification computes. -/
theorem verifyManifest_sealManifest (disk : Disk root) (path : List String) (caseId now : String) (files : List (RelPath × ByteArray)) :
    verifyManifest disk path (sealManifest root caseId now files).sortKeys =
      verifyEntries disk path (sealManifest root caseId now files).sortKeys ((sealEntries caseId files).map Dict.sortKeys) := by
  generalize hmanifest : sealManifest root caseId now files = manifest
  obtain ⟨payload, hpayload, hkeys, hentries⟩ : ∃ payload : Dict,
      manifest = ((payload.insert "manifest_payload_sha256" (.str (sha256Json payload.toVal))).insert "bundle_sha256"
        (.str (bundleSha256 (.str (sha256Json payload.toVal)) (entriesVal (sealEntries caseId files))))).insert "seal"
          (sealRecord (REQUIRED_ROLES.all fun role => (presentRoles files).contains role)).toVal ∧
      (∀ k ∈ payload.keys, (!payloadExcluded.contains k) = true) ∧
      payload.get "entries" = entriesVal (sealEntries caseId files) := by
    refine ⟨_, hmanifest.symm, ?_, ?_⟩
    · simp [manifestPayload, Dict.keys_ofItems, payloadExcluded]
    · simp [manifestPayload, Dict.get_insert, Dict.ofItems]
  have hclaimed : manifest.sortKeys.get "manifest_payload_sha256" = .str (sha256Json payload.toVal) := by
    rw [Dict.get_sortKeys, hpayload]
    simp [Dict.get_insert, Val.sortKeys]
  have hbundle : manifest.sortKeys.get "bundle_sha256" =
      .str (bundleSha256 (.str (sha256Json payload.toVal)) (entriesVal (sealEntries caseId files))) := by
    rw [Dict.get_sortKeys, hpayload]
    simp [Dict.get_insert, Val.sortKeys]
  have hlist : manifest.sortKeys.get "entries" = (entriesVal (sealEntries caseId files)).sortKeys := by
    rw [Dict.get_sortKeys, hpayload]
    simp [Dict.get_insert, hentries]
  have hfilter : manifest.sortKeys.filterKeys (!payloadExcluded.contains ·) = payload.sortKeys := by
    rw [Dict.filterKeys_sortKeys, hpayload, Dict.filterKeys_insert (by simp [payloadExcluded]),
      Dict.filterKeys_insert (by simp [payloadExcluded]), Dict.filterKeys_insert (by simp [payloadExcluded]), Dict.filterKeys_self hkeys]
  have hsha : sha256Json payload.sortKeys.toVal = sha256Json payload.toVal := by
    rw [← Dict.toVal_sortKeys, sha256Json_sortKeys]
  simp only [verifyManifest, hclaimed, hfilter, hsha, Val.eq_refl, Bool.not_true, Bool.false_eq_true, if_false, hbundle, hlist,
    bundleSha256_sortKeys]
  rw [sortKeys_entriesVal]
  simp only [mapM_asMapping, ok_bind]

/-! ## The entries that are read back -/

/-- The roles that no file has. -/
def absentRoles (files : List (RelPath × ByteArray)) : List String :=
  REQUIRED_ROLES.filter fun role => !(presentRoles files).contains role

/-- The identifiers of the entries. -/
def entryIds (caseId : String) (files : List (RelPath × ByteArray)) : List String :=
  files.map (fun file => entryId (.ofItems [("path", .str file.1.asPosix)])) ++
    (absentRoles files).map fun role => entryId (.ofItems [("role", .str role), ("case_id", .str caseId)])

/-- The entries as they are read back, up to their order. -/
theorem entries_perm (caseId : String) (files : List (RelPath × ByteArray)) :
    ((sealEntries caseId files).map Dict.sortKeys).Perm
      (files.map (fun file => (fileEntry file).sortKeys) ++ (absentRoles files).map fun role => (roleEntry caseId role).sortKeys) := by
  have h := (Keyed.sortBy_perm entryKey (files.map fileEntry ++ (absentRoles files).map (roleEntry caseId))).map Dict.sortKeys
  rw [List.map_append, List.map_map, List.map_map] at h
  exact h

theorem get_fileEntry (file : RelPath × ByteArray) :
    (fileEntry file).sortKeys.get "entry_id" = .str (entryId (.ofItems [("path", .str file.1.asPosix)])) ∧
    (fileEntry file).sortKeys.get "path" = .str file.1.asPosix ∧
    (fileEntry file).sortKeys.get "byte_length" = .int file.2.size ∧
    (fileEntry file).sortKeys.get "sha256" = .str (sha256Bytes file.2) ∧
    (fileEntry file).sortKeys.get "presence" = .str "PRESENT" := by
  simp [Dict.get_sortKeys, fileEntry, Dict.get_insert, Dict.ofItems, Val.sortKeys]

theorem get_roleEntry (caseId role : String) :
    (roleEntry caseId role).sortKeys.get "entry_id" = .str (entryId (.ofItems [("role", .str role), ("case_id", .str caseId)])) ∧
    (roleEntry caseId role).sortKeys.get "path" = .none ∧
    (roleEntry caseId role).sortKeys.get "presence" = .str "NOT_APPLICABLE" ∧
    ((roleEntry caseId role).sortKeys.get "not_applicable_reason").truthy = true := by
  simp [Dict.get_sortKeys, roleEntry, Dict.get_insert, Dict.ofItems, Val.sortKeys, Val.truthy]

omit [Runtime] in
/-- A rearrangement of texts is a list of texts. -/
theorem exists_strs_of_perm {vs : List Val} {texts : List String} (h : vs.Perm (texts.map .str)) :
    ∃ texts' : List String, vs = texts'.map .str ∧ texts'.Perm texts := by
  refine ⟨vs.map Val.strText, ?_, ?_⟩
  · rw [List.map_map]
    conv => lhs; rw [← List.map_id vs]
    refine List.map_congr_left fun v hv => ?_
    obtain ⟨s, -, rfl⟩ := List.mem_map.mp (h.mem_iff.mp hv)
    rfl
  · have := h.map Val.strText
    rw [List.map_map] at this
    exact this.trans (by rw [show Val.strText ∘ Val.str = id from rfl, List.map_id])

theorem ids_of_entries (caseId : String) (files : List (RelPath × ByteArray)) :
    ∃ ids : List String, ((sealEntries caseId files).map Dict.sortKeys).map (·.get "entry_id") = ids.map .str ∧
      ids.Perm (entryIds caseId files) := by
  refine exists_strs_of_perm (((entries_perm caseId files).map _).trans (List.Perm.of_eq ?_))
  rw [entryIds, List.map_append, List.map_append, List.map_map, List.map_map, List.map_map, List.map_map]
  exact congrArg₂ _ (List.map_congr_left fun file _ => (get_fileEntry file).1)
    (List.map_congr_left fun role _ => (get_roleEntry caseId role).1)

theorem paths_of_entries (caseId : String) (files : List (RelPath × ByteArray)) :
    ∃ paths : List String, (((sealEntries caseId files).map Dict.sortKeys).filter fun e => !differs e "presence" "PRESENT").map
        (·.get "path") = paths.map .str ∧ paths.Perm (files.map fun file => file.1.asPosix) := by
  refine exists_strs_of_perm ((((entries_perm caseId files).filter _).map _).trans (List.Perm.of_eq ?_))
  have hpresent : ∀ file, (!differs (fileEntry file).sortKeys "presence" "PRESENT") = true := fun file => by
    rw [Bool.not_eq_true', differs_false, (get_fileEntry file).2.2.2.2]
  have habsent : ∀ role, (!differs (roleEntry caseId role).sortKeys "presence" "PRESENT") = false := fun role => by
    rw [Bool.not_eq_false', differs_true, (get_roleEntry caseId role).2.2.1]
    simp
  rw [List.filter_append, List.filter_map, List.filter_map, List.filter_eq_self.mpr fun file _ => ?_,
    List.filter_eq_nil_iff.mpr fun role _ => ?_, List.map_nil, List.append_nil, List.map_map, List.map_map]
  · exact List.map_congr_left fun file _ => (get_fileEntry file).2.1
  · exact Bool.eq_false_iff.mp (habsent role)
  · exact hpresent file

/-! ## The verdict -/

omit [Runtime] in
theorem inventoryMismatch_str (listed actual : List String) :
    ∃ reason, inventoryMismatch (listed.map .str) actual = .ok reason ∧ (reason = none ↔ ∀ s, s ∈ actual ↔ s ∈ listed) := by
  have hmissing : (listed.map Val.str).filter (fun v => !actual.any fun a => v.eq (.str a)) =
      (listed.filter fun s => !actual.contains s).map .str := by
    rw [List.filter_map]
    refine congrArg _ (List.filter_congr fun s _ => ?_)
    rw [List.contains_eq_any_beq, Function.comp_apply]
    exact congrArg (! List.any actual ·) (funext fun a => by simp [Val.eq])
  have hextra : actual.filter (fun a => !(listed.map Val.str).any (·.eq (.str a))) = actual.filter fun a => !listed.contains a := by
    refine List.filter_congr fun a _ => ?_
    rw [List.contains_eq_any_beq, List.any_map]
    exact congrArg (! List.any listed ·) (funext fun s => by simp [Val.eq, BEq.comm])
  have hsame : ((listed.filter fun s => !actual.contains s) = [] ∧ (actual.filter fun a => !listed.contains a) = []) ↔
      ∀ s, s ∈ actual ↔ s ∈ listed := by
    simp only [List.filter_eq_nil_iff, Bool.not_eq_true', Bool.not_eq_false, List.contains_iff_mem]
    exact ⟨fun h s => ⟨h.2 s, h.1 s⟩, fun h => ⟨fun s => (h s).mpr, fun s => (h s).mp⟩⟩
  have hempty : ((((listed.map Val.str).filter fun v => !actual.any fun a => v.eq (.str a)).isEmpty &&
      (actual.filter fun a => !(listed.map Val.str).any (·.eq (.str a))).isEmpty) = true) ↔ ∀ s, s ∈ actual ↔ s ∈ listed := by
    rw [hmissing, hextra, Bool.and_eq_true, List.isEmpty_map, List.isEmpty_iff, List.isEmpty_iff, hsame]
  unfold inventoryMismatch
  dsimp only
  split
  · rename_i h
    exact ⟨_, rfl, fun _ => hempty.mp h, fun _ => rfl⟩
  · rename_i h
    split
    · exact ⟨_, rfl, fun e => (by cases e), fun e => absurd (hempty.mpr e) h⟩
    · have hstr : ((listed.map Val.str).filter fun v => !actual.any fun a => v.eq (.str a)).all Val.isStr = true := by
        rw [hmissing, List.all_map]
        exact List.all_eq_true.mpr fun _ _ => rfl
      rw [if_pos hstr]
      exact ⟨_, rfl, fun e => (by cases e), fun e => absurd (hempty.mpr e) h⟩

/-- The entry of a file that is still there is right if its size and digest are. -/
theorem entryObjection_fileEntry {disk : Disk root} {p : RelPath} {content content' : ByteArray} (h : disk.file? p = some content') :
    entryObjection disk (fileEntry (p, content)).sortKeys = none ↔ contentDigest content' = contentDigest content := by
  obtain ⟨-, hpath, hlength, hsha, hpresence⟩ := get_fileEntry (p, content)
  have hinside : isParent root (root ++ p.names) = true := by
    rw [isParent, Bool.and_eq_true, bne_iff_ne]
    exact ⟨by simp, fun e => p.nonempty (List.self_eq_append_right.mp e)⟩
  have hna : differs (fileEntry (p, content)).sortKeys "presence" "NOT_APPLICABLE" = true := by
    rw [differs_true, hpresence]
    simp
  have hpresent : differs (fileEntry (p, content)).sortKeys "presence" "PRESENT" = false := by
    rw [differs_false, hpresence]
  have hcandidate : disk.resolve (joinPath root p.asPosix) = root ++ p.names := by
    rw [RelPath.joinPath_asPosix, disk.resolve_of_file? h]
  simp only [entryObjection, hna, hpath, hpresent, hcandidate, hinside, disk.fileAt_append, h, hlength, Bool.not_true, Bool.false_eq_true,
    if_false, Bool.false_and]
  rw [contentDigest, contentDigest, Prod.mk.injEq]
  have hsize : (!(Val.int content.size).eq (.int content'.size)) = true ↔ content'.size ≠ content.size := by
    rw [Val.int_eq_int, Bool.not_eq_true', beq_eq_false_iff_ne, Ne, Ne, Int.natCast_inj, eq_comm]
  have hdigest : differs (fileEntry (p, content)).sortKeys "sha256" (sha256Bytes content') = true ↔
      sha256Bytes content' ≠ sha256Bytes content := by
    rw [differs_true, hsha, ne_comm, Ne, Ne, Val.str.injEq]
  rw [ite_eq_right_iff, Bool.or_eq_true, hsize, hdigest]
  simp only [reduceCtorEq, imp_false, not_or, not_not]

theorem entryObjection_roleEntry (disk : Disk root) (caseId role : String) : entryObjection disk (roleEntry caseId role).sortKeys = none := by
  obtain ⟨-, hpath, hpresence, hreason⟩ := get_roleEntry caseId role
  have hna : differs (roleEntry caseId role).sortKeys "presence" "NOT_APPLICABLE" = false := by
    rw [differs_false, hpresence]
  simp [entryObjection, hna, hpath, hreason, Val.isNone]

/-- The entries of files that are still there are right if the sizes and digests are. -/
theorem entryObjections_eq_none {disk : Disk root} {files : List (RelPath × ByteArray)} (caseId : String)
    (hthere : ∀ p c, (p, c) ∈ files → ∃ c', disk.file? p = some c') :
    ((sealEntries caseId files).map Dict.sortKeys).findSome? (entryObjection disk) = none ↔
      ∀ p c, (p, c) ∈ files → ∃ c', disk.file? p = some c' ∧ contentDigest c' = contentDigest c := by
  rw [List.findSome?_eq_none_iff]
  constructor
  · intro h p c hmem
    obtain ⟨c', hc'⟩ := hthere p c hmem
    refine ⟨c', hc', (entryObjection_fileEntry hc').mp (h _ ((entries_perm caseId files).mem_iff.mpr ?_))⟩
    exact List.mem_append_left _ (List.mem_map.mpr ⟨(p, c), hmem, rfl⟩)
  · intro h e he
    rcases List.mem_append.mp ((entries_perm caseId files).mem_iff.mp he) with hfile | hrole
    · obtain ⟨⟨p, c⟩, hmem, rfl⟩ := List.mem_map.mp hfile
      obtain ⟨c', hc', hdigest⟩ := h p c hmem
      exact (entryObjection_fileEntry hc').mpr hdigest
    · obtain ⟨role, -, rfl⟩ := List.mem_map.mp hrole
      exact entryObjection_roleEntry disk caseId role

omit [Runtime] in
theorem asPosix_mem_iff {files : List (RelPath × ByteArray)} {p : RelPath} :
    p.asPosix ∈ files.map (·.1.asPosix) ↔ p ∈ files.map Prod.fst := by
  simp only [List.mem_map]
  exact exists_congr fun e => and_congr_right fun _ => ⟨RelPath.asPosix_inj, congrArg _⟩

omit [Runtime] in
/-- Two lists of files have the same paths exactly if they have the same texts of paths. -/
theorem asPosix_same_iff {files files' : List (RelPath × ByteArray)} :
    (∀ s, s ∈ files'.map (·.1.asPosix) ↔ s ∈ files.map (·.1.asPosix)) ↔
      ∀ p, p ∈ files'.map Prod.fst ↔ p ∈ files.map Prod.fst := by
  constructor
  · intro h p
    rw [← asPosix_mem_iff, h, asPosix_mem_iff]
  · intro h s
    constructor
    · intro hs
      obtain ⟨e, -, rfl⟩ := List.mem_map.mp hs
      rwa [asPosix_mem_iff, ← h, ← asPosix_mem_iff]
    · intro hs
      obtain ⟨e, -, rfl⟩ := List.mem_map.mp hs
      rwa [asPosix_mem_iff, h, ← asPosix_mem_iff]

theorem required_roles_sealManifest (root : List String) (caseId now : String) (files : List (RelPath × ByteArray)) :
    (sealManifest root caseId now files).sortKeys.getD "required_roles" (.list []) = .list (REQUIRED_ROLES.map .str) := by
  rw [Dict.getD, Dict.get?_sortKeys]
  simp [sealManifest, Dict.get?_insert, manifestPayload, Dict.ofItems, strList, Val.sortKeys, Val.sortKeysList_eq_map]

/-- Verification accepts what was sealed exactly if the identifiers of the
entries are distinct and the files match. -/
theorem verifyEntries_sealManifest (disk disk' : Disk root) (destination path : List String) (caseId now : String) :
    ∃ verdict reason, verifyEntries disk' path (sealManifest root caseId now (walk disk destination)).sortKeys
        ((sealEntries caseId (walk disk destination)).map Dict.sortKeys) = .ok (verdict, reason) ∧
      (verdict = true ↔ (entryIds caseId (walk disk destination)).Nodup ∧
        Inventory.Matches contentDigest (looksAt root path.dropLast) disk'.file?
          (Inventory.record contentDigest (looksAt root destination) disk.file?)) ∧
      (verdict = true → reason = "SEALED") := by
  rw [matches_iff]
  obtain ⟨ids, hids, hidsPerm⟩ := ids_of_entries caseId (walk disk destination)
  obtain ⟨paths, hpaths, hpathsPerm⟩ := paths_of_entries caseId (walk disk destination)
  have hpathsNodup : paths.Nodup := by
    rw [hpathsPerm.nodup_iff]
    have := (nodup_walk disk destination).map fun p q h => RelPath.asPosix_inj h
    rwa [List.map_map] at this
  have hsameSet : Val.sameSet (REQUIRED_ROLES.map .str) (REQUIRED_ROLES.map .str) = .ok true := Val.sameSet_self (by decide)
  obtain ⟨mismatch, hmismatch, hnone⟩ := inventoryMismatch_str paths ((walk disk' path.dropLast).map (·.1.asPosix))
  have hnone : mismatch = none ↔
      ∀ p, p ∈ (walk disk' path.dropLast).map Prod.fst ↔ p ∈ (walk disk destination).map Prod.fst := by
    rw [hnone, ← asPosix_same_iff]
    exact forall_congr' fun s => iff_congr Iff.rfl hpathsPerm.mem_iff
  have hroles : pyNot (.ok true) = .ok false := rfl
  simp only [verifyEntries, hpaths, hids, Val.distinct_str, required_roles_sealManifest, Val.elements, hsameSet, hmismatch, ok_bind,
    hpathsNodup, decide_true, hidsPerm.nodup_iff, hroles]
  by_cases hnodup : (entryIds caseId (walk disk destination)).Nodup
  · simp only [hnodup, decide_true, Bool.false_eq_true, if_false, true_and]
    rcases mismatch with _ | reason
    · have hsame := hnone.mp rfl
      have hentries := entryObjections_eq_none caseId fun p c (hmem : (p, c) ∈ walk disk destination) => by
        obtain ⟨c', hc'⟩ := mem_walk_paths.mp ((hsame p).mpr (mem_walk_paths.mpr ⟨c, hmem⟩))
        exact ⟨c', (mem_walk.mp hc').1⟩
      rcases hfind : ((sealEntries caseId (walk disk destination)).map Dict.sortKeys).findSome? (entryObjection disk') with _ | reason
      · exact ⟨true, "SEALED", rfl, ⟨fun _ => ⟨hsame, hentries.mp hfind⟩, fun _ => rfl⟩, fun _ => rfl⟩
      · refine ⟨false, reason, rfl, ⟨fun e => (by cases e), fun h => ?_⟩, fun e => (by cases e)⟩
        rw [hentries.mpr h.2] at hfind
        cases hfind
    · refine ⟨false, reason, rfl, ⟨fun e => (by cases e), fun h => ?_⟩, fun e => (by cases e)⟩
      cases hnone.mpr h.1
  · simp only [hnodup, decide_false, false_and]
    exact ⟨false, _, rfl, ⟨fun e => (by cases e), fun e => e.elim⟩, fun e => (by cases e)⟩

theorem verifySeal_some (disk : Disk root) (manifestPath : List String) (manifest : Dict) :
    verifySeal disk manifestPath (some manifest.toVal) = verifyManifest disk (disk.resolve manifestPath) manifest := by
  rw [verifySeal, asMapping, Val.asDict_toVal]
  rfl

/-- `verify_seal` on a manifest that `seal_directory` wrote. -/
theorem verifySeal_sealManifest (disk disk' : Disk root) (destination manifestPath : List String) (caseId now : String) :
    ∃ verdict reason, verifySeal disk' manifestPath (some (sealManifest root caseId now (walk disk destination)).toVal.sortKeys) =
        .ok (verdict, reason) ∧
      (verdict = true ↔ (entryIds caseId (walk disk destination)).Nodup ∧
        Inventory.Matches contentDigest (looksAt root (disk'.resolve manifestPath).dropLast) disk'.file?
          (Inventory.record contentDigest (looksAt root destination) disk.file?)) ∧
      (verdict = true → reason = "SEALED") := by
  rw [Dict.toVal_sortKeys, verifySeal_some, verifyManifest_sealManifest]
  exact verifyEntries_sealManifest disk disk' destination (disk'.resolve manifestPath) caseId now

end

end Pmiri
