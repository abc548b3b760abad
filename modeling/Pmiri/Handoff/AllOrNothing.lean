import Pmiri.Handoff.Copying

/-!
# All or nothing

A bundle that is created is verified, or it was never begun, exactly if the
preflight record is an object whose result can be written, no static file is a
symbolic link, and the destination is not where the second inventory finds it.
-/

namespace Pmiri

open Py

/-! ## Where a bundle can be begun -/

/-- Something that is not a directory is on the way to a path. -/
def Blocked (fs : FileSystem) (path : List String) : Prop :=
  ∃ p entry, (p, entry) ∈ fs.entries ∧ "/" :: p.names <+: path ∧ entry ≠ .directory

section

variable {fs : FileSystem} {dest : RelPath}

theorem newAt_of_unblocked (hfs : Regular fs) (hresolve : fs.resolve ("/" :: dest.names) = "/" :: dest.names)
    (hnew : fs.pathExists ("/" :: dest.names) = false) (hclear : ¬ Blocked fs ("/" :: dest.names)) : NewAt fs dest where
  resolve := hresolve
  before p entry hp hstart := by
    by_contra hne
    exact hclear ⟨p, entry, hp, (List.prefix_cons_inj "/").mpr hstart, hne⟩
  nothing := by
    have hnone : ∀ entry, (dest, entry) ∉ fs.entries := by
      intro entry hdest
      have hbelow : Disk.below ["/"] ("/" :: dest.names) = some dest := Disk.below_append dest
      rw [Disk.pathExists, hresolve, hbelow, Option.bind_some, fs.entry?_eq_some.mpr hdest, Bool.or_eq_false_iff] at hnew
      exact Bool.false_ne_true hnew.2.symm
    intro p entry hp hstart
    by_cases heq : dest = p
    · exact hnone entry (heq ▸ hp)
    · exact hnone _ (hfs.directory_before hp hstart heq)

theorem NewAt.resolve_join (hfs : Regular fs) (h : NewAt fs dest) (p : RelPath) :
    fs.resolve ("/" :: (dest.join p).names) = "/" :: (dest.join p).names := by
  have hfree : Free fs [] (dest.join p) := h.free hfs p fun _ hfile => by cases hfile
  exact hfree.resolve

theorem Blocked.makeDirectories {path path' : List String} (h : Blocked fs path) (hstart : path <+: path') :
    fs.makeDirectories path' = .error (.osError "File exists") := by
  obtain ⟨p, entry, hp, hbefore, hne⟩ := h
  exact fs.makeDirectories_blocked hp (hbefore.trans hstart) hne

/-- Once a file is below it, there is something at the destination. -/
theorem Added.pathExists {fs' : FileSystem} {files : List (RelPath × ByteArray)} (h : Added fs fs' files)
    (hresolve : fs.resolve ("/" :: dest.names) = "/" :: dest.names) {p : RelPath} {content : ByteArray}
    (hfile : (dest.join p, content) ∈ files) : fs'.pathExists ("/" :: dest.names) = true := by
  have hmade : (dest, .directory) ∈ fs'.entries :=
    h.made _ hfile dest (List.prefix_append _ _) fun e => join_ne dest p e.symm
  have hbelow : Disk.below ["/"] ("/" :: dest.names) = some dest := Disk.below_append dest
  rw [Disk.pathExists, h.resolve, hresolve, hbelow, Option.bind_some, fs'.entry?_eq_some.mpr hmade]
  exact Bool.or_true _

/-- What a walk finds is no symbolic link. -/
theorem not_symlink_of_walk (hfs : Regular fs) {names : List String} {p q : RelPath} {content : ByteArray}
    (hp : (p, .file content) ∈ fs.entries) (hnames : "/" :: p.names = fs.resolve ("/" :: names) ++ q.names) :
    fs.isSymlink ("/" :: names ++ q.names) = false := by
  have hvalid : q.names.dropLast.all validName = true := by
    rw [List.all_eq_true]
    exact fun name hname => List.all_eq_true.mp q.valid name (List.dropLast_subset _ hname)
  have hparent : fs.resolve ("/" :: names ++ q.names.dropLast) = fs.resolve ("/" :: names) ++ q.names.dropLast := by
    rw [hfs.resolve_append _ _ hvalid]
    refine hfs.resolve_plain (fs.resolve_resolve _) hvalid fun p' rest hrest _ hp' hlink => ?_
    have hshort : ¬ q.names <+: rest := fun h => not_before_parent q (h.trans hrest)
    have hbefore : "/" :: p'.names <+: "/" :: p.names := by
      rw [hnames, hp', List.prefix_append_right_inj]
      exact hrest.trans (List.dropLast_prefix _)
    have hne : p' ≠ p := by
      intro e
      rw [e, hnames] at hp'
      exact hshort (List.append_cancel_left hp' ▸ List.prefix_refl _)
    cases entry_unique hlink (hfs.directory_before hp ((List.prefix_cons_inj "/").mp hbefore) hne)
  have hlast : q.names.dropLast ++ ("/" :: names ++ q.names).getLast?.toList = q.names := by
    rw [List.getLast?_append_of_ne_nil _ q.nonempty, List.getLast?_eq_some_getLast q.nonempty]
    exact List.dropLast_append_getLast q.nonempty
  have hbelow : Disk.below ["/"] ("/" :: p.names) = some p := Disk.below_append p
  rw [Disk.isSymlink, List.dropLast_append_of_ne_nil q.nonempty, hparent, List.append_assoc, hlast, ← hnames, hbelow, Option.bind_some,
    fs.entry?_eq_some.mpr hp]

end

/-! ## Verification of what was copied -/

section

variable {fs fs' : FileSystem} {dest : RelPath} {sources : List (RelPath × ByteArray)} {manifest : ByteArray}
  {files : List (RelPath × ByteArray)}

namespace Bundled

variable (hfs : Regular fs) (hdest : NewAt fs dest) (h : Bundled fs fs' dest sources manifest files)

include hdest h

/-- What is below the destination is a file of the bundle, if it is a file. -/
theorem file_below {p : RelPath} {content : ByteArray} : (dest.join p, .file content) ∈ fs'.entries ↔ (dest.join p, content) ∈ files := by
  rw [h.added.file_iff]
  refine ⟨fun hp => hp.resolve_left fun hp => ?_, .inr⟩
  exact hdest.nothing _ _ hp (List.prefix_append _ _)

theorem file_place {q : RelPath} {content : ByteArray} :
    (placeOf dest q, .file content) ∈ fs'.entries ↔ (q, content) ∈ sources := by
  rw [placeOf, h.file_below hdest, h.mem_files]
  constructor
  · intro hq
    rcases hq with heq | ⟨source, hsource, heq⟩
    · have hnames := congrArg RelPath.names (RelPath.join_inj (congrArg Prod.fst heq))
      exact absurd (List.cons.inj hnames).1 (by decide)
    · have hq := RelPath.join_inj (RelPath.join_inj (congrArg Prod.fst heq))
      have hcontent : content = source.2 := congrArg Prod.snd heq
      rw [hq, hcontent]
      exact hsource
  · intro hq
    exact .inr ⟨_, hq, rfl⟩

include hfs

theorem resolve_join (p : RelPath) : fs'.resolve ("/" :: (dest.join p).names) = "/" :: (dest.join p).names := by
  rw [h.added.resolve]
  exact hdest.resolve_join hfs p

theorem contentAt_place {source : RelPath × ByteArray} (hsource : source ∈ sources) :
    fs'.contentAt (joinPath ("/" :: dest.names) ("payload/" ++ source.1.asPosix)) = some source.2 := by
  have hpath : joinPath ("/" :: dest.names) ("payload/" ++ source.1.asPosix) = "/" :: (placeOf dest source.1).names := by
    rw [joinPath_place, List.append_assoc]
    rfl
  rw [hpath, contentAt_iff]
  exact ⟨placeOf dest source.1, h.resolve_join hfs hdest _, (h.file_place hdest).mpr hsource⟩

/-- The files of the payload are the places of the sources. -/
theorem mem_actualPayloads (hne : sources ≠ []) {payload : String} :
    payload ∈ actualPayloads fs' ("/" :: dest.names) ↔ ∃ source ∈ sources, payload = "payload/" ++ source.1.asPosix := by
  have hresolve : fs'.resolve ("/" :: dest.names ++ ["payload"]) = ["/"] ++ (dest.join payloadName).names :=
    h.resolve_join hfs hdest payloadName
  have hdirectory : fs'.isDirectory ("/" :: dest.names ++ ["payload"]) = true := by
    rw [fs'.isDirectory_of_resolve hresolve]
    obtain ⟨source, rest, rfl⟩ := List.exists_cons_of_ne_nil hne
    have hfile := (h.mem_files _).mpr (.inr ⟨source, List.mem_cons_self, rfl⟩)
    have hplace : placeOf dest source.1 = (dest.join payloadName).join source.1 := (join_assoc _ _ _).symm
    exact h.added.made _ hfile _ (by rw [hplace]; exact List.prefix_append _ _) fun e => join_ne _ _ (hplace.symm.trans e.symm)
  have hpath : ∀ q : RelPath, "/" :: dest.names ++ ["payload"] ++ q.names = "/" :: (placeOf dest q).names := by
    intro q
    rw [List.append_assoc]
    rfl
  have hcontent : ∀ q : RelPath, fs'.contentAt ("/" :: (placeOf dest q).names) = fs'.file? (placeOf dest q) :=
    fun q => fs'.contentAt_of_resolve (h.resolve_join hfs hdest _)
  rw [actualPayloads, if_pos hdirectory, List.mem_filterMap]
  constructor
  · intro hmem
    obtain ⟨⟨q, entry⟩, -, hfile⟩ := hmem
    split at hfile
    · rename_i hisFile
      rw [hpath, Disk.isFile, hcontent, Option.isSome_iff_exists] at hisFile
      obtain ⟨content, hisFile⟩ := hisFile
      exact ⟨_, (h.file_place hdest).mp (fs'.file?_eq_some.mp hisFile), (Option.some.inj hfile).symm⟩
    · cases hfile
  · intro hmem
    obtain ⟨source, hsource, rfl⟩ := hmem
    have hfile := (h.file_place hdest).mpr hsource
    refine ⟨(source.1, .file source.2), (fs'.mem_rglob hresolve).mpr ?_, if_pos ?_⟩
    · rw [join_assoc]
      exact hfile
    · rw [hpath, Disk.isFile, hcontent, fs'.file?_eq_some.mpr hfile]
      rfl

end Bundled

end

section

variable [Runtime] {fs fs' : FileSystem} {rootNames : List String} {dest : RelPath} {sources : List (RelPath × ByteArray)}
  {manifest : ByteArray} {files : List (RelPath × ByteArray)}

theorem handoffRole_ne_empty (relative : String) : handoffRole relative ≠ "" := by
  unfold handoffRole
  dsimp only
  split_ifs <;> decide

theorem entryOf_sourceEntry (source : RelPath × ByteArray) :
    EntryOf (sourceEntry source).sortKeys source.1.asPosix ("payload/" ++ source.1.asPosix) (handoffRole source.1.asPosix) source.2 :=
  entryOf_handoffEntry _ _ _ _

theorem entrySource_sourceEntry (source : RelPath × ByteArray) : entrySource (sourceEntry source).sortKeys = source.1.asPosix := by
  rw [entrySource, (entryOf_sourceEntry source).source_path, Val.strText]

theorem entryPayload_sourceEntry (source : RelPath × ByteArray) :
    entryPayload (sourceEntry source).sortKeys = "payload/" ++ source.1.asPosix := by
  rw [entryPayload, (entryOf_sourceEntry source).payload_path, Val.strText]

theorem mem_map_entrySource {s : String} :
    s ∈ ((sources.map sourceEntry).map Dict.sortKeys).map entrySource ↔ s ∈ sources.map (·.1.asPosix) := by
  rw [List.map_map, List.map_map]
  have hfun : entrySource ∘ Dict.sortKeys ∘ sourceEntry = (·.1.asPosix) := funext entrySource_sourceEntry
  rw [← hfun]
  rfl

theorem mem_map_entryPayload {s : String} :
    s ∈ ((sources.map sourceEntry).map Dict.sortKeys).map entryPayload ↔ ∃ source ∈ sources, s = "payload/" ++ source.1.asPosix := by
  rw [List.map_map, List.map_map, List.mem_map]
  refine exists_congr fun source => and_congr_right fun _ => ?_
  show entryPayload (sourceEntry source).sortKeys = s ↔ _
  rw [entryPayload_sourceEntry]
  exact eq_comm

theorem manifestEntries_handoffManifest {head : HandoffHead} :
    manifestEntries (handoffManifest head (sources.map sourceEntry)).sortKeys = (sources.map sourceEntry).map Dict.sortKeys := by
  rw [manifestEntries, entries_handoffManifest]
  dsimp only
  rw [List.filterMap_map]
  have hfun : Val.asDict ∘ Dict.toVal = some := funext Val.asDict_toVal
  rw [hfun, List.filterMap_some]

namespace Bundled

omit [Runtime] in
theorem manifestPath_eq (hfs : Regular fs) (hdest : NewAt fs dest) (h : Bundled fs fs' dest sources manifest files) :
    (fs'.resolve ("/" :: dest.names ++ ["handoff-manifest.json"])).dropLast = "/" :: dest.names := by
  have hresolve : fs'.resolve ("/" :: dest.names ++ ["handoff-manifest.json"]) = "/" :: dest.names ++ ["handoff-manifest.json"] :=
    h.resolve_join hfs hdest manifestName
  rw [hresolve]
  exact List.dropLast_concat

/-- A bundle that is verified is not seen by the second inventory. -/
theorem unseen_of_verified (hfs : Regular fs) (hdest : NewAt fs dest) (h : Bundled fs fs' dest sources manifest files)
    (hsources : Sources fs rootNames sources) {bundle names' : List String}
    (hverified : Verified fs' bundle ("/" :: rootNames) ((sources.map sourceEntry).map Dict.sortKeys) names') :
    ¬ SeenAt fs ("/" :: rootNames) ("/" :: dest.names) := by
  intro hseen
  obtain ⟨directory, hdirectory, q, hmem, hpath⟩ := h.collect_of_seen hfs hverified.collected hseen
  obtain ⟨D, -, rfl⟩ := sourceDirectories_eq hdirectory
  rw [← RelPath.asPosix_join, ← hverified.sources_named, mem_map_entrySource] at hmem
  obtain ⟨⟨P, content⟩, hsource, heq⟩ := List.mem_map.mp hmem
  obtain rfl := RelPath.asPosix_inj heq
  obtain ⟨p, hp⟩ := hsources.found _ hsource
  have hresolve : fs.resolve ("/" :: rootNames ++ (D.join q).names) = "/" :: (dest.join manifestName).names := by
    rw [RelPath.joinPath_asPosix] at hpath
    rw [RelPath.join, ← List.append_assoc, List.cons_append, hfs.resolve_append _ _ q.valid, ← List.cons_append, hpath]
    exact hdest.resolve_join hfs manifestName
  have hnames : p.names = (dest.join manifestName).names := (List.cons.inj (hp.resolve.symm.trans hresolve)).2
  exact hdest.nothing p _ hp.file (by rw [hnames]; exact List.prefix_append _ _)

/-- A bundle of sources none of which is a symbolic link is verified, unless the second inventory finds it. -/
theorem verifiable (hfs : Regular fs) (hdest : NewAt fs dest) (h : Bundled fs fs' dest sources manifest files)
    (hsources : Sources fs rootNames sources) {names : List String} (hcollect : collectSources fs ("/" :: rootNames) = .ok names)
    (hnames : names = sources.map (·.1.asPosix)) (hne : sources ≠ [])
    (hplain : ∀ relative ∈ STATIC_FILES, fs.isSymlink (joinPath ("/" :: rootNames) relative) = false)
    (hunseen : ¬ SeenAt fs ("/" :: rootNames) ("/" :: dest.names)) :
    ∃ names', Verifiable fs' ("/" :: dest.names) ("/" :: rootNames) ((sources.map sourceEntry).map Dict.sortKeys) names' := by
  obtain ⟨names', hcollect'⟩ := h.collect hcollect
  have hentry : ∀ entry ∈ (sources.map sourceEntry).map Dict.sortKeys, ∃ source ∈ sources, entry = (sourceEntry source).sortKeys := by
    intro entry hentry
    obtain ⟨e, he, rfl⟩ := List.mem_map.mp hentry
    obtain ⟨source, hsource, rfl⟩ := List.mem_map.mp he
    exact ⟨source, hsource, rfl⟩
  refine ⟨names', ?_, ?_, ?_, ?_, ?_, hcollect', ?_⟩
  · intro hnil
    exact hne (List.map_eq_nil_iff.mp (List.map_eq_nil_iff.mp hnil))
  · intro entry hmem seen hseen
    obtain ⟨source, hsource, rfl⟩ := hentry entry hmem
    rw [entryPayload_sourceEntry] at hseen
    refine (entryOf_sourceEntry source).payloadObjection (RelPath.asPosix_ne_empty _) (handoffRole_ne_empty _)
      (safePayloadPath_place _) hseen ?_ (h.contentAt_place hfs hdest hsource)
    have hpath : joinPath ("/" :: dest.names) ("payload/" ++ source.1.asPosix) = "/" :: (placeOf dest source.1).names := by
      rw [joinPath_place, List.append_assoc]
      rfl
    rw [hpath, placeOf, h.resolve_join hfs hdest]
    exact isParent_of_append ("/" :: dest.names) (payloadName.join source.1).nonempty
  · have hfun : entryPayload ∘ Dict.sortKeys ∘ sourceEntry = fun source => "payload/" ++ source.1.asPosix :=
      funext entryPayload_sourceEntry
    rw [List.map_map, List.map_map, Function.comp_assoc, hfun]
    have hinj := hsources.nodup.map (f := fun P : RelPath => "payload/" ++ P.asPosix) fun _ _ heq => RelPath.asPosix_inj (place_inj heq)
    rwa [List.map_map] at hinj
  · intro payload
    rw [h.mem_actualPayloads hfs hdest hne, mem_map_entryPayload]
  · intro entry hmem
    obtain ⟨source, hsource, rfl⟩ := hentry entry hmem
    obtain ⟨p, hp⟩ := hsources.found source hsource
    refine (entryOf_sourceEntry source).sourceObjection (safeSourcePath_asPosix _) ?_ ?_
    · rw [h.isSymlink]
      have hmem : source.1.asPosix ∈ names := hnames ▸ List.mem_map_of_mem hsource
      rcases (mem_collectSources hcollect).mp hmem with hstatic | ⟨directory, hdirectory, hwalk⟩
      · exact hplain _ hstatic
      · obtain ⟨D, -, rfl⟩ := sourceDirectories_eq hdirectory
        obtain ⟨q, p', content, hfile, hfound, -, -, heq⟩ := mem_sourcesBelow.mp hwalk
        rw [← RelPath.asPosix_join] at heq
        rw [heq, RelPath.joinPath_asPosix, RelPath.join, ← List.append_assoc, List.cons_append]
        rw [RelPath.joinPath_asPosix] at hfound
        exact not_symlink_of_walk hfs hfile hfound
    · rw [RelPath.joinPath_asPosix, contentAt_iff]
      exact ⟨p, hp.added h.added⟩
  · intro source
    rw [mem_map_entrySource, ← hnames]
    exact h.mem_collect_of_unseen hdest hcollect hcollect' hunseen source

/-- When the bundle is verified. -/
theorem verifyHandoff_iff (hfs : Regular fs) (hdest : NewAt fs dest) (h : Bundled fs fs' dest sources manifest files)
    (hsources : Sources fs rootNames sources) (hroot : fs.resolve ("/" :: rootNames) = "/" :: rootNames) {names : List String}
    (hcollect : collectSources fs ("/" :: rootNames) = .ok names) (hnames : names = sources.map (·.1.asPosix)) (hne : sources ≠ [])
    (head : HandoffHead) :
    (∃ reason, verifyHandoff fs' ("/" :: dest.names ++ ["handoff-manifest.json"])
        (some (handoffManifest head (sources.map sourceEntry)).sortKeys.toVal) (some ("/" :: rootNames)) = .ok (true, reason)) ↔
      (∀ relative ∈ STATIC_FILES, fs.isSymlink (joinPath ("/" :: rootNames) relative) = false) ∧
        ¬ SeenAt fs ("/" :: rootNames) ("/" :: dest.names) := by
  have hroot' : fs'.resolve ("/" :: rootNames) = "/" :: rootNames := by rw [h.added.resolve, hroot]
  constructor
  · intro hverify
    obtain ⟨reason, hverify⟩ := hverify
    obtain ⟨-, names', hverified⟩ := verifyHandoff_verified hverify
    rw [h.manifestPath_eq hfs hdest, hroot', manifestEntries_handoffManifest] at hverified
    refine ⟨fun relative hrelative => ?_, h.unseen_of_verified hfs hdest hsources hverified⟩
    have hmem : relative ∈ sources.map (·.1.asPosix) := hnames ▸ (mem_collectSources hcollect).mpr (.inl hrelative)
    obtain ⟨source, hsource, rfl⟩ := List.mem_map.mp hmem
    have hplain := hverified.sources_plain _ (List.mem_map_of_mem (List.mem_map_of_mem hsource))
    rwa [entrySource_sourceEntry, h.isSymlink] at hplain
  · intro hconditions
    obtain ⟨hplain, hunseen⟩ := hconditions
    obtain ⟨names', hverifiable⟩ := h.verifiable hfs hdest hsources hcollect hnames hne hplain hunseen
    refine ⟨"VERIFIED", verifyHandoff_of_verifiable (?_ : Verifiable _ _ _ _ names')⟩
    rw [h.manifestPath_eq hfs hdest, hroot']
    exact hverifiable

end Bundled

end

/-! ## The manifest -/

section

variable [Runtime] [FloatText] {fs fs' : FileSystem} {rootNames : List String} {dest : RelPath} {sources : List (RelPath × ByteArray)}

theorem readable_sourceEntry (source : RelPath × ByteArray) : (sourceEntry source).toVal.Readable := by
  refine Val.readable_ofItems fun kv hkv => ?_
  simp only [List.mem_cons, List.not_mem_nil, or_false] at hkv
  rcases hkv with rfl | rfl | rfl | rfl | rfl <;> trivial

theorem readable_handoffManifest (head : HandoffHead) : (handoffManifest head (sources.map sourceEntry)).toVal.Readable := by
  have hactions : (strList EXTERNAL_ACTIONS).Readable := by
    rw [strList, Val.Readable, Val.readableList_iff]
    intro v hv
    obtain ⟨s, -, rfl⟩ := List.mem_map.mp hv
    trivial
  have hentries : (Val.list ((sources.map sourceEntry).map Dict.toVal)).Readable := by
    rw [Val.Readable, Val.readableList_iff]
    intro v hv
    obtain ⟨entry, hentry, rfl⟩ := List.mem_map.mp hv
    obtain ⟨source, -, rfl⟩ := List.mem_map.mp hentry
    exact readable_sourceEntry source
  refine Val.readable_insert (Val.readable_ofItems fun kv hkv => ?_) _ trivial
  simp only [List.mem_cons, List.not_mem_nil, or_false] at hkv
  rcases hkv with rfl | rfl | rfl | rfl | rfl | rfl | rfl | rfl | rfl | rfl | rfl | rfl
  on_goal 11 => exact hactions
  on_goal 11 => exact hentries
  all_goals trivial

omit [Runtime] in
/-- A manifest is read back with its keys sorted. -/
theorem readJsonFile_manifest {path : List String} {manifest : Dict} (hreadable : manifest.toVal.Readable)
    (hcontent : fs.contentAt path = some (canonicalJson manifest.toVal ++ "\n".toUTF8)) :
    readJsonFile fs path = some manifest.sortKeys.toVal := by
  have hloads : jsonLoads (manifest.toVal.json ++ "\n") = .ok manifest.toVal.sortKeys := by
    refine jsonLoads_json_append hreadable (fun c hc => ?_) (by decide)
    obtain rfl := Option.some.inj hc
    decide
  have htext : canonicalJson manifest.toVal ++ "\n".toUTF8 = (manifest.toVal.json ++ "\n").toUTF8 := rfl
  rw [readJsonFile, hcontent, Option.bind_some, htext, jsonLoadsBytes, fromUTF8?_toUTF8]
  dsimp only
  rw [hloads, Dict.toVal_sortKeys]
  rfl

theorem preflightStatus_added {files : List (RelPath × ByteArray)} (h : Added fs fs' files) {root names : List String}
    (hcollect : collectSources fs root = .ok names) : preflightStatus fs' root = preflightStatus fs root := by
  obtain ⟨content, hcontent⟩ := Option.isSome_iff_exists.mp
    ((collectSources_ok_iff.mp hcollect).1 "artifacts/preflight-record.json" (by simp [STATIC_FILES]))
  obtain ⟨p, hp⟩ := contentAt_iff.mp hcontent
  rw [preflightStatus, preflightStatus, hcontent, contentAt_iff.mpr ⟨p, hp.added h⟩]

omit [Runtime] [FloatText] in
/-- The manifest is written where the sources were copied, and the bundle is complete. -/
theorem write_manifest (hfs : Regular fs) (hdest : NewAt fs dest) (hne : sources ≠ []) {files : List (RelPath × ByteArray)}
    (hadded : Added fs fs' files) (hfiles : ∀ file, file ∈ files ↔ ∃ source ∈ sources, file = (placeOf dest source.1, source.2))
    (manifest : ByteArray) :
    ∃ fs'' files', fs'.write ("/" :: dest.names ++ ["handoff-manifest.json"]) manifest = .ok fs'' ∧
      Bundled fs fs'' dest sources manifest files' := by
  have hapart : ∀ file ∈ files, ¬ file.1.names <+: (dest.join manifestName).names ∧ ¬ (dest.join manifestName).names <+: file.1.names := by
    intro file hfile
    obtain ⟨source, -, rfl⟩ := (hfiles file).mp hfile
    show ¬ dest.names ++ ("payload" :: source.1.names) <+: dest.names ++ ["handoff-manifest.json"] ∧
      ¬ dest.names ++ ["handoff-manifest.json"] <+: dest.names ++ ("payload" :: source.1.names)
    rw [List.prefix_append_right_inj, List.prefix_append_right_inj, List.cons_prefix_cons, List.cons_prefix_cons]
    exact ⟨fun h => absurd h.1 (by decide), fun h => absurd h.1 (by decide)⟩
  have hentries : ∀ q entry, (q, entry) ∈ fs'.entries ↔ (q, entry) ∈ fs'.entries ∨
      q.names <+: (dest.join manifestName).names.dropLast ∧ entry = .directory ∧ q ∉ fs'.entries.map Prod.fst := by
    intro q entry
    refine ⟨.inl, fun hq => hq.resolve_right fun hq => ?_⟩
    obtain ⟨hstart, -, hnone⟩ := hq
    obtain ⟨source, rest, rfl⟩ := List.exists_cons_of_ne_nil hne
    have hparent : (dest.join manifestName).names.dropLast = dest.names := List.dropLast_concat
    rw [hparent] at hstart
    have hplace : dest.names <+: (placeOf dest source.1).names := List.prefix_append _ _
    have hdirectory : (q, .directory) ∈ fs'.entries := by
      refine hadded.made _ ((hfiles _).mpr ⟨source, List.mem_cons_self, rfl⟩) q (hstart.trans hplace) ?_
      intro e
      rw [e] at hstart
      exact join_ne dest (payloadName.join source.1) (RelPath.ext (hstart.eq_of_length_le hplace.length_le))
    exact hnone (List.mem_map.mpr ⟨_, hdirectory, rfl⟩)
  obtain ⟨fs'', hwrite, hadded'⟩ := hadded.put (hdest.free hfs manifestName hapart) manifest rfl hentries
  refine ⟨fs'', _, hwrite, hadded', fun file => ?_⟩
  rw [List.mem_cons, hfiles]

/-- A bundle is at the destination, and the project is as it was. -/
structure Unchanged (fs fs' : FileSystem) (destination : List String) : Prop where
  resolve : fs'.resolve = fs.resolve
  kept : ∀ p entry, (p, entry) ∈ fs.entries → (p, entry) ∈ fs'.entries
  new : ∀ p entry, (p, entry) ∈ fs'.entries → ¬ destination <+: "/" :: p.names → (p, entry) ∈ fs.entries ∨
    entry = .directory ∧ "/" :: p.names <+: destination

omit [Runtime] [FloatText] in
theorem Bundled.unchanged {manifest : ByteArray} {files : List (RelPath × ByteArray)} (h : Bundled fs fs' dest sources manifest files) :
    Unchanged fs fs' ("/" :: dest.names) where
  resolve := h.added.resolve
  kept := h.added.kept
  new p entry hp hnot := by
    rw [List.prefix_cons_inj] at hnot ⊢
    rcases h.added.new p entry hp with hp | ⟨content, hfile, -⟩ | ⟨hdirectory, file, hfile, hstart, -⟩
    · exact .inl hp
    · exact absurd (h.below hfile) hnot
    · refine .inr ⟨hdirectory, ?_⟩
      exact (List.prefix_or_prefix_of_prefix hstart (h.below hfile)).resolve_right hnot

/-! ## Creation -/

/-- A source that the bundle is made of is not there. -/
def Missing (fs : FileSystem) (root : List String) : Prop :=
  (∃ relative ∈ STATIC_FILES, fs.isFile (joinPath root relative) = false) ∨
    ∃ directory ∈ SOURCE_DIRECTORIES, fs.isDirectory (joinPath root directory) = false

omit [FloatText] in
theorem missing_iff {root : List String} : Missing fs root ↔ ∀ names, collectSources fs root ≠ .ok names := by
  rw [Missing]
  constructor
  · intro h names hcollect
    obtain ⟨hfiles, hdirectories, -⟩ := collectSources_ok_iff.mp hcollect
    rcases h with ⟨relative, hrelative, hnot⟩ | ⟨directory, hdirectory, hnot⟩
    · rw [hfiles relative hrelative] at hnot
      cases hnot
    · rw [hdirectories directory hdirectory] at hnot
      cases hnot
  · intro h
    by_contra hall
    push Not at hall
    simp only [ne_eq, Bool.not_eq_false] at hall
    exact h _ (collectSources_ok_iff.mpr ⟨hall.1, hall.2, rfl⟩)

/-- Either a bundle is returned, which is verified against the project as it was, or
nothing is at the destination. -/
structure AllOrNothing (request : HandoffRequest) (fs : FileSystem) : Prop where
  all : ∀ returned fs', createHandoffBundle request fs = (.ok returned, fs') →
    Unchanged fs fs' (fs.resolve request.outputDir) ∧
      verifyHandoffFile fs' (fs.resolve request.outputDir ++ ["handoff-manifest.json"]) (some request.projectRoot) = .ok (true, "VERIFIED")
  nothing : ∀ e fs', createHandoffBundle request fs = (.error e, fs') → fs'.pathExists (fs.resolve request.outputDir) = false

/-- What makes a bundle that is copied be verified. -/
structure Verifies (fs : FileSystem) (root destination : List String) : Prop where
  preflight : ∃ status, preflightStatus fs root = .ok status ∧ status.isText = true
  plain : ∀ relative ∈ STATIC_FILES, fs.isSymlink (joinPath root relative) = false
  unseen : ¬ SeenAt fs root destination

/-- A bundle is finished: something is at the destination, and the bundle is returned
exactly if what was copied is verified. -/
structure Finished (fs fs' : FileSystem) (root destination : List String) (result : Except Exc Dict) : Prop where
  there : fs'.pathExists destination = true
  returned_iff : (∃ returned, result = .ok returned) ↔ Verifies fs root destination
  verified : (∃ returned, result = .ok returned) → Unchanged fs fs' destination ∧
    verifyHandoffFile fs' (destination ++ ["handoff-manifest.json"]) (some root) = .ok (true, "VERIFIED")

theorem Finished.failed {root destination : List String} (hthere : fs'.pathExists destination = true)
    (hnot : ¬ Verifies fs root destination) (e : Exc) : Finished fs fs' root destination (.error e) := by
  have hfailed : ¬ ∃ returned, (.error e : Except Exc Dict) = .ok returned := by
    intro h
    obtain ⟨_, h⟩ := h
    cases h
  exact ⟨hthere, iff_of_false hfailed hnot, fun h => absurd h hfailed⟩

theorem finishBundle_finished (hfs : Regular fs) (hdest : NewAt fs dest) (hsources : Sources fs rootNames sources)
    (hroot : fs.resolve ("/" :: rootNames) = "/" :: rootNames) {names : List String}
    (hcollect : collectSources fs ("/" :: rootNames) = .ok names) (hnames : names = sources.map (·.1.asPosix)) (hne : sources ≠ [])
    {files : List (RelPath × ByteArray)} (hadded : Added fs fs' files)
    (hfiles : ∀ file, file ∈ files ↔ ∃ source ∈ sources, file = (placeOf dest source.1, source.2)) (request : HandoffRequest) :
    ∃ result fs'', finishBundle request ("/" :: rootNames) ("/" :: dest.names) (sources.map sourceEntry) fs' = (result, fs'') ∧
      Finished fs fs'' ("/" :: rootNames) ("/" :: dest.names) result := by
  have hstatus := preflightStatus_added hadded hcollect
  have hstarted : fs'.pathExists ("/" :: dest.names) = true := by
    obtain ⟨source, rest, rfl⟩ := List.exists_cons_of_ne_nil hne
    exact hadded.pathExists hdest.resolve ((hfiles _).mpr ⟨source, List.mem_cons_self, rfl⟩)
  unfold finishBundle
  rw [hstatus]
  cases hpreflight : preflightStatus fs ("/" :: rootNames) with
  | error e =>
    refine ⟨.error e, fs', rfl, .failed hstarted (fun h => ?_) e⟩
    obtain ⟨status, h, -⟩ := h.preflight
    rw [hpreflight] at h
    cases h
  | ok status =>
    dsimp only
    by_cases htext : status.isText = true
    case neg =>
      obtain ⟨e, he⟩ := serialized_of_not_writable (v := .str status) fun h => htext h.2
      rw [he]
      refine ⟨.error e, fs', rfl, .failed hstarted (fun h => ?_) e⟩
      obtain ⟨status', h, htext'⟩ := h.preflight
      rw [hpreflight] at h
      exact htext (Except.ok.inj h ▸ htext')
    rw [serialized_of_writable (v := .str status) ⟨rfl, htext⟩]
    dsimp only
    generalize (⟨utcNow request.clock, request.fixtureId, request.caseId, status.text⟩ : HandoffHead) = head
    obtain ⟨fs'', files', hwrite, hbundled⟩ := write_manifest hfs hdest hne hadded hfiles
      (canonicalJson (handoffManifest head (sources.map sourceEntry)).toVal ++ "\n".toUTF8)
    have hthere := (hbundled.mem_files _).mpr (.inl rfl)
    have hexists := hbundled.added.pathExists hdest.resolve hthere
    have hcontent : fs''.contentAt ("/" :: dest.names ++ ["handoff-manifest.json"]) =
        some (canonicalJson (handoffManifest head (sources.map sourceEntry)).toVal ++ "\n".toUTF8) := by
      rw [contentAt_iff]
      exact ⟨dest.join manifestName, hbundled.resolve_join hfs hdest manifestName, hbundled.added.there _ hthere⟩
    have hread := readJsonFile_manifest (readable_handoffManifest head) hcontent
    have hiff := hbundled.verifyHandoff_iff hfs hdest hsources hroot hcollect hnames hne head
    have hverifies := hiff.trans ⟨fun h => (⟨⟨status, hpreflight, htext⟩, h.1, h.2⟩ : Verifies fs ("/" :: rootNames) ("/" :: dest.names)),
      fun h => ⟨h.plain, h.unseen⟩⟩
    simp only [hwrite, verifyHandoffFile, hread]
    cases hverify : verifyHandoff fs'' ("/" :: dest.names ++ ["handoff-manifest.json"])
        (some (handoffManifest head (sources.map sourceEntry)).sortKeys.toVal) (some ("/" :: rootNames)) with
    | error e =>
      refine ⟨.error e, fs'', rfl, .failed hexists (fun h => ?_) e⟩
      obtain ⟨reason, h⟩ := hverifies.mpr h
      rw [hverify] at h
      cases h
    | ok result =>
      obtain ⟨valid, reason⟩ := result
      cases valid with
      | false =>
        refine ⟨_, fs'', rfl, .failed hexists (fun h => ?_) (handoffError ("handoff_self_verification_failed:" ++ reason))⟩
        obtain ⟨reason', h⟩ := hverifies.mpr h
        rw [hverify] at h
        cases h
      | true =>
        refine ⟨_, fs'', rfl, hexists, ⟨fun _ => hverifies.mp ⟨reason, hverify⟩, fun _ => ⟨_, rfl⟩⟩, fun _ => ⟨hbundled.unchanged, ?_⟩⟩
        rw [verifyHandoffFile, hread]
        exact (verifyHandoff_verified hverify).1 ▸ hverify

omit [FloatText] in
/-- Where the way to the destination is blocked, nothing is copied. -/
theorem copySources_blocked {root : List String} {source : RelPath × ByteArray} {rest : List String}
    (h : Blocked fs ("/" :: dest.names)) :
    copySources root ("/" :: dest.names ++ ["payload"]) (source.1.asPosix :: rest) fs = (.error (.osError "File exists"), fs) := by
  have hstart : "/" :: dest.names <+: (joinPath ("/" :: dest.names ++ ["payload"]) source.1.asPosix).dropLast := by
    rw [RelPath.joinPath_asPosix, List.dropLast_append_of_ne_nil source.1.nonempty, List.append_assoc]
    exact List.prefix_append _ _
  rw [copySources, h.makeDirectories hstart]

/-- How a bundle is created where nothing is missing. -/
theorem createHandoffBundle_spec (hfs : Regular fs) {request : HandoffRequest} (hroot : fs.resolve request.projectRoot = "/" :: rootNames)
    (hdestination : fs.resolve request.outputDir = "/" :: dest.names)
    (hinside : isParent ("/" :: rootNames) ("/" :: dest.names) = true) (hnew : fs.pathExists ("/" :: dest.names) = false)
    {names : List String} (hcollect : collectSources fs ("/" :: rootNames) = .ok names) :
    (Blocked fs ("/" :: dest.names) ∧ createHandoffBundle request fs = (.error (.osError "File exists"), fs)) ∨
      ¬ Blocked fs ("/" :: dest.names) ∧ ∃ result fs', createHandoffBundle request fs = (result, fs') ∧
        Finished fs fs' ("/" :: rootNames) ("/" :: dest.names) result := by
  have hself : ("/" :: dest.names == "/" :: rootNames) = false := by
    rw [isParent, Bool.and_eq_true, bne_iff_ne] at hinside
    rw [beq_eq_false_iff_ne]
    exact hinside.2.symm
  have hresolve : fs.resolve ("/" :: dest.names) = "/" :: dest.names := by rw [← hdestination, fs.resolve_resolve]
  have hresolveRoot : fs.resolve ("/" :: rootNames) = "/" :: rootNames := by rw [← hroot, fs.resolve_resolve]
  obtain ⟨sources, hsources, rfl⟩ := exists_sources hfs hcollect
  have hne : sources ≠ [] := by
    have hmem : "README.md" ∈ sources.map (·.1.asPosix) := (mem_collectSources hcollect).mpr (.inl (by simp [STATIC_FILES]))
    intro hnil
    rw [hnil] at hmem
    cases hmem
  unfold createHandoffBundle
  simp only [hroot, hdestination, hself, hinside, hnew, hcollect, Bool.not_true, Bool.or_self, Bool.false_eq_true, if_false]
  by_cases hblocked : Blocked fs ("/" :: dest.names)
  · refine .inl ⟨hblocked, ?_⟩
    obtain ⟨source, rest, rfl⟩ := List.exists_cons_of_ne_nil hne
    rw [List.map_cons, copySources_blocked hblocked]
  · have hdest := newAt_of_unblocked hfs hresolve hnew hblocked
    obtain ⟨fs', files, hcopy, hadded, hfiles⟩ := copySources_ok hfs hdest hsources (.refl fs) fun _ hfile => by cases hfile
    rw [hcopy]
    refine .inr ⟨hblocked, finishBundle_finished hfs hdest hsources hresolveRoot hcollect rfl hne hadded (fun file => ?_) request⟩
    rw [hfiles]
    exact or_iff_right List.not_mem_nil

omit [FloatText] in
/-- A bundle is compared with the project that the root resolves to. -/
theorem verifyHandoff_resolve (manifestPath : List String) (read : Option Val) {root root' : List String} (h : fs.resolve root = fs.resolve root') :
    verifyHandoff fs manifestPath read (some root) = verifyHandoff fs manifestPath read (some root') := by
  simp only [verifyHandoff, bundleObjection, h]

/-- Creation is all or nothing exactly if a source is missing or the way is blocked, so that
nothing is begun, or what is copied is verified. -/
theorem createHandoffBundle_allOrNothing_iff (hfs : Regular fs) {request : HandoffRequest}
    (hinside : isParent (fs.resolve request.projectRoot) (fs.resolve request.outputDir) = true)
    (hnew : fs.pathExists (fs.resolve request.outputDir) = false) :
    AllOrNothing request fs ↔ Missing fs (fs.resolve request.projectRoot) ∨ Blocked fs (fs.resolve request.outputDir) ∨
      Verifies fs (fs.resolve request.projectRoot) (fs.resolve request.outputDir) := by
  obtain ⟨rootNames, hroot, -⟩ := hfs.absolute request.projectRoot
  obtain ⟨destNames, hdestination, hvalid⟩ := hfs.absolute request.outputDir
  have hne : destNames ≠ [] := by
    rintro rfl
    rw [hroot, hdestination, isParent, Bool.and_eq_true, List.isPrefixOf_iff_prefix, List.prefix_cons_inj, List.prefix_nil,
      bne_iff_ne] at hinside
    exact hinside.2 (by rw [hinside.1])
  obtain ⟨dest, rfl⟩ : ∃ dest : RelPath, dest.names = destNames := ⟨⟨destNames, hne, hvalid⟩, rfl⟩
  rw [hroot, hdestination] at hinside ⊢
  rw [hdestination] at hnew
  by_cases hmissing : Missing fs ("/" :: rootNames)
  · refine iff_of_true ?_ (.inl hmissing)
    cases hcollect : collectSources fs ("/" :: rootNames) with
    | ok names => exact absurd hcollect (missing_iff.mp hmissing names)
    | error e =>
      have hcreate : ∃ e, createHandoffBundle request fs = (.error e, fs) := by
        unfold createHandoffBundle
        simp only [hroot, hdestination, hcollect]
        split
        · exact ⟨_, rfl⟩
        · split
          · exact ⟨_, rfl⟩
          · exact ⟨e, rfl⟩
      obtain ⟨e', hcreate⟩ := hcreate
      refine ⟨fun returned fs' h => ?_, fun e'' fs' h => ?_⟩
      · rw [hcreate] at h
        cases h
      · rw [hcreate] at h
        cases h
        rw [hdestination, hnew]
  · obtain ⟨names, hcollect⟩ : ∃ names, collectSources fs ("/" :: rootNames) = .ok names := by
      by_contra h
      exact hmissing (missing_iff.mpr fun names hcollect => h ⟨names, hcollect⟩)
    rw [or_iff_right hmissing]
    rcases createHandoffBundle_spec hfs hroot hdestination hinside hnew hcollect with ⟨hblocked, hcreate⟩ | ⟨hclear, result, fs', hcreate, hfinished⟩
    · refine iff_of_true ⟨fun returned fs' h => ?_, fun e fs' h => ?_⟩ (.inl hblocked)
      · rw [hcreate] at h
        cases h
      · rw [hcreate] at h
        cases h
        rw [hdestination, hnew]
    · rw [or_iff_right hclear, ← hfinished.returned_iff]
      constructor
      · intro h
        cases result with
        | ok returned => exact ⟨returned, rfl⟩
        | error e =>
          have hnothing := h.nothing e fs' hcreate
          rw [hdestination, hfinished.there] at hnothing
          cases hnothing
      · intro h
        obtain ⟨hunchanged, hverified⟩ := hfinished.verified h
        obtain ⟨returned, rfl⟩ := h
        refine ⟨fun returned' fs'' h => ?_, fun e fs'' h => ?_⟩
        · rw [hcreate] at h
          cases h
          rw [hdestination]
          refine ⟨hunchanged, ?_⟩
          rw [← hverified]
          refine verifyHandoff_resolve _ _ ?_
          rw [hunchanged.resolve, ← hroot, fs.resolve_resolve]
        · rw [hcreate] at h
          cases h

end

/-! ## A project without symbolic links -/

/-- What is before a name in the project is one of its directories. -/
theorem exampleNames_parents : ∀ names ∈ staticParents ++ sourceNames ++ sourceParents ++ staticNames, ∀ parent ∈ names.inits,
    parent = [] ∨ parent = names ∨ parent ∈ staticParents ++ sourceNames ++ sourceParents := by
  decide +kernel

/-- A project in which every static file is an empty object, and nothing else. -/
def handoffProject : FileSystem where
  entries := subtree exampleProject (filesIn (staticParents ++ sourceNames ++ sourceParents) fun _ => "\x7b\x7d".toUTF8)
  nodup := nodup_subtree (nodup_filesIn _ exampleNames_nodup)
  resolve := plainResolve
  resolve_resolve := plainResolve_plainResolve
  resolve_file p _ _ := plainResolve_of_valid p.valid

theorem mem_handoffProject_join {p : RelPath} {entry : Entry} : (exampleProject.join p, entry) ∈ handoffProject.entries ↔
    (p, entry) ∈ filesIn (staticParents ++ sourceNames ++ sourceParents) fun _ => "\x7b\x7d".toUTF8 := by
  rw [handoffProject, mem_subtree]
  constructor
  · intro h
    rcases h with ⟨heq, -⟩ | ⟨q, hq, heq⟩
    · exact absurd heq (join_ne _ _)
    · exact RelPath.join_inj heq ▸ hq
  · intro h
    exact .inr ⟨p, h, rfl⟩

theorem mem_handoffProject {p : RelPath} {entry : Entry} (h : (p, entry) ∈ handoffProject.entries) :
    (p = exampleProject ∧ entry = .directory) ∨ ∃ q, p = exampleProject.join q ∧
      (q, entry) ∈ filesIn (staticParents ++ sourceNames ++ sourceParents) fun _ => "\x7b\x7d".toUTF8 := by
  rw [handoffProject, mem_subtree] at h
  exact h.imp_right fun h => ⟨h.choose, h.choose_spec.2, h.choose_spec.1⟩

theorem names_of_filesIn {directories : List (List String)} {content : RelPath → ByteArray} {p : RelPath} {entry : Entry}
    (h : (p, entry) ∈ filesIn directories content) : p.names ∈ directories ++ staticNames := by
  rw [List.mem_append]
  cases entry with
  | file c => exact .inr (mem_filesIn_file.mp h).1
  | directory => exact .inl (mem_filesIn_directory.mp h)
  | symlink => exact absurd h not_symlink_filesIn

theorem not_symlink_handoffProject : ∀ e ∈ handoffProject.entries, e.2 ≠ .symlink := by
  intro e he heq
  obtain ⟨p, entry⟩ := e
  obtain rfl : entry = .symlink := heq
  rcases mem_handoffProject he with ⟨-, heq⟩ | ⟨q, -, hq⟩
  · cases heq
  · exact not_symlink_filesIn hq

theorem regular_handoffProject : Regular handoffProject where
  parents p q entry h := by
    rcases mem_handoffProject h with ⟨heq, -⟩ | ⟨r, heq, hr⟩
    · have hnames : p.names ++ q.names = ["project"] := congrArg RelPath.names heq
      have hlength := congrArg List.length hnames
      have hp := List.length_pos_of_ne_nil p.nonempty
      have hq := List.length_pos_of_ne_nil q.nonempty
      rw [List.length_append, List.length_singleton] at hlength
      omega
    · have hnames : p.names ++ q.names = "project" :: r.names := congrArg RelPath.names heq
      obtain ⟨name, parent, hparent⟩ := List.exists_cons_of_ne_nil p.nonempty
      rw [hparent, List.cons_append, List.cons.injEq] at hnames
      obtain ⟨rfl, hnames⟩ := hnames
      by_cases hempty : parent = []
      · have hp : p = exampleProject := RelPath.ext (by rw [hparent, hempty]; rfl)
        rw [hp]
        exact List.mem_cons_self
      · have hvalid : parent.all validName = true := by
          have hp := p.valid
          rw [hparent, List.all_cons, Bool.and_eq_true] at hp
          exact hp.2
        have hp : p = exampleProject.join ⟨parent, hempty, hvalid⟩ := RelPath.ext hparent
        rw [hp, mem_handoffProject_join, mem_filesIn_directory]
        have hinits : parent ∈ r.names.inits := (List.mem_inits _ _).mpr ⟨q.names, hnames⟩
        rcases exampleNames_parents _ (names_of_filesIn hr) parent hinits with hnil | heq | hdirectory
        · exact absurd hnil hempty
        · rw [heq] at hnames
          exact absurd (List.append_right_eq_self.mp hnames) q.nonempty
        · exact hdirectory
  absolute := plainResolve_valid
  resolve_append names names' _ := plainResolve_append ("/" :: names) names'
  plain path name hpath hname _ := by
    obtain ⟨names, hnames, hvalid⟩ := plainResolve_valid path
    have hpath : path = "/" :: names := hpath.symm.trans hnames
    have hnew : (names ++ [name]).all validName = true := by
      rw [List.all_append, hvalid, List.all_cons, hname]
      rfl
    rw [hpath]
    exact plainResolve_of_valid hnew

section

variable [Runtime]

omit [Runtime] in
theorem contentAt_handoffProject {p : RelPath} (hp : p.names ∈ staticNames) :
    handoffProject.contentAt (joinPath ["/", "project"] p.asPosix) = some "\x7b\x7d".toUTF8 := by
  rw [RelPath.joinPath_asPosix, contentAt_iff]
  exact ⟨exampleProject.join p, plainResolve_of_valid (exampleProject.join p).valid,
    mem_handoffProject_join.mpr (mem_filesIn_file.mpr ⟨hp, rfl⟩)⟩

theorem collectSources_handoffProject : ∃ names, collectSources handoffProject ["/", "project"] = .ok names := by
  refine ⟨_, collectSources_ok_iff.mpr ⟨fun relative hrelative => ?_, fun directory hdirectory => ?_, rfl⟩⟩
  · obtain ⟨p, hp, rfl⟩ := staticFiles_eq.mp hrelative
    rw [Disk.isFile, contentAt_handoffProject hp]
    rfl
  · obtain ⟨p, hp, rfl⟩ := sourceDirectories_eq hdirectory
    have hresolve : handoffProject.resolve (joinPath ["/", "project"] p.asPosix) = ["/"] ++ (exampleProject.join p).names := by
      rw [RelPath.joinPath_asPosix]
      exact plainResolve_of_valid (exampleProject.join p).valid
    rw [Disk.isDirectory_of_resolve _ hresolve, mem_handoffProject_join, mem_filesIn_directory]
    exact List.mem_append_left _ (List.mem_append_right _ hp)

omit [Runtime] in
/-- Where nothing of the project is, nothing is. -/
theorem pathExists_handoffProject {p : RelPath} (hp : p.names ∉ staticParents ++ sourceNames ++ sourceParents ++ staticNames) :
    handoffProject.pathExists ("/" :: (exampleProject.join p).names) = false := by
  have hresolve : handoffProject.resolve ("/" :: (exampleProject.join p).names) = "/" :: (exampleProject.join p).names :=
    plainResolve_of_valid (exampleProject.join p).valid
  have hbelow : Disk.below ["/"] ("/" :: (exampleProject.join p).names) = some (exampleProject.join p) :=
    Disk.below_append (exampleProject.join p)
  have hnone : handoffProject.entry? (exampleProject.join p) = none := by
    rw [Disk.entry?_eq_none, List.mem_map]
    intro h
    obtain ⟨⟨q, entry⟩, hq, heq⟩ := h
    obtain rfl : q = exampleProject.join p := heq
    exact hp (names_of_filesIn (mem_handoffProject_join.mp hq))
  rw [Disk.pathExists, hresolve, hbelow, Option.bind_some, hnone, Bool.or_eq_false_iff, beq_eq_false_iff_ne]
  refine ⟨fun h => ?_, rfl⟩
  exact (exampleProject.join p).nonempty (List.cons.inj h).2

variable [FloatText]

theorem verifies_handoffProject {p : RelPath} (hp : ∀ names ∈ sourceNames, ¬ names <+: p.names) :
    Verifies handoffProject ["/", "project"] ("/" :: (exampleProject.join p).names) where
  preflight := by
    have hrecord : (⟨["artifacts", "preflight-record.json"], by decide, by decide⟩ : RelPath).asPosix = "artifacts/preflight-record.json" := by
      rw [RelPath.asPosix_eq_intercalate]
      rfl
    have hread : anyLoadsBytes "\x7b\x7d".toUTF8 = .ok (.dict []) := by
      rw [anyLoadsBytes, fromUTF8?_toUTF8]
      rfl
    refine ⟨.ofString "UNAVAILABLE", ?_, Str.isText_ofString _⟩
    rw [preflightStatus, ← hrecord, contentAt_handoffProject (by decide)]
    dsimp only
    rw [hread]
    rfl
  plain relative _ := Disk.isSymlink_eq_false _ not_symlink_handoffProject _
  unseen := by
    intro h
    obtain ⟨directory, hdirectory, rest, hrest, -⟩ := h
    obtain ⟨q, hq, rfl⟩ := sourceDirectories_eq hdirectory
    have hresolve : handoffProject.resolve (joinPath ["/", "project"] q.asPosix) = "/" :: "project" :: q.names := by
      rw [RelPath.joinPath_asPosix]
      exact plainResolve_of_valid (exampleProject.join q).valid
    rw [hresolve] at hrest
    have hnames : p.names = q.names ++ rest := (List.cons.inj (List.cons.inj hrest).2).2
    exact hp _ hq ⟨rest, hnames.symm⟩

omit [Runtime] [FloatText] in
theorem unblocked_handoffProject {p : RelPath} (hp : ∀ names ∈ staticNames, ¬ names <+: p.names) :
    ¬ Blocked handoffProject ("/" :: (exampleProject.join p).names) := by
  intro h
  obtain ⟨q, entry, hq, hstart, hne⟩ := h
  rcases mem_handoffProject hq with ⟨-, hdirectory⟩ | ⟨r, rfl, hr⟩
  · exact hne hdirectory
  · have hstart : r.names <+: p.names := (List.prefix_append_right_inj ["/", "project"]).mp hstart
    cases entry with
    | file content => exact hp _ (mem_filesIn_file.mp hr).1 hstart
    | directory => exact hne rfl
    | symlink => exact not_symlink_filesIn hr

/-- In a source directory, what was copied is found again as a source, and is left there. -/
theorem not_allOrNothing_handoffProject {request : HandoffRequest} {p : RelPath} (hroot : plainResolve request.projectRoot = ["/", "project"])
    (hdestination : plainResolve request.outputDir = "/" :: (exampleProject.join p).names)
    (hp : p.names ∉ staticParents ++ sourceNames ++ sourceParents ++ staticNames) (hclear : ∀ names ∈ staticNames, ¬ names <+: p.names)
    (hseen : SeenAt handoffProject ["/", "project"] ("/" :: (exampleProject.join p).names)) : ¬ AllOrNothing request handoffProject := by
  intro h
  obtain ⟨names, hcollect⟩ := collectSources_handoffProject
  have hinside : isParent ["/", "project"] ("/" :: (exampleProject.join p).names) = true := isParent_of_append ["/", "project"] p.nonempty
  have hnew := pathExists_handoffProject hp
  rcases createHandoffBundle_spec regular_handoffProject hroot hdestination hinside hnew hcollect with ⟨hblocked, -⟩ | ⟨-, result, fs', hcreate, hfinished⟩
  · exact unblocked_handoffProject hclear hblocked
  · cases result with
    | ok returned => exact (hfinished.returned_iff.mp ⟨returned, rfl⟩).unseen hseen
    | error e =>
      have hnothing := h.nothing e fs' hcreate
      have hdest : handoffProject.resolve request.outputDir = "/" :: (exampleProject.join p).names := hdestination
      rw [hdest, hfinished.there] at hnothing
      cases hnothing

end

def handoffOutput : RelPath := ⟨["handoff"], by decide, by decide⟩
def sourceOutput : RelPath := ⟨["pmiri", "out"], by decide, by decide⟩

/-- A bundle is asked for at this place in the project. -/
def requestAt (p : RelPath) : HandoffRequest :=
  ⟨["/", "project"], "/" :: (exampleProject.join p).names, "GC-C1-FC01", "GC-C1-FC01-P", Instant.first⟩

theorem createHandoffBundle_allOrNothing_iff_example :
    letI := asciiRuntime
    letI := withoutFloats
    AllOrNothing (requestAt handoffOutput) handoffProject := by
  let := asciiRuntime
  let := withoutFloats
  have hinside : isParent ["/", "project"] ("/" :: (exampleProject.join handoffOutput).names) = true :=
    isParent_of_append ["/", "project"] handoffOutput.nonempty
  have hnew := pathExists_handoffProject (p := handoffOutput) (by decide)
  have hroot : handoffProject.resolve (requestAt handoffOutput).projectRoot = ["/", "project"] := plainResolve_of_valid exampleProject.valid
  have hdestination : handoffProject.resolve (requestAt handoffOutput).outputDir = "/" :: (exampleProject.join handoffOutput).names :=
    plainResolve_of_valid (exampleProject.join handoffOutput).valid
  refine (createHandoffBundle_allOrNothing_iff regular_handoffProject ?_ ?_).mpr (.inr (.inr ?_))
  · rw [hroot, hdestination, hinside]
  · rw [hdestination, hnew]
  · rw [hroot, hdestination]
    exact verifies_handoffProject (by decide)

/-- A destination in a source directory: the call fails, and the directory is left. -/
theorem bundle_left_in_source_directory :
    letI := asciiRuntime
    letI := withoutFloats
    ¬ ∀ (fs : FileSystem) (request : HandoffRequest), Regular fs →
      isParent (fs.resolve request.projectRoot) (fs.resolve request.outputDir) = true →
        fs.pathExists (fs.resolve request.outputDir) = false → AllOrNothing request fs := by
  let := asciiRuntime
  let := withoutFloats
  intro h
  have hinside : isParent ["/", "project"] ("/" :: (exampleProject.join sourceOutput).names) = true :=
    isParent_of_append ["/", "project"] sourceOutput.nonempty
  have hnew := pathExists_handoffProject (p := sourceOutput) (by decide)
  have hroot : plainResolve (requestAt sourceOutput).projectRoot = ["/", "project"] := plainResolve_of_valid exampleProject.valid
  have hdestination : plainResolve (requestAt sourceOutput).outputDir = "/" :: (exampleProject.join sourceOutput).names :=
    plainResolve_of_valid (exampleProject.join sourceOutput).valid
  have hseen : SeenAt handoffProject ["/", "project"] ("/" :: (exampleProject.join sourceOutput).names) := by
    have hdirectory : (⟨["pmiri"], by decide, by decide⟩ : RelPath).asPosix = "pmiri" := by
      rw [RelPath.asPosix_eq_intercalate]
      rfl
    have hplain : plainResolve ("/" :: ["project", "pmiri"]) = "/" :: ["project", "pmiri"] := plainResolve_of_valid (by decide)
    refine ⟨"pmiri", by decide, ["out"], ?_, ?_⟩
    · rw [← hdirectory, RelPath.joinPath_asPosix]
      exact congrArg (· ++ ["out"]) hplain.symm
    · rw [← hdirectory, RelPath.joinPath_asPosix]
      decide
  refine not_allOrNothing_handoffProject hroot hdestination (by decide) (by decide) hseen (h handoffProject _ regular_handoffProject ?_ ?_)
  · show isParent (plainResolve _) (plainResolve _) = true
    rw [hroot, hdestination, hinside]
  · show handoffProject.pathExists (plainResolve _) = false
    rw [hdestination, hnew]

end Pmiri
