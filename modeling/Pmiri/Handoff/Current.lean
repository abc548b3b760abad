import Pmiri.Python.Sha256
import Pmiri.Inventory
import Pmiri.Python.SortedSet
import Pmiri.Handoff.Bundles
import Mathlib.Logic.Equiv.Basic

/-!
# Bundles of the current sources

A verified bundle has the files its entries name, and so has the project. The
entries pair the paths of both freely, so the payload is a copy of the current
sources exactly if the entries pair them as they were meant to.
-/

namespace Pmiri

open Py

/-! ## Entries -/

def entrySource (entry : Dict) : String := (entry.get "source_path").strText
def entryPayload (entry : Dict) : String := (entry.get "payload_path").strText
def entryDigest (entry : Dict) : String := (entry.get "sha256").strText

/-- The entries of a manifest, as far as they are objects. -/
def manifestEntries (manifest : Dict) : List Dict :=
  match manifest.get "entries" with
  | .list entries => entries.filterMap Val.asDict
  | _ => []

/-- Every payload path is the place of a source that is listed, and every source that is
listed has its digest recorded for its place. -/
def Aligned (entries : List Dict) : Prop :=
  ∀ entry ∈ entries, (∃ other ∈ entries, entryPayload entry = "payload/" ++ entrySource other) ∧
    ∃ other ∈ entries, entryPayload other = "payload/" ++ entrySource entry ∧ entryDigest other = entryDigest entry

/-- The payload of a bundle holds the current content of each of the sources, and no other file. -/
structure HoldsSources (fs : FileSystem) (bundle root : List String) (sources : List String) : Prop where
  same : ∀ source ∈ sources, ∃ content, fs.contentAt (joinPath root source) = some content ∧
    "payload/" ++ source ∈ actualPayloads fs bundle ∧ fs.contentAt (joinPath bundle ("payload/" ++ source)) = some content
  only : ∀ payload ∈ actualPayloads fs bundle, ∃ source ∈ sources, payload = "payload/" ++ source

theorem sameNames_iff {xs ys : List String} : sameNames xs ys = true ↔ ∀ x, x ∈ xs ↔ x ∈ ys := by
  rw [sameNames, Bool.and_eq_true, List.all_eq_true, List.all_eq_true]
  simp only [List.contains_iff_mem]
  exact ⟨fun h x => ⟨h.1 x, h.2 x⟩, fun h => ⟨fun x => (h x).mp, fun x => (h x).mpr⟩⟩

/-- A check has no objection, and neither have those after it. -/
theorem objection_none {c : Bool} {reason : String} {rest : Option String} :
    (if c then some reason else rest) = none ↔ c = false ∧ rest = none := by
  cases c <;> simp

theorem contentAt_resolve (fs : FileSystem) (path : List String) : fs.contentAt (fs.resolve path) = fs.contentAt path := by
  rw [Disk.contentAt, fs.resolve_resolve, Disk.contentAt]

section

variable [Runtime] {fs : FileSystem}

/-- What is found at a path is what an entry records. -/
def Found (fs : FileSystem) (path : List String) (entry : Dict) : Prop :=
  ∃ content, fs.contentAt path = some content ∧ sha256Bytes content = entryDigest entry

theorem found_of_not_differs {path : List String} {entry : Dict} {reason : String} {content : ByteArray}
    (hcontent : fs.contentAt path = some content) (h : (if contentDiffers content entry then some reason else none) = none) :
    Found fs path entry := by
  have hdiffers := (objection_none.mp h).1
  rw [contentDiffers, Bool.or_eq_false_iff, differs_false] at hdiffers
  exact ⟨content, hcontent, by rw [entryDigest, hdiffers.2, Val.strText]⟩

theorem payloadObjection_none {bundle seen : List String} {entry : Dict} (h : payloadObjection fs bundle seen entry = none) :
    Found fs (joinPath bundle (entryPayload entry)) entry := by
  unfold payloadObjection at h
  obtain ⟨-, h⟩ := objection_none.mp h
  obtain ⟨-, h⟩ := objection_none.mp h
  obtain ⟨-, h⟩ := objection_none.mp h
  obtain ⟨-, h⟩ := objection_none.mp h
  obtain ⟨-, h⟩ := objection_none.mp h
  split at h
  · cases h
  · rename_i content hcontent
    rw [contentAt_resolve] at hcontent
    exact found_of_not_differs hcontent h

theorem checkPayloads_inr {bundle : List String} {values : List Val} {seen : List String} {entries : List Dict}
    (h : checkPayloads fs bundle seen values = .inr entries) :
    values.filterMap Val.asDict = entries ∧ ∀ entry ∈ entries, Found fs (joinPath bundle (entryPayload entry)) entry := by
  induction values generalizing seen entries with
  | nil =>
    obtain rfl := Sum.inr.inj h
    exact ⟨rfl, fun entry hmem => nomatch hmem⟩
  | cons v vs ih =>
    unfold checkPayloads at h
    split at h
    · cases h
    · rename_i entry hdict
      split at h
      · cases h
      · rename_i hobjection
        cases hrest : checkPayloads fs bundle ((entry.get "payload_path").strText :: seen) vs with
        | inl reason =>
          rw [hrest] at h
          cases h
        | inr rest =>
          rw [hrest] at h
          obtain rfl := Sum.inr.inj h
          obtain ⟨hvalues, hfound⟩ := ih hrest
          rw [List.filterMap_cons, hdict, hvalues, List.forall_mem_cons]
          exact ⟨rfl, payloadObjection_none hobjection, hfound⟩

theorem sourceObjection_none {root : List String} {entry : Dict} (h : sourceObjection fs root entry = none) :
    fs.isSymlink (joinPath root (entrySource entry)) = false ∧ Found fs (joinPath root (entrySource entry)) entry := by
  unfold sourceObjection at h
  obtain ⟨-, h⟩ := objection_none.mp h
  obtain ⟨hplain, h⟩ := objection_none.mp h
  refine ⟨hplain, ?_⟩
  split at h
  · cases h
  · rename_i content hcontent
    exact found_of_not_differs hcontent h

/-- What `verify_handoff` has found when it has no objection to the current sources. -/
structure Verified (fs : FileSystem) (bundle root : List String) (entries : List Dict) (sources : List String) : Prop where
  collected : collectSources fs root = .ok sources
  sources_named : ∀ source, source ∈ entries.map entrySource ↔ source ∈ sources
  payloads_named : ∀ payload, payload ∈ actualPayloads fs bundle ↔ payload ∈ entries.map entryPayload
  sources_plain : ∀ entry ∈ entries, fs.isSymlink (joinPath root (entrySource entry)) = false
  sources_found : ∀ entry ∈ entries, Found fs (joinPath root (entrySource entry)) entry
  payloads_found : ∀ entry ∈ entries, Found fs (joinPath bundle (entryPayload entry)) entry

theorem bundleObjection_none {bundle root : List String} {values : List Val}
    (h : bundleObjection fs bundle (some root) values = none) :
    ∃ sources, Verified fs bundle (fs.resolve root) (values.filterMap Val.asDict) sources := by
  unfold bundleObjection at h
  obtain ⟨-, h⟩ := objection_none.mp h
  split at h
  · cases h
  · rename_i entries hentries
    obtain ⟨hnames, h⟩ := objection_none.mp h
    obtain ⟨rfl, hfound⟩ := checkPayloads_inr hentries
    rw [Bool.not_eq_false', sameNames_iff] at hnames
    simp only [currentObjection] at h
    split at h
    · cases h
    · rename_i hnone
      split at h
      · cases h
      · rename_i expected hexpected
        split at h
        · rename_i hsources
          have hobjection : ∀ entry ∈ values.filterMap Val.asDict, sourceObjection fs (fs.resolve root) entry = none :=
            List.findSome?_eq_none_iff.mp hnone
          exact ⟨expected, hexpected, sameNames_iff.mp hsources, hnames, fun entry hmem => (sourceObjection_none (hobjection entry hmem)).1,
            fun entry hmem => (sourceObjection_none (hobjection entry hmem)).2, hfound⟩
        · cases h

theorem verifyHandoff_verified {manifestPath root : List String} {manifest : Dict} {reason : String}
    (h : verifyHandoff fs manifestPath (some manifest.toVal) (some root) = .ok (true, reason)) :
    reason = "VERIFIED" ∧ ∃ sources, Verified fs (fs.resolve manifestPath).dropLast (fs.resolve root) (manifestEntries manifest) sources := by
  simp only [verifyHandoff] at h
  obtain ⟨shape, -, h⟩ := bind_ok.mp h
  split at h
  · cases h
  · obtain ⟨manifest', hmanifest, h⟩ := bind_ok.mp h
    rw [dictOr_ok, Val.asDict_toVal, Option.some.injEq] at hmanifest
    subst hmanifest
    split at h
    · cases h
    · split at h
      · rename_i entries hentries
        split at h
        · cases h
        · rename_i hnone
          rw [manifestEntries, hentries]
          exact ⟨(Prod.mk.inj (Except.ok.inj h)).2.symm, bundleObjection_none hnone⟩
      · cases h

/-! ## Two inventories and the list that pairs them -/

/-- The content of the sources. -/
def sourceContent (fs : FileSystem) (root sources : List String) (source : String) : Option ByteArray :=
  if source ∈ sources then fs.contentAt (joinPath root source) else none

/-- The content of the files of a payload. -/
def payloadContent (fs : FileSystem) (bundle : List String) (payload : String) : Option ByteArray :=
  if payload ∈ actualPayloads fs bundle then fs.contentAt (joinPath bundle payload) else none

/-- What the entries pair. -/
def entryPairs (entries : List Dict) : Set (String × String × String) :=
  {pair | ∃ entry ∈ entries, pair = (entrySource entry, entryPayload entry, entryDigest entry)}

namespace Verified

variable {bundle root sources : List String} {entries : List Dict}

theorem paired (h : Verified fs bundle root entries sources) :
    Inventory.Paired sha256Bytes (entryPairs entries) (sourceContent fs root sources) (payloadContent fs bundle) where
  named source := by
    constructor
    · intro hsource
      have hmem : source ∈ sources := by
        by_contra hmem
        exact hsource (if_neg hmem)
      obtain ⟨entry, hentry, rfl⟩ := List.mem_map.mp ((h.sources_named source).mpr hmem)
      exact ⟨_, _, entry, hentry, rfl⟩
    · intro hpair
      obtain ⟨payload, digest, entry, hentry, heq⟩ := hpair
      obtain ⟨content, hcontent, -⟩ := h.sources_found entry hentry
      have hmem := (h.sources_named _).mp (List.mem_map_of_mem hentry)
      rw [(Prod.mk.inj heq).1, sourceContent, if_pos hmem, hcontent]
      exact Option.some_ne_none content
  copies_named payload := by
    constructor
    · intro hpayload
      have hmem : payload ∈ actualPayloads fs bundle := by
        by_contra hmem
        exact hpayload (if_neg hmem)
      obtain ⟨entry, hentry, rfl⟩ := List.mem_map.mp ((h.payloads_named payload).mp hmem)
      exact ⟨_, _, entry, hentry, rfl⟩
    · intro hpair
      obtain ⟨source, digest, entry, hentry, heq⟩ := hpair
      obtain ⟨content, hcontent, -⟩ := h.payloads_found entry hentry
      have hmem := (h.payloads_named _).mpr (List.mem_map_of_mem hentry)
      rw [(Prod.mk.inj (Prod.mk.inj heq).2).1, payloadContent, if_pos hmem, hcontent]
      exact Option.some_ne_none content
  matches_digest source payload digest hpair := by
    obtain ⟨entry, hentry, heq⟩ := hpair
    cases heq
    obtain ⟨content, hcontent, hdigest⟩ := h.sources_found entry hentry
    rw [sourceContent, if_pos ((h.sources_named _).mp (List.mem_map_of_mem hentry)), hcontent, Option.map_some, hdigest]
  copies_digest source payload digest hpair := by
    obtain ⟨entry, hentry, heq⟩ := hpair
    cases heq
    obtain ⟨content, hcontent, hdigest⟩ := h.payloads_found entry hentry
    rw [payloadContent, if_pos ((h.payloads_named _).mpr (List.mem_map_of_mem hentry)), hcontent, Option.map_some, hdigest]

theorem holdsSources_iff_copies (h : Verified fs bundle root entries sources) :
    HoldsSources fs bundle root sources ↔
      Inventory.Copies ("payload/" ++ ·) (sourceContent fs root sources) (payloadContent fs bundle) := by
  have hsome : ∀ source ∈ sources, ∃ content, fs.contentAt (joinPath root source) = some content := by
    intro source hsource
    obtain ⟨entry, hentry, rfl⟩ := List.mem_map.mp ((h.sources_named source).mpr hsource)
    obtain ⟨content, hcontent, -⟩ := h.sources_found entry hentry
    exact ⟨content, hcontent⟩
  have hpayload : ∀ payload, payloadContent fs bundle payload ≠ none ↔ payload ∈ actualPayloads fs bundle := by
    intro payload
    constructor
    · intro hne
      by_contra hmem
      exact hne (if_neg hmem)
    · intro hmem
      obtain ⟨entry, hentry, rfl⟩ := List.mem_map.mp ((h.payloads_named payload).mp hmem)
      obtain ⟨content, hcontent, -⟩ := h.payloads_found entry hentry
      rw [payloadContent, if_pos hmem, hcontent]
      exact Option.some_ne_none content
  constructor
  · intro hholds
    constructor
    · intro source content hcontent
      have hmem : source ∈ sources := by
        by_contra hmem
        rw [sourceContent, if_neg hmem] at hcontent
        cases hcontent
      rw [sourceContent, if_pos hmem] at hcontent
      obtain ⟨content', hcontent', hpresent, hcopy⟩ := hholds.same source hmem
      show payloadContent fs bundle ("payload/" ++ source) = some content
      rw [payloadContent, if_pos hpresent, hcopy, ← hcontent', hcontent]
    · intro payload hne
      obtain ⟨source, hsource, rfl⟩ := hholds.only payload ((hpayload payload).mp hne)
      obtain ⟨content, hcontent⟩ := hsome source hsource
      refine ⟨source, ?_, rfl⟩
      rw [sourceContent, if_pos hsource, hcontent]
      exact Option.some_ne_none content
  · intro hcopies
    constructor
    · intro source hsource
      obtain ⟨content, hcontent⟩ := hsome source hsource
      have hcopy : payloadContent fs bundle ("payload/" ++ source) = some content :=
        hcopies.copied source content (by rw [sourceContent, if_pos hsource, hcontent])
      have hpresent := (hpayload ("payload/" ++ source)).mp (by rw [hcopy]; exact Option.some_ne_none content)
      rw [payloadContent, if_pos hpresent] at hcopy
      exact ⟨content, hcontent, hpresent, hcopy⟩
    · intro payload hpresent
      obtain ⟨source, hne, rfl⟩ := hcopies.only payload ((hpayload payload).mpr hpresent)
      refine ⟨source, ?_, rfl⟩
      by_contra hmem
      exact hne (if_neg hmem)

end Verified

omit [Runtime] in
theorem entryPairs_iff {entries : List Dict} :
    (∀ source payload digest, (source, payload, digest) ∈ entryPairs entries →
        (∃ source', (∃ payload' digest', (source', payload', digest') ∈ entryPairs entries) ∧ payload = "payload/" ++ source') ∧
          ∃ source', (source', "payload/" ++ source, digest) ∈ entryPairs entries) ↔ Aligned entries := by
  constructor
  · intro hpairs entry hentry
    obtain ⟨⟨source, ⟨payload, digest, other, hother, heq⟩, hplace⟩, source', other', hother', heq'⟩ :=
      hpairs _ _ _ ⟨entry, hentry, rfl⟩
    refine ⟨⟨other, hother, ?_⟩, other', hother', ?_, ?_⟩
    · rw [hplace, (Prod.mk.inj heq).1]
    · exact (Prod.mk.inj (Prod.mk.inj heq').2).1.symm
    · exact (Prod.mk.inj (Prod.mk.inj heq').2).2.symm
  · intro haligned source payload digest hpair
    obtain ⟨entry, hentry, heq⟩ := hpair
    cases heq
    obtain ⟨⟨other, hother, hplace⟩, other', hother', hplace', hdigest⟩ := haligned entry hentry
    refine ⟨⟨entrySource other, ⟨_, _, other, hother, rfl⟩, hplace⟩, entrySource other', other', hother', ?_⟩
    rw [hplace', hdigest]

omit [Runtime] in
theorem file_of_contentAt {path : List String} {content : ByteArray} (h : fs.contentAt path = some content) :
    ∃ p, fs.file? p = some content := by
  obtain ⟨p, -, hp⟩ := Option.bind_eq_some_iff.mp h
  exact ⟨p, hp⟩

omit [Runtime] in
theorem file_of_sourceContent {root sources : List String} {source : String} {content : ByteArray}
    (h : sourceContent fs root sources source = some content) : ∃ p, fs.file? p = some content := by
  unfold sourceContent at h
  split at h
  · exact file_of_contentAt h
  · cases h

omit [Runtime] in
theorem file_of_payloadContent {bundle : List String} {payload : String} {content : ByteArray}
    (h : payloadContent fs bundle payload = some content) : ∃ p, fs.file? p = some content := by
  unfold payloadContent at h
  split at h
  · exact file_of_contentAt h
  · cases h

/-- A verified bundle holds the current sources, and nothing else, exactly if its entries are aligned. -/
theorem verifyHandoff_current_iff {manifestPath root : List String} {manifest : Dict}
    (h : verifyHandoff fs manifestPath (some manifest.toVal) (some root) = .ok (true, "VERIFIED"))
    (hcollision : ∀ p q content content', fs.file? p = some content → fs.file? q = some content' →
      sha256Bytes content = sha256Bytes content' → content = content') :
    (∃ sources, collectSources fs (fs.resolve root) = .ok sources ∧
        HoldsSources fs (fs.resolve manifestPath).dropLast (fs.resolve root) sources) ↔
      Aligned (manifestEntries manifest) := by
  obtain ⟨-, sources, hverified⟩ := verifyHandoff_verified h
  have hdistinct : ∀ source payload content content', sourceContent fs (fs.resolve root) sources source = some content →
      payloadContent fs (fs.resolve manifestPath).dropLast payload = some content' →
      sha256Bytes content = sha256Bytes content' → content = content' := by
    intro source payload content content' hcontent hcontent'
    obtain ⟨p, hp⟩ := file_of_sourceContent hcontent
    obtain ⟨q, hq⟩ := file_of_payloadContent hcontent'
    exact hcollision p q content content' hp hq
  have hiff : HoldsSources fs (fs.resolve manifestPath).dropLast (fs.resolve root) sources ↔ Aligned (manifestEntries manifest) := by
    rw [hverified.holdsSources_iff_copies, hverified.paired.copies_iff hdistinct, entryPairs_iff]
  rw [← hiff]
  constructor
  · intro hcurrent
    obtain ⟨sources', hsources', hholds⟩ := hcurrent
    obtain rfl := Except.ok.inj (hverified.collected.symm.trans hsources')
    exact hholds
  · intro hholds
    exact ⟨sources, hverified.collected, hholds⟩

end

/-! ## Places in a bundle -/

theorem staysBelow_asPosix (p : RelPath) : staysBelow p.asPosix = true := by
  have hparts : "..".toList ∉ p.names.map String.toList := by
    intro h
    obtain ⟨name, hname, heq⟩ := List.mem_map.mp h
    exact (p.valid_of_mem hname).2.2.1 (String.toList_inj.mp heq)
  rw [staysBelow, p.ofText_asPosix]
  simpa [PurePath.isAbsolute, PurePath.parts] using hparts

theorem safeSourcePath_asPosix (p : RelPath) : safeSourcePath (.str p.asPosix) = true := by
  rw [safeSourcePath, staysBelow_asPosix, bne_iff_ne.mpr p.asPosix_ne_empty, Bool.and_self]

def payloadName : RelPath := ⟨["payload"], by decide, by decide⟩

/-- The place of a source is the path below the directory of the payload. -/
theorem place_eq (p : RelPath) : "payload/" ++ p.asPosix = (payloadName.join p).asPosix := by
  have hname : payloadName.asPosix ++ "/" = "payload/" := by
    rw [RelPath.asPosix_eq_intercalate]
    rfl
  rw [RelPath.asPosix_join, hname]

theorem joinPath_place (bundle : List String) (p : RelPath) :
    joinPath bundle ("payload/" ++ p.asPosix) = bundle ++ ["payload"] ++ p.names := by
  rw [place_eq, RelPath.joinPath_asPosix, List.append_assoc]
  rfl

theorem safePayloadPath_place (p : RelPath) : safePayloadPath (.str ("payload/" ++ p.asPosix)) = true := by
  have hstart : "payload/".toList.isPrefixOf ("payload/" ++ p.asPosix).toList = true := by
    rw [String.toList_append]
    simp
  rw [safePayloadPath, hstart, place_eq, staysBelow_asPosix, Bool.and_self]

theorem place_inj {source source' : String} (h : "payload/" ++ source = "payload/" ++ source') : source = source' :=
  String.append_right_inj _ |>.mp h

/-! ## Manifests that are read back -/

section

variable [Runtime] {fs : FileSystem}

/-- The fields of an entry that records `content` for a source and a payload path. -/
structure EntryOf (entry : Dict) (source payload role : String) (content : ByteArray) : Prop where
  keys : entry.keysAre ENTRY_FIELDS = true
  source_path : entry.get "source_path" = .str source
  payload_path : entry.get "payload_path" = .str payload
  role_eq : entry.get "role" = .str role
  byte_length : entry.get "byte_length" = .int content.size
  sha256 : entry.get "sha256" = .str (sha256Bytes content)

theorem entryOf_handoffEntry (source payload role : String) (content : ByteArray) :
    EntryOf (handoffEntry source payload role content).sortKeys source payload role content where
  keys := by
    rw [Dict.keysAre_iff]
    intro k
    rw [Dict.mem_keys_sortKeys, handoffEntry, Dict.mem_keys_ofItems]
    rfl
  source_path := by simp [Dict.get_sortKeys, handoffEntry, Dict.ofItems, Dict.get_insert, Val.sortKeys]
  payload_path := by simp [Dict.get_sortKeys, handoffEntry, Dict.ofItems, Dict.get_insert, Val.sortKeys]
  role_eq := by simp [Dict.get_sortKeys, handoffEntry, Dict.ofItems, Dict.get_insert, Val.sortKeys]
  byte_length := by simp [Dict.get_sortKeys, handoffEntry, Dict.ofItems, Dict.get_insert, Val.sortKeys]
  sha256 := by simp [Dict.get_sortKeys, handoffEntry, Dict.ofItems, Val.sortKeys]

theorem EntryOf.differs {entry : Dict} {source payload role : String} {content : ByteArray}
    (h : EntryOf entry source payload role content) : contentDiffers content entry = false := by
  rw [contentDiffers, h.byte_length, Val.eq_refl, Bool.not_true, Bool.false_or, differs_false]
  exact h.sha256

/-- An entry is no objection where its content is found below the bundle. -/
theorem EntryOf.payloadObjection {entry : Dict} {source payload role : String} {content : ByteArray}
    (h : EntryOf entry source payload role content) {bundle seen : List String} (hsource : source ≠ "") (hrole : role ≠ "")
    (hsafe : safePayloadPath (.str payload) = true) (hseen : payload ∉ seen)
    (hparent : isParent bundle (fs.resolve (joinPath bundle payload)) = true)
    (hcontent : fs.contentAt (joinPath bundle payload) = some content) : payloadObjection fs bundle seen entry = none := by
  have hcount : isCount (.int content.size) = true := by simp [isCount]
  simp only [Pmiri.payloadObjection, h.keys, h.payload_path, h.source_path, h.role_eq, h.byte_length, h.sha256, hsafe, hcount,
    Val.strText, Val.isNonemptyStr_str, isSha256_sha256Bytes, bne_iff_ne.mpr hsource, bne_iff_ne.mpr hrole, hparent,
    contentAt_resolve, hcontent, h.differs]
  simpa using hseen

theorem EntryOf.sourceObjection {entry : Dict} {source payload role : String} {content : ByteArray}
    (h : EntryOf entry source payload role content) {root : List String} (hsafe : safeSourcePath (.str source) = true)
    (hsymlink : fs.isSymlink (joinPath root source) = false) (hcontent : fs.contentAt (joinPath root source) = some content) :
    sourceObjection fs root entry = none := by
  simp only [Pmiri.sourceObjection, h.source_path, Val.strText, hsafe, hsymlink, hcontent, h.differs]
  rfl

omit [Runtime] in
theorem keys_unsignedHandoff (head : HandoffHead) (entries : List Dict) {k : String} :
    k ∈ (unsignedHandoff head entries).keys ↔ k ∈ MANIFEST_FIELDS ∧ k ≠ "handoff_fingerprint" := by
  have hfields : ∀ k, (k ∈ ["artifact_kind", "artifact_version", "status", "created_at", "selected_fixture_id", "selected_case_id",
      "payload_policy", "external_execution", "preflight_status", "review_status", "required_external_actions", "entries"]) ↔
      k ∈ MANIFEST_FIELDS ∧ k ≠ "handoff_fingerprint" := by
    intro k
    simp only [MANIFEST_FIELDS, List.mem_cons, List.not_mem_nil, or_false]
    constructor
    · intro h
      rcases h with rfl | rfl | rfl | rfl | rfl | rfl | rfl | rfl | rfl | rfl | rfl | rfl <;> simp
    · intro h
      tauto
  rw [unsignedHandoff, Dict.mem_keys_ofItems]
  exact hfields k

theorem fingerprint_handoffManifest (head : HandoffHead) (entries : List Dict) :
    (handoffManifest head entries).sortKeys.get "handoff_fingerprint" =
      .str (sha256Json ((handoffManifest head entries).sortKeys.without "handoff_fingerprint").toVal) := by
  have hnew : "handoff_fingerprint" ∉ (unsignedHandoff head entries).keys := fun h =>
    ((keys_unsignedHandoff head entries).mp h).2 rfl
  have hwithout : (handoffManifest head entries).sortKeys.without "handoff_fingerprint" = (unsignedHandoff head entries).sortKeys := by
    rw [Dict.without, Dict.filterKeys_sortKeys, ← Dict.without, handoffManifest, Dict.without_insert hnew]
  rw [hwithout, ← Dict.toVal_sortKeys, sha256Json_sortKeys, Dict.get_sortKeys, handoffManifest, Dict.get_insert_self, Val.sortKeys]

theorem keysAre_handoffManifest (head : HandoffHead) (entries : List Dict) :
    (handoffManifest head entries).sortKeys.keysAre MANIFEST_FIELDS = true := by
  rw [Dict.keysAre_iff]
  intro k
  rw [Dict.mem_keys_sortKeys, handoffManifest, Dict.mem_keys_insert, keys_unsignedHandoff]
  by_cases hk : k = "handoff_fingerprint"
  · simp [hk, MANIFEST_FIELDS]
  · simp [hk]

theorem entries_handoffManifest (head : HandoffHead) (entries : List Dict) :
    (handoffManifest head entries).sortKeys.get "entries" = .list ((entries.map Dict.sortKeys).map Dict.toVal) := by
  rw [Dict.get_sortKeys, ← Dict.sortKeys_list]
  simp [handoffManifest, unsignedHandoff, Dict.ofItems, Dict.get_insert]

theorem manifestObjection_handoffManifest (head : HandoffHead) (entries : List Dict) :
    manifestObjection (handoffManifest head entries).sortKeys = none := by
  have hget : ∀ k, k ≠ "handoff_fingerprint" →
      (handoffManifest head entries).sortKeys.get k = ((unsignedHandoff head entries).get k).sortKeys := by
    intro k hk
    rw [Dict.get_sortKeys, handoffManifest, Dict.get_insert, if_neg hk]
  have hfield : ∀ k s, k ≠ "handoff_fingerprint" → (unsignedHandoff head entries).get k = .str s →
      differs (handoffManifest head entries).sortKeys k s = false := by
    intro k s hk hs
    rw [differs_false, hget k hk, hs, Val.sortKeys]
  have hactions : (handoffManifest head entries).sortKeys.get "required_external_actions" = strList EXTERNAL_ACTIONS := by
    rw [hget _ (by decide), ← Val.sortKeys_strList EXTERNAL_ACTIONS]
    simp [unsignedHandoff, Dict.ofItems, Dict.get_insert]
  have hfields : ∀ k s, (k, s) ∈ [("artifact_kind", HANDOFF_KIND), ("artifact_version", HANDOFF_VERSION), ("status", HANDOFF_STATUS),
      ("external_execution", "NOT_PERFORMED"), ("payload_policy", "SYNTHETIC_INPUTS_ONLY"), ("review_status", "NOT_SUPPLIED")] →
      differs (handoffManifest head entries).sortKeys k s = false := by
    intro k s hmem
    simp only [List.mem_cons, Prod.mk.injEq, List.not_mem_nil, or_false] at hmem
    rcases hmem with ⟨rfl, rfl⟩ | ⟨rfl, rfl⟩ | ⟨rfl, rfl⟩ | ⟨rfl, rfl⟩ | ⟨rfl, rfl⟩ | ⟨rfl, rfl⟩ <;>
      exact hfield _ _ (by decide) (by simp [unsignedHandoff, Dict.ofItems, Dict.get_insert])
  unfold manifestObjection
  simp only [hfields _ _ (List.mem_cons_self), hactions, Val.eq_refl, fingerprint_handoffManifest, isSha256_sha256Json]
  rw [hfields "artifact_version" _ (by simp), hfields "status" _ (by simp), hfields "external_execution" _ (by simp),
    hfields "payload_policy" _ (by simp), hfields "review_status" _ (by simp)]
  rfl

theorem checkPayloads_of {bundle : List String} {entries : List Dict} {seen : List String}
    (hobjection : ∀ entry ∈ entries, ∀ seen, entryPayload entry ∉ seen → payloadObjection fs bundle seen entry = none)
    (hnodup : (entries.map entryPayload).Nodup) (hseen : ∀ entry ∈ entries, entryPayload entry ∉ seen) :
    checkPayloads fs bundle seen (entries.map Dict.toVal) = .inr entries := by
  induction entries generalizing seen with
  | nil => rfl
  | cons entry entries ih =>
    rw [List.map_cons, List.nodup_cons] at hnodup
    have hhead := hobjection entry List.mem_cons_self seen (hseen entry List.mem_cons_self)
    have hnew : ∀ e ∈ entries, entryPayload e ∉ entryPayload entry :: seen := by
      intro e he hmem
      rcases List.mem_cons.mp hmem with heq | hmem
      · exact hnodup.1 (heq ▸ List.mem_map_of_mem he)
      · exact hseen e (List.mem_cons_of_mem _ he) hmem
    have hrest := ih (fun e he => hobjection e (List.mem_cons_of_mem _ he)) hnodup.2 hnew
    rw [List.map_cons, checkPayloads, Val.asDict_toVal]
    simp only [hhead]
    rw [← entryPayload, hrest]
    rfl

/-- What makes a bundle verified whose manifest was written for the entries. -/
structure Verifiable (fs : FileSystem) (bundle root : List String) (entries : List Dict) (sources : List String) : Prop where
  nonempty : entries ≠ []
  payloads_checked : ∀ entry ∈ entries, ∀ seen, entryPayload entry ∉ seen → payloadObjection fs bundle seen entry = none
  payloads_nodup : (entries.map entryPayload).Nodup
  payloads_named : ∀ payload, payload ∈ actualPayloads fs bundle ↔ payload ∈ entries.map entryPayload
  sources_checked : ∀ entry ∈ entries, sourceObjection fs root entry = none
  collected : collectSources fs root = .ok sources
  sources_named : ∀ source, source ∈ entries.map entrySource ↔ source ∈ sources

theorem verifyHandoff_of_verifiable {manifestPath root sources : List String} {head : HandoffHead} {entries : List Dict}
    (h : Verifiable fs (fs.resolve manifestPath).dropLast (fs.resolve root) (entries.map Dict.sortKeys) sources) :
    verifyHandoff fs manifestPath (some (handoffManifest head entries).sortKeys.toVal) (some root) = .ok (true, "VERIFIED") := by
  have hcurrent : currentObjection fs (fs.resolve root) (entries.map Dict.sortKeys) = none := by
    have hfind : (entries.map Dict.sortKeys).findSome? (sourceObjection fs (fs.resolve root)) = none :=
      List.findSome?_eq_none_iff.mpr h.sources_checked
    simp only [currentObjection, hfind, h.collected]
    exact if_pos (sameNames_iff.mpr h.sources_named)
  have hbundle : bundleObjection fs (fs.resolve manifestPath).dropLast (some root) ((entries.map Dict.sortKeys).map Dict.toVal) = none := by
    have hnames : sameNames (actualPayloads fs (fs.resolve manifestPath).dropLast)
        ((entries.map Dict.sortKeys).map fun entry => (entry.get "payload_path").strText) = true :=
      sameNames_iff.mpr h.payloads_named
    have hempty : ((entries.map Dict.sortKeys).map Dict.toVal).isEmpty = false := by
      rw [List.isEmpty_eq_false_iff]
      simpa using h.nonempty
    rw [bundleObjection, hempty, checkPayloads_of h.payloads_checked h.payloads_nodup fun _ _ => List.not_mem_nil]
    simp only [hnames, hcurrent]
    rfl
  simp only [verifyHandoff, elementsAre_toVal, keysAre_handoffManifest, ok_bind, dictOr_ok.mpr (Val.asDict_toVal _),
    manifestObjection_handoffManifest, entries_handoffManifest, hbundle]
  rfl

end

/-! ## A project and a bundle of it -/

/-- The static files, by the names in their paths. -/
def staticNames : List (List String) := [
  ["requirements.lock"], ["pyproject.toml"], [".github", "workflows", "pmiri.yml"], ["deployment-profile.example.json"],
  ["README.md"], ["IMPLEMENTATION_PLAN.md"], ["IMPLEMENTATION_STATUS.md"], ["TECHNOLOGY_DECISIONS.md"],
  ["OPERATIONS_RUNBOOK.md"], ["EXTERNAL_CLOSURE_CHECKLIST.md"],
  ["PMIRI_ALL_DOCUMENTATION_CHECKPOINT_17", "CHECKSUMS_SHA256.txt"],
  ["PMIRI_ALL_DOCUMENTATION_CHECKPOINT_17", "ARCHIVE_SOURCES", "PMIRI_v1.0_Gate_C_Accepted.zip"],
  ["PMIRI_ALL_DOCUMENTATION_CHECKPOINT_17", "ARCHIVE_SOURCES", "PMIRI_v1.1.1_Gate_D_R1_Accepted.zip"],
  ["artifacts", "local-runner-identity.json"], ["artifacts", "preflight-record.json"],
  ["artifacts", "s0-acceptance-report.json"], ["artifacts", "d2-matrix-report.json"],
  ["artifacts", "d2-runtime-candidate-report.json"], ["artifacts", "gate-d-runtime-smoke-report.json"],
  ["artifacts", "r-fc-blocked-candidate-report.json"], ["artifacts", "r-fc-local-handler-candidate-report.json"],
  ["artifacts", "r-fc-handler-manifest.json"], ["artifacts", "review-package.json"],
  ["artifacts", "deployment-readiness-report.json"], ["artifacts", "final-acceptance-gate.json"],
  ["artifacts", "deployment-smoke-report.json"], ["artifacts", "sbom", "pmiri-sbom.spdx.json"],
  ["artifacts", "sealed", "s0-acceptance", "artifact-manifest.json"]]

/-- The directories that they are in. -/
def staticParents : List (List String) := [
  [".github"], [".github", "workflows"], ["PMIRI_ALL_DOCUMENTATION_CHECKPOINT_17"],
  ["PMIRI_ALL_DOCUMENTATION_CHECKPOINT_17", "ARCHIVE_SOURCES"], ["artifacts"], ["artifacts", "sbom"],
  ["artifacts", "sealed"], ["artifacts", "sealed", "s0-acceptance"]]

/-- The source directories. -/
def sourceNames : List (List String) := [
  ["pmiri"], ["tests"], ["scripts"], ["deployment", "vm"], ["fixtures", "s0", "project-alpha"],
  ["PMIRI_ALL_DOCUMENTATION_CHECKPOINT_17", "GC-C1"], ["PMIRI_ALL_DOCUMENTATION_CHECKPOINT_17", "GATE-D-R2"]]

/-- The other directories that these are in. -/
def sourceParents : List (List String) := [["deployment"], ["fixtures"], ["fixtures", "s0"]]

theorem staticNames_eq : staticNames.map ("/".intercalate ·) = STATIC_FILES := by rfl

theorem sourceNames_eq : sourceNames.map ("/".intercalate ·) = SOURCE_DIRECTORIES := by rfl

theorem exampleNames_valid :
    ∀ names ∈ staticParents ++ sourceNames ++ sourceParents ++ staticNames, names ≠ [] ∧ names.all validName = true := by
  decide +kernel

/-- No static file is in a source directory. -/
theorem sourceNames_static : ∀ directory ∈ sourceNames, ∀ names ∈ staticNames, ¬ directory <+: names := by
  decide +kernel

theorem exampleNames_nodup : (staticParents ++ sourceNames ++ sourceParents ++ staticNames).Nodup := by
  decide +kernel

def paths (names : List (List String)) : List RelPath := names.filterMap RelPath.ofNames

theorem mem_paths {names : List (List String)} {p : RelPath} : p ∈ paths names ↔ p.names ∈ names := by
  rw [paths, List.mem_filterMap]
  constructor
  · intro h
    obtain ⟨l, hl, hp⟩ := h
    unfold RelPath.ofNames at hp
    split at hp
    · obtain rfl := Option.some.inj hp
      exact hl
    · cases hp
  · intro h
    exact ⟨p.names, h, dif_pos ⟨p.nonempty, p.valid⟩⟩

theorem nodup_paths {names : List (List String)} (h : names.Nodup) : (paths names).Nodup := by
  refine h.filterMap fun l l' p hp hp' => ?_
  unfold RelPath.ofNames at hp hp'
  split at hp
  · split at hp'
    · rw [← Option.some.inj hp'] at hp
      exact congrArg RelPath.names (Option.some.inj hp)
    · cases hp'
  · cases hp

/-- A directory with what is in it. -/
def subtree (base : RelPath) (entries : List (RelPath × Entry)) : List (RelPath × Entry) :=
  (base, .directory) :: entries.map fun e => (base.join e.1, e.2)

theorem mem_subtree {base p : RelPath} {entries : List (RelPath × Entry)} {entry : Entry} :
    (p, entry) ∈ subtree base entries ↔ (p = base ∧ entry = .directory) ∨ ∃ q, (q, entry) ∈ entries ∧ p = base.join q := by
  rw [subtree, List.mem_cons, List.mem_map, Prod.mk.injEq]
  refine or_congr Iff.rfl ?_
  constructor
  · intro h
    obtain ⟨e, he, heq⟩ := h
    cases heq
    exact ⟨e.1, he, rfl⟩
  · intro h
    obtain ⟨q, hq, rfl⟩ := h
    exact ⟨(q, entry), hq, rfl⟩

theorem prefix_of_mem_subtree {base p : RelPath} {entries : List (RelPath × Entry)} (h : p ∈ (subtree base entries).map Prod.fst) :
    base.names <+: p.names := by
  obtain ⟨⟨q, entry⟩, hmem, rfl⟩ := List.mem_map.mp h
  rcases mem_subtree.mp hmem with ⟨rfl, -⟩ | ⟨r, -, rfl⟩
  · exact List.prefix_refl _
  · exact List.prefix_append _ _

theorem join_assoc (p q r : RelPath) : (p.join q).join r = p.join (q.join r) := RelPath.ext (List.append_assoc _ _ _)

theorem join_ne (base q : RelPath) : base.join q ≠ base := by
  intro h
  exact q.nonempty (List.append_right_eq_self.mp (congrArg RelPath.names h))

theorem nodup_subtree {base : RelPath} {entries : List (RelPath × Entry)} (h : (entries.map Prod.fst).Nodup) :
    ((subtree base entries).map Prod.fst).Nodup := by
  rw [subtree, List.map_cons, List.map_map, List.nodup_cons, List.mem_map]
  constructor
  · intro hmem
    obtain ⟨e, -, heq⟩ := hmem
    exact join_ne base e.1 heq
  · have hmap : (entries.map Prod.fst).map base.join = entries.map (Prod.fst ∘ fun e => (base.join e.1, e.2)) := by
      rw [List.map_map]
      rfl
    exact hmap ▸ h.map fun _ _ => RelPath.join_inj

/-- Directories, and the static files with their contents. -/
def filesIn (directories : List (List String)) (content : RelPath → ByteArray) : List (RelPath × Entry) :=
  (paths directories).map (fun p => (p, .directory)) ++ (paths staticNames).map fun p => (p, .file (content p))

theorem mem_filesIn_file {directories : List (List String)} {content : RelPath → ByteArray} {p : RelPath} {c : ByteArray} :
    (p, .file c) ∈ filesIn directories content ↔ p.names ∈ staticNames ∧ c = content p := by
  rw [filesIn, List.mem_append, List.mem_map, List.mem_map]
  constructor
  · intro h
    rcases h with ⟨q, -, heq⟩ | ⟨q, hq, heq⟩
    · cases heq
    · cases heq
      exact ⟨mem_paths.mp hq, rfl⟩
  · intro h
    obtain ⟨hp, rfl⟩ := h
    exact .inr ⟨p, mem_paths.mpr hp, rfl⟩

theorem mem_filesIn_directory {directories : List (List String)} {content : RelPath → ByteArray} {p : RelPath} :
    (p, .directory) ∈ filesIn directories content ↔ p.names ∈ directories := by
  rw [filesIn, List.mem_append, List.mem_map, List.mem_map]
  constructor
  · intro h
    rcases h with ⟨q, hq, heq⟩ | ⟨q, -, heq⟩
    · cases heq
      exact mem_paths.mp hq
    · cases heq
  · intro h
    exact .inl ⟨p, mem_paths.mpr h, rfl⟩

theorem not_symlink_filesIn {directories : List (List String)} {content : RelPath → ByteArray} {p : RelPath} :
    (p, .symlink) ∉ filesIn directories content := by
  rw [filesIn, List.mem_append, List.mem_map, List.mem_map]
  intro h
  rcases h with ⟨q, -, heq⟩ | ⟨q, -, heq⟩ <;> cases heq

theorem nodup_filesIn {directories : List (List String)} (content : RelPath → ByteArray)
    (h : (directories ++ staticNames).Nodup) : ((filesIn directories content).map Prod.fst).Nodup := by
  have hfst : (filesIn directories content).map Prod.fst = paths (directories ++ staticNames) := by
    have hpaths : paths (directories ++ staticNames) = paths directories ++ paths staticNames := List.filterMap_append
    rw [filesIn, List.map_append, List.map_map, List.map_map, hpaths]
    exact congrArg₂ _ (List.map_id _) (List.map_id _)
  rw [hfst]
  exact nodup_paths h

def exampleProject : RelPath := ⟨["project"], by decide, by decide⟩
def exampleBundle : RelPath := ⟨["bundle"], by decide, by decide⟩
def examplePayload : RelPath := ⟨["bundle", "payload"], by decide, by decide⟩

/-- A project in which the static files are all that there is, and a bundle that has what
belongs to `place p` where `p` belongs. -/
def exampleSystem (content : RelPath → ByteArray) (place : RelPath → RelPath) : FileSystem where
  entries := subtree exampleProject (filesIn (staticParents ++ sourceNames ++ sourceParents) content) ++
    (exampleBundle, .directory) :: subtree examplePayload (filesIn staticParents fun p => content (place p))
  nodup := by
    have hsublist : (staticParents ++ staticNames).Sublist (staticParents ++ sourceNames ++ sourceParents ++ staticNames) := by
      rw [List.append_assoc, List.append_assoc]
      exact (List.Sublist.refl _).append ((List.sublist_append_right _ _).trans (List.sublist_append_right _ _))
    have hproject : ((subtree exampleProject _).map Prod.fst).Nodup := nodup_subtree (nodup_filesIn content exampleNames_nodup)
    have hpayload : ((subtree examplePayload _).map Prod.fst).Nodup :=
      nodup_subtree (nodup_filesIn (fun p => content (place p)) (exampleNames_nodup.sublist hsublist))
    rw [List.map_append, List.map_cons, List.nodup_append, List.nodup_cons]
    refine ⟨hproject, ⟨fun h => ?_, hpayload⟩, fun p hp q hq heq => ?_⟩
    · exact absurd (prefix_of_mem_subtree h) (by decide)
    · subst heq
      have hproject := prefix_of_mem_subtree hp
      have hbundle : exampleBundle.names <+: p.names := by
        rcases List.mem_cons.mp hq with rfl | hq
        · exact List.prefix_refl _
        · exact (by decide : exampleBundle.names <+: examplePayload.names).trans (prefix_of_mem_subtree hq)
      obtain ⟨l, hl⟩ := hproject
      obtain ⟨l', hl'⟩ := hbundle
      have hhead := (List.cons.inj (hl.trans hl'.symm)).1
      exact absurd hhead (by decide)
  resolve := id
  resolve_resolve _ := rfl
  resolve_file _ _ _ := rfl

section

variable (content : RelPath → ByteArray) (place : RelPath → RelPath)

theorem staticFiles_eq {source : String} : source ∈ STATIC_FILES ↔ ∃ p : RelPath, p.names ∈ staticNames ∧ p.asPosix = source := by
  rw [← staticNames_eq, List.mem_map]
  constructor
  · intro h
    obtain ⟨names, hnames, rfl⟩ := h
    obtain ⟨hne, hvalid⟩ := exampleNames_valid names (List.mem_append_right _ hnames)
    exact ⟨⟨names, hne, hvalid⟩, hnames, RelPath.asPosix_eq_intercalate _⟩
  · intro h
    obtain ⟨p, hp, rfl⟩ := h
    exact ⟨p.names, hp, p.asPosix_eq_intercalate.symm⟩

theorem sourceDirectories_eq {directory : String} (h : directory ∈ SOURCE_DIRECTORIES) :
    ∃ p : RelPath, p.names ∈ sourceNames ∧ p.asPosix = directory := by
  rw [← sourceNames_eq, List.mem_map] at h
  obtain ⟨names, hnames, rfl⟩ := h
  obtain ⟨hne, hvalid⟩ := exampleNames_valid names
    (List.mem_append_left _ (List.mem_append_left _ (List.mem_append_right _ hnames)))
  exact ⟨⟨names, hne, hvalid⟩, hnames, RelPath.asPosix_eq_intercalate _⟩

theorem join_project_ne_payload (p q : RelPath) : exampleProject.join p ≠ examplePayload.join q := by
  intro h
  exact absurd (List.cons.inj (congrArg RelPath.names h)).1 (by decide)

theorem mem_exampleSystem_project {p : RelPath} {entry : Entry} :
    (exampleProject.join p, entry) ∈ (exampleSystem content place).entries ↔
      (p, entry) ∈ filesIn (staticParents ++ sourceNames ++ sourceParents) content := by
  rw [exampleSystem, List.mem_append, List.mem_cons, mem_subtree, mem_subtree]
  constructor
  · intro h
    rcases h with (⟨heq, -⟩ | ⟨q, hq, heq⟩) | heq | ⟨heq, -⟩ | ⟨q, -, heq⟩
    · exact absurd heq (join_ne _ _)
    · exact RelPath.join_inj heq ▸ hq
    · exact absurd (List.cons.inj (congrArg RelPath.names (Prod.mk.inj heq).1)).1 (by decide)
    · exact absurd (List.cons.inj (congrArg RelPath.names heq)).1 (by decide)
    · exact absurd heq (join_project_ne_payload p q)
  · intro h
    exact .inl (.inr ⟨p, h, rfl⟩)

theorem mem_exampleSystem_payload {p : RelPath} {entry : Entry} :
    (examplePayload.join p, entry) ∈ (exampleSystem content place).entries ↔
      (p, entry) ∈ filesIn staticParents fun p => content (place p) := by
  rw [exampleSystem, List.mem_append, List.mem_cons, mem_subtree, mem_subtree]
  constructor
  · intro h
    rcases h with (⟨heq, -⟩ | ⟨q, -, heq⟩) | heq | ⟨heq, -⟩ | ⟨q, hq, heq⟩
    · exact absurd (List.cons.inj (congrArg RelPath.names heq)).1 (by decide)
    · exact absurd heq.symm (join_project_ne_payload q p)
    · exact absurd (List.cons.inj (congrArg RelPath.names (Prod.mk.inj heq).1)).2 (by simp)
    · exact absurd heq (join_ne _ _)
    · exact RelPath.join_inj heq ▸ hq
  · intro h
    exact .inr (.inr (.inr ⟨p, h, rfl⟩))

theorem not_symlink_exampleSystem : ∀ e ∈ (exampleSystem content place).entries, e.2 ≠ .symlink := by
  intro e he heq
  obtain ⟨p, entry⟩ := e
  subst heq
  rw [exampleSystem, List.mem_append, List.mem_cons, mem_subtree, mem_subtree] at he
  rcases he with (⟨-, heq⟩ | ⟨q, hq, -⟩) | heq | ⟨-, heq⟩ | ⟨q, hq, -⟩
  · cases heq
  · exact not_symlink_filesIn hq
  · cases heq
  · cases heq
  · exact not_symlink_filesIn hq

theorem exampleSystem_source (p : RelPath) (h : p.names ∈ staticNames) :
    (exampleSystem content place).contentAt (joinPath ["/", "project"] p.asPosix) = some (content p) := by
  rw [RelPath.joinPath_asPosix]
  have hresolve : (exampleSystem content place).resolve (["/", "project"] ++ p.names) = ["/"] ++ (exampleProject.join p).names := rfl
  rw [Disk.contentAt_of_resolve _ hresolve, Disk.file?_eq_some, mem_exampleSystem_project, mem_filesIn_file]
  exact ⟨h, rfl⟩

theorem exampleSystem_payload (p : RelPath) (h : p.names ∈ staticNames) :
    (exampleSystem content place).contentAt (["/", "bundle"] ++ ["payload"] ++ p.names) = some (content (place p)) := by
  have hresolve : (exampleSystem content place).resolve (["/", "bundle"] ++ ["payload"] ++ p.names) =
      ["/"] ++ (examplePayload.join p).names := rfl
  rw [Disk.contentAt_of_resolve _ hresolve, Disk.file?_eq_some, mem_exampleSystem_payload, mem_filesIn_file]
  exact ⟨h, rfl⟩

theorem collectSources_exampleSystem [Runtime] :
    collectSources (exampleSystem content place) ["/", "project"] = .ok (STATIC_FILES.dedup.insertionSort (· ≤ ·)) := by
  have hfiles : forEach STATIC_FILES (fun relative => raiseIf
      (!(exampleSystem content place).isFile (joinPath ["/", "project"] relative)) (handoffError ("handoff_source_missing:" ++ relative))) =
      .ok () := by
    refine forEach_ok.mpr fun relative hrelative => ?_
    obtain ⟨p, hp, rfl⟩ := staticFiles_eq.mp hrelative
    rw [Disk.isFile, exampleSystem_source content place p hp]
    rfl
  have hdirectories : forEach SOURCE_DIRECTORIES (fun directory => raiseIf
      (!(exampleSystem content place).isDirectory (joinPath ["/", "project"] directory))
      (handoffError ("handoff_source_directory_missing:" ++ directory))) = .ok () := by
    refine forEach_ok.mpr fun directory hdirectory => ?_
    obtain ⟨p, hp, rfl⟩ := sourceDirectories_eq hdirectory
    have hresolve : (exampleSystem content place).resolve (joinPath ["/", "project"] p.asPosix) = ["/"] ++ (exampleProject.join p).names := by
      rw [RelPath.joinPath_asPosix]
      rfl
    have hdirectory := (Disk.isDirectory_of_resolve _ hresolve).mpr
      ((mem_exampleSystem_project content place).mpr (mem_filesIn_directory.mpr (List.mem_append_left _ (List.mem_append_right _ hp))))
    rw [hdirectory]
    rfl
  have hbelow : ∀ directory ∈ SOURCE_DIRECTORIES, sourcesBelow (exampleSystem content place) ["/", "project"] directory = [] := by
    intro directory hdirectory
    obtain ⟨p, hp, rfl⟩ := sourceDirectories_eq hdirectory
    have hresolve : (exampleSystem content place).resolve (joinPath ["/", "project"] p.asPosix) = ["/"] ++ (exampleProject.join p).names := by
      rw [RelPath.joinPath_asPosix]
      rfl
    refine List.filterMap_eq_nil_iff.mpr fun e he => ?_
    obtain ⟨q, entry⟩ := e
    cases entry with
    | file c =>
      have hmem := (Disk.mem_rglob _ hresolve).mp he
      rw [join_assoc, mem_exampleSystem_project, mem_filesIn_file] at hmem
      exact absurd (List.prefix_append _ _) (sourceNames_static _ hp _ hmem.1)
    | directory => rfl
    | symlink => rfl
  unfold collectSources
  refine seq_ok.mpr ⟨hfiles, seq_ok.mpr ⟨hdirectories, ?_⟩⟩
  rw [List.flatMap_eq_nil_iff.mpr hbelow, List.append_nil]
  rfl

theorem actualPayloads_exampleSystem (payload : String) :
    payload ∈ actualPayloads (exampleSystem content place) ["/", "bundle"] ↔
      ∃ p : RelPath, p.names ∈ staticNames ∧ payload = "payload/" ++ p.asPosix := by
  have hresolve : (exampleSystem content place).resolve (["/", "bundle"] ++ ["payload"]) = ["/"] ++ examplePayload.names := rfl
  have hdirectory : (exampleSystem content place).isDirectory (["/", "bundle"] ++ ["payload"]) = true := by
    rw [Disk.isDirectory_of_resolve _ hresolve, exampleSystem, List.mem_append, List.mem_cons, mem_subtree, mem_subtree]
    exact .inr (.inr (.inl ⟨rfl, rfl⟩))
  rw [actualPayloads, if_pos hdirectory, List.mem_filterMap]
  constructor
  · intro h
    obtain ⟨⟨q, entry⟩, hmem, hfile⟩ := h
    split at hfile
    · rename_i hisFile
      obtain rfl := Option.some.inj hfile
      have hmem := (mem_exampleSystem_payload content place).mp ((Disk.mem_rglob _ hresolve).mp hmem)
      have hq : (exampleSystem content place).resolve (["/", "bundle"] ++ ["payload"] ++ q.names) =
          ["/"] ++ (examplePayload.join q).names := rfl
      rw [Disk.isFile, Disk.contentAt_of_resolve _ hq] at hisFile
      obtain ⟨c, hc⟩ := Option.isSome_iff_exists.mp hisFile
      rw [Disk.file?_eq_some, mem_exampleSystem_payload, mem_filesIn_file] at hc
      exact ⟨q, hc.1, rfl⟩
    · cases hfile
  · intro h
    obtain ⟨p, hp, rfl⟩ := h
    refine ⟨(p, .file (content (place p))), ?_, ?_⟩
    · rw [Disk.mem_rglob _ hresolve, mem_exampleSystem_payload, mem_filesIn_file]
      exact ⟨hp, rfl⟩
    · rw [Disk.isFile, exampleSystem_payload content place p hp]
      rfl

variable [Runtime]

/-- The entries of a bundle in which the content of `p` is where `place p` belongs. -/
def exampleEntries : List Dict :=
  (paths staticNames).map fun p => handoffEntry p.asPosix ("payload/" ++ (place p).asPosix) "handoff_contract" (content p)

def exampleReadme : RelPath := ⟨["README.md"], by decide, by decide⟩

def exampleHead : HandoffHead := ⟨"2026-01-01T00:00:00Z", "GC-C1-FC01", "GC-C1-FC01-P", "UNAVAILABLE"⟩

def exampleHandoff : Dict := (handoffManifest exampleHead (exampleEntries content place)).sortKeys

theorem mem_exampleEntries {entry : Dict} : entry ∈ (exampleEntries content place).map Dict.sortKeys ↔
    ∃ p : RelPath, p.names ∈ staticNames ∧
      entry = (handoffEntry p.asPosix ("payload/" ++ (place p).asPosix) "handoff_contract" (content p)).sortKeys := by
  rw [exampleEntries, List.map_map, List.mem_map]
  constructor
  · intro h
    obtain ⟨p, hp, rfl⟩ := h
    exact ⟨p, mem_paths.mp hp, rfl⟩
  · intro h
    obtain ⟨p, hp, rfl⟩ := h
    exact ⟨p, mem_paths.mpr hp, rfl⟩

/-- However the places are exchanged, the bundle is verified. -/
theorem verifyHandoff_example (hplace : ∀ p : RelPath, p.names ∈ staticNames → (place p).names ∈ staticNames ∧ place (place p) = p) :
    verifyHandoff (exampleSystem content place) ["/", "bundle", "handoff-manifest.json"]
      (some (exampleHandoff content place).toVal) (some ["/", "project"]) = .ok (true, "VERIFIED") := by
  have hentry := fun p : RelPath => entryOf_handoffEntry p.asPosix ("payload/" ++ (place p).asPosix) "handoff_contract" (content p)
  have hpayload : ∀ p : RelPath, entryPayload (handoffEntry p.asPosix ("payload/" ++ (place p).asPosix) "handoff_contract" (content p)).sortKeys =
      "payload/" ++ (place p).asPosix := fun p => congrArg Val.strText (hentry p).payload_path
  have hsource : ∀ p : RelPath, entrySource (handoffEntry p.asPosix ("payload/" ++ (place p).asPosix) "handoff_contract" (content p)).sortKeys =
      p.asPosix := fun p => congrArg Val.strText (hentry p).source_path
  have hnames : ∀ payload, payload ∈ ((exampleEntries content place).map Dict.sortKeys).map entryPayload ↔
      ∃ p : RelPath, p.names ∈ staticNames ∧ "payload/" ++ (place p).asPosix = payload := by
    intro payload
    rw [exampleEntries, List.map_map, List.map_map, List.mem_map]
    simp only [mem_paths, Function.comp_apply, hpayload]
  have hsources : ∀ source, source ∈ ((exampleEntries content place).map Dict.sortKeys).map entrySource ↔
      ∃ p : RelPath, p.names ∈ staticNames ∧ p.asPosix = source := by
    intro source
    rw [exampleEntries, List.map_map, List.map_map, List.mem_map]
    simp only [mem_paths, Function.comp_apply, hsource]
  have hverifiable : Verifiable (exampleSystem content place) ["/", "bundle"] ["/", "project"]
      ((exampleEntries content place).map Dict.sortKeys) (STATIC_FILES.dedup.insertionSort (· ≤ ·)) := by
    refine ⟨?_, ?_, ?_, ?_, ?_, collectSources_exampleSystem content place, ?_⟩
    · rw [exampleEntries, List.map_map, ne_eq, List.map_eq_nil_iff]
      exact List.ne_nil_of_mem (mem_paths.mpr (by decide : exampleReadme.names ∈ staticNames))
    · intro entry hmem seen hseen
      obtain ⟨p, hp, rfl⟩ := (mem_exampleEntries content place).mp hmem
      have hfound := exampleSystem_payload content place (place p) (hplace p hp).1
      rw [(hplace p hp).2] at hfound
      rw [hpayload] at hseen
      refine (hentry p).payloadObjection p.asPosix_ne_empty (by decide) (safePayloadPath_place _) hseen ?_ ?_
      · rw [joinPath_place, List.append_assoc]
        exact isParent_of_append _ (List.cons_ne_nil _ _)
      · rw [joinPath_place]
        exact hfound
    · rw [exampleEntries, List.map_map, List.map_map]
      refine (nodup_paths ((List.sublist_append_right _ _).nodup exampleNames_nodup)).map_on fun p hp q hq heq => ?_
      have hpq : place p = place q := RelPath.asPosix_inj (place_inj ((hpayload p).symm.trans (heq.trans (hpayload q))))
      rw [← (hplace p (mem_paths.mp hp)).2, hpq, (hplace q (mem_paths.mp hq)).2]
    · intro payload
      rw [actualPayloads_exampleSystem, hnames]
      constructor
      · intro h
        obtain ⟨p, hp, rfl⟩ := h
        exact ⟨place p, (hplace p hp).1, by rw [(hplace p hp).2]⟩
      · intro h
        obtain ⟨p, hp, rfl⟩ := h
        exact ⟨place p, (hplace p hp).1, rfl⟩
    · intro entry hmem
      obtain ⟨p, hp, rfl⟩ := (mem_exampleEntries content place).mp hmem
      exact (hentry p).sourceObjection (safeSourcePath_asPosix p) (Disk.isSymlink_eq_false _ (not_symlink_exampleSystem content place) _)
        (exampleSystem_source content place p hp)
    · intro source
      rw [List.mem_insertionSort, List.mem_dedup, staticFiles_eq, hsources]
  exact verifyHandoff_of_verifiable hverifiable

omit [Runtime] in
theorem file_exampleSystem {p : RelPath} {c : ByteArray} (h : (exampleSystem content place).file? p = some c) :
    ∃ q, c = content q := by
  rw [Disk.file?_eq_some, exampleSystem, List.mem_append, List.mem_cons, mem_subtree, mem_subtree] at h
  rcases h with (⟨-, heq⟩ | ⟨q, hq, -⟩) | heq | ⟨-, heq⟩ | ⟨q, hq, -⟩
  · cases heq
  · exact ⟨q, (mem_filesIn_file.mp hq).2⟩
  · cases heq
  · cases heq
  · exact ⟨place q, (mem_filesIn_file.mp hq).2⟩

/-- Where a file is not at its own place with its content, the sources are not held. -/
theorem not_holdsSources_example {p : RelPath} (hp : p.names ∈ staticNames) (hne : content (place p) ≠ content p) :
    ¬ ∃ sources, collectSources (exampleSystem content place) ["/", "project"] = .ok sources ∧
      HoldsSources (exampleSystem content place) ["/", "bundle"] ["/", "project"] sources := by
  intro h
  obtain ⟨sources, hcollected, hholds⟩ := h
  obtain rfl := Except.ok.inj ((collectSources_exampleSystem content place).symm.trans hcollected)
  have hmem : p.asPosix ∈ STATIC_FILES.dedup.insertionSort (· ≤ ·) := by
    rw [List.mem_insertionSort, List.mem_dedup, staticFiles_eq]
    exact ⟨p, hp, rfl⟩
  obtain ⟨c, hc, -, hc'⟩ := hholds.same _ hmem
  rw [exampleSystem_source content place p hp] at hc
  rw [joinPath_place, exampleSystem_payload content place p hp] at hc'
  exact hne (Option.some.inj (hc'.trans hc.symm))

end

def examplePyproject : RelPath := ⟨["pyproject.toml"], by decide, by decide⟩

theorem verifyHandoff_current_iff_example :
    letI := asciiRuntime
    (∃ sources, collectSources (exampleSystem (fun _ => ByteArray.empty) id) ["/", "project"] = .ok sources ∧
        HoldsSources (exampleSystem (fun _ => ByteArray.empty) id) ["/", "bundle"] ["/", "project"] sources) ↔
      Aligned (manifestEntries (exampleHandoff (fun _ => ByteArray.empty) id)) := by
  let := asciiRuntime
  have hplace : ∀ p : RelPath, p.names ∈ staticNames → (id p).names ∈ staticNames ∧ id (id p) = p := fun p hp => ⟨hp, rfl⟩
  refine verifyHandoff_current_iff (verifyHandoff_example (fun _ => ByteArray.empty) id hplace) ?_
  intro p q c c' hc hc' _
  obtain ⟨-, rfl⟩ := file_exampleSystem _ _ hc
  obtain ⟨-, rfl⟩ := file_exampleSystem _ _ hc'
  rfl

/-- The readme and the project file lie at each other's places. -/
def exchanged : RelPath → RelPath := Equiv.swap exampleReadme examplePyproject

/-- Only the readme has anything in it. -/
def readmeOnly (p : RelPath) : ByteArray := if p = exampleReadme then "x".toUTF8 else ByteArray.empty

/-- The bundle is verified, and the readme in it is not the current one. -/
theorem exchanged_payload_verified :
    letI := asciiRuntime
    verifyHandoff (exampleSystem readmeOnly exchanged) ["/", "bundle", "handoff-manifest.json"]
        (some (exampleHandoff readmeOnly exchanged).toVal) (some ["/", "project"]) = .ok (true, "VERIFIED") ∧
      ¬ ∃ sources, collectSources (exampleSystem readmeOnly exchanged) ["/", "project"] = .ok sources ∧
        HoldsSources (exampleSystem readmeOnly exchanged) ["/", "bundle"] ["/", "project"] sources := by
  let := asciiRuntime
  have hreadme : exampleReadme.names ∈ staticNames := by decide
  have hpyproject : examplePyproject.names ∈ staticNames := by decide
  constructor
  · refine verifyHandoff_example readmeOnly exchanged fun p hp => ⟨?_, DFunLike.congr_fun (Equiv.swap_swap _ _) p⟩
    unfold exchanged
    rw [Equiv.swap_apply_def]
    split
    · exact hpyproject
    · split
      · exact hreadme
      · exact hp
  · refine not_holdsSources_example readmeOnly exchanged hreadme ?_
    have hplace : exchanged exampleReadme = examplePyproject := Equiv.swap_apply_left _ _
    rw [hplace, readmeOnly, readmeOnly, if_pos rfl, if_neg (by decide)]
    decide

end Pmiri
