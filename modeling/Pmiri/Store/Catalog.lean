import Pmiri.Store.Records

/-!
# The catalog

What a store is for, over the records registered with it in their order. Of
each version of a source the first registration is kept, and of each
fingerprint the first content. Both stores are shown to hold a catalog.
-/

namespace Pmiri

open Py

/-- The dictionary that a canonical fingerprint is taken over. -/
def indexDict (entries : List SourceEntry) : Dict :=
  .ofItems [("format", .str "pmiri-s0"), ("version", .int 1), ("sources", .list (entries.map fun e => e.publicDict.toVal))]

namespace Catalog

/-- The entries that are kept. -/
def kept (recs : List SourceRecord) : List SourceEntry :=
  Keyed.firsts (fun e => e.versionKey) (recs.map fun r => r.toSourceEntry.stored)

/-- The content that is kept under a fingerprint. -/
def contentOf (recs : List SourceRecord) (fingerprint : String) : Option String :=
  (recs.find? fun r => decide (r.contentFingerprint = fingerprint)).map (·.content)

def withContent (recs : List SourceRecord) (e : SourceEntry) : SourceRecord :=
  { e with content := (contentOf recs e.contentFingerprint).getD "" }

/-- What `list_sources` returns. -/
def sources (recs : List SourceRecord) (project : Option String) (includeHistory : Bool) : List SourceRecord :=
  (selectVersions SourceEntry.toSourceVersion project includeHistory (kept recs)).map (withContent recs)

/-- What `canonical_fingerprint` returns. -/
def fingerprint [Runtime] (recs : List SourceRecord) : String :=
  sha256Json (indexDict (sortVersions SourceEntry.toSourceVersion (kept recs))).toVal

theorem kept_concat (recs : List SourceRecord) (r : SourceRecord) :
    kept (recs ++ [r]) = Keyed.add (fun e => e.versionKey) (kept recs) r.toSourceEntry.stored := by
  rw [kept, List.map_append, List.map_singleton, Keyed.firsts_concat]
  rfl

theorem kept_distinct (recs : List SourceRecord) : Distinct SourceEntry.toSourceVersion (kept recs) :=
  Keyed.nodup_firsts _ _

/-- A kept entry is the entry of a registered record. -/
theorem exists_of_mem_kept {recs : List SourceRecord} {e : SourceEntry} (h : e ∈ kept recs) :
    ∃ r ∈ recs, r.toSourceEntry.stored = e :=
  List.mem_map.mp (Keyed.mem_of_mem_firsts _ h)

theorem stored_of_mem_kept {recs : List SourceRecord} {e : SourceEntry} (h : e ∈ kept recs) : e.stored = e := by
  obtain ⟨r, -, rfl⟩ := exists_of_mem_kept h
  exact SourceEntry.stored_stored _

/-- Of every registered record's version an entry is kept. -/
theorem exists_mem_kept {recs : List SourceRecord} {r : SourceRecord} (h : r ∈ recs) :
    ∃ e ∈ kept recs, e.versionKey = r.versionKey := by
  have hm : r.toSourceEntry.stored ∈ recs.map fun r => r.toSourceEntry.stored := List.mem_map_of_mem h
  obtain ⟨e, he, hkey⟩ := Keyed.exists_mem_firsts (fun e : SourceEntry => e.versionKey) hm
  exact ⟨e, he, hkey⟩

theorem contentOf_concat (recs : List SourceRecord) (r : SourceRecord) (fingerprint : String) :
    contentOf (recs ++ [r]) fingerprint =
      (contentOf recs fingerprint).or (if r.contentFingerprint = fingerprint then some r.content else none) := by
  rw [contentOf, List.find?_append, contentOf]
  cases recs.find? fun r => decide (r.contentFingerprint = fingerprint) with
  | some r' => rfl
  | none =>
    rw [Option.none_or, Option.map_none, Option.none_or]
    split <;> rename_i h
    · rw [List.find?_cons_of_pos (by simpa using h), Option.map_some]
    · rw [List.find?_cons_of_neg (by simpa using h), List.find?_nil, Option.map_none]

theorem contentOf_isSome {recs : List SourceRecord} {r : SourceRecord} (h : r ∈ recs) :
    (contentOf recs r.contentFingerprint).isSome = true := by
  rw [contentOf, Option.isSome_map, List.find?_isSome]
  exact ⟨r, h, decide_eq_true rfl⟩

theorem exists_of_contentOf {recs : List SourceRecord} {fingerprint content : String}
    (h : contentOf recs fingerprint = some content) : ∃ r ∈ recs, r.contentFingerprint = fingerprint ∧ r.content = content := by
  obtain ⟨r, hr, rfl⟩ := Option.map_eq_some_iff.mp h
  exact ⟨r, List.mem_of_find?_eq_some hr, by simpa using List.find?_some hr, rfl⟩

theorem exists_contentOf {recs : List SourceRecord} {e : SourceEntry} (h : e ∈ kept recs) :
    ∃ content, contentOf recs e.contentFingerprint = some content := by
  obtain ⟨r, hr, rfl⟩ := exists_of_mem_kept h
  exact Option.isSome_iff_exists.mp (contentOf_isSome hr)

@[simp] theorem sources_nil (project : Option String) (includeHistory : Bool) : sources [] project includeHistory = [] := by
  cases includeHistory <;> rfl

/-! ## Registrations in any order -/

/-- Registrations of one version agree on what is kept of it, and
registrations of one fingerprint on the content. -/
structure Agree (recs : List SourceRecord) : Prop where
  version : ∀ a ∈ recs, ∀ b ∈ recs, a.versionKey = b.versionKey → a.toSourceEntry.stored = b.toSourceEntry.stored
  content : ∀ a ∈ recs, ∀ b ∈ recs, a.contentFingerprint = b.contentFingerprint → a.content = b.content

theorem Agree.perm {recs recs' : List SourceRecord} (h : Agree recs) (hp : recs.Perm recs') : Agree recs' :=
  ⟨fun a ha b hb => h.version a (hp.mem_iff.mpr ha) b (hp.mem_iff.mpr hb),
    fun a ha b hb => h.content a (hp.mem_iff.mpr ha) b (hp.mem_iff.mpr hb)⟩

theorem kept_perm {recs recs' : List SourceRecord} (h : Agree recs) (hp : recs.Perm recs') : (kept recs).Perm (kept recs') := by
  refine Keyed.firsts_perm _ (fun a ha b hb e => ?_) (hp.map _)
  obtain ⟨r, hr, rfl⟩ := List.mem_map.mp ha
  obtain ⟨r', hr', rfl⟩ := List.mem_map.mp hb
  exact h.version r hr r' hr' e

theorem contentOf_of_mem {recs : List SourceRecord} (h : Agree recs) {r : SourceRecord} (hr : r ∈ recs) :
    contentOf recs r.contentFingerprint = some r.content := by
  obtain ⟨content, hc⟩ := Option.isSome_iff_exists.mp (contentOf_isSome hr)
  obtain ⟨r', hr', hf, rfl⟩ := exists_of_contentOf hc
  rw [hc, h.content r' hr' r hr hf]

theorem contentOf_perm {recs recs' : List SourceRecord} (h : Agree recs) (hp : recs.Perm recs') (fingerprint : String) :
    contentOf recs fingerprint = contentOf recs' fingerprint := by
  by_cases hf : ∃ r ∈ recs, r.contentFingerprint = fingerprint
  · obtain ⟨r, hr, rfl⟩ := hf
    rw [contentOf_of_mem h hr, contentOf_of_mem (h.perm hp) (hp.mem_iff.mp hr)]
  · have hnone : ∀ {l : List SourceRecord}, (∀ r ∈ l, r ∈ recs) → contentOf l fingerprint = none := by
      intro l hl
      rw [contentOf, Option.map_eq_none_iff, List.find?_eq_none]
      exact fun r hr e => hf ⟨r, hl r hr, of_decide_eq_true e⟩
    rw [hnone fun _ hr => hr, hnone fun _ hr => hp.mem_iff.mpr hr]

/-- Where the registrations agree, their order does not matter. -/
theorem sources_perm {recs recs' : List SourceRecord} (h : Agree recs) (hp : recs.Perm recs') (project : Option String)
    (includeHistory : Bool) : sources recs project includeHistory = sources recs' project includeHistory := by
  rw [sources, sources, selectVersions_perm (kept_distinct recs) (kept_perm h hp)]
  exact List.map_congr_left fun e _ => by rw [withContent, withContent, contentOf_perm h hp]

theorem fingerprint_perm [Runtime] {recs recs' : List SourceRecord} (h : Agree recs) (hp : recs.Perm recs') :
    fingerprint recs = fingerprint recs' := by
  rw [fingerprint, fingerprint, sortVersions_eq_of_perm (kept_distinct recs) (kept_perm h hp)]

/-- The first registration of a version is listed with its history. -/
theorem mem_sources_cons (r : SourceRecord) (recs : List SourceRecord) :
    { r with toSourceEntry := r.toSourceEntry.stored } ∈ sources (r :: recs) none true := by
  have hkept : r.toSourceEntry.stored ∈ kept (r :: recs) := by
    rw [kept, Keyed.mem_firsts, List.map_cons, List.find?_cons_of_pos (by simp)]
  have hcontent : contentOf (r :: recs) r.contentFingerprint = some r.content := by
    rw [contentOf, List.find?_cons_of_pos (by simp), Option.map_some]
  refine List.mem_map.mpr ⟨_, mem_selectVersions_history.mpr ⟨hkept, rfl⟩, ?_⟩
  simp [withContent, SourceEntry.stored, hcontent]

/-- One entry of each version is listed, and one content of each fingerprint. -/
theorem sources_unique {recs : List SourceRecord} {project : Option String} {includeHistory : Bool} {a b : SourceRecord}
    (ha : a ∈ sources recs project includeHistory) (hb : b ∈ sources recs project includeHistory) :
    (a.versionKey = b.versionKey → a.toSourceEntry = b.toSourceEntry) ∧
      (a.contentFingerprint = b.contentFingerprint → a.content = b.content) := by
  obtain ⟨e, he, rfl⟩ := List.mem_map.mp ha
  obtain ⟨e', he', rfl⟩ := List.mem_map.mp hb
  refine ⟨fun h => ?_, fun h => ?_⟩
  · exact (kept_distinct recs).inj (mem_of_mem_selectVersions he) (mem_of_mem_selectVersions he') h
  · simp only [withContent] at h ⊢
    rw [h]

end Catalog

end Pmiri
