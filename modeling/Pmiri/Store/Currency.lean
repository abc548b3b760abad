import Pmiri.Store.Sqlite
import Pmiri.Python.Sha256

/-!
# The current version of a source

Which version of a source a store lists without history, in terms of the
registrations: a content that was registered before keeps the capture time of
its first registration, and the newest of these times wins, compared as texts.
-/

namespace Pmiri

open Py

namespace Catalog

/-- The first registration of each version. -/
def firstRegistrations (recs : List SourceRecord) : List SourceRecord := Keyed.firsts (fun r => r.versionKey) recs

/-- The first registration of the record's version has the newest capture time
(or, for one time, the greatest version) among the first registrations of the
versions of its source. -/
def FirstIsNewest (recs : List SourceRecord) (project : Option String) (r : SourceRecord) : Prop :=
  ∃ d ∈ firstRegistrations recs, d.versionKey = r.versionKey ∧ d.inProject project = true ∧
    ∀ x ∈ firstRegistrations recs, x.inProject project = true → x.sourceId = r.sourceId → x.currencyKey ≤ d.currencyKey

/-- The records show the content of `r` for its source. -/
def Shows (records : List SourceRecord) (r : SourceRecord) : Prop :=
  ∃ x ∈ records, x.sourceId = r.sourceId ∧ x.contentFingerprint = r.contentFingerprint

theorem kept_eq_map (recs : List SourceRecord) : kept recs = (firstRegistrations recs).map fun r => r.toSourceEntry.stored :=
  (Keyed.map_firsts (fun r : SourceRecord => r.toSourceEntry.stored) (fun _ => rfl) recs).symm

theorem mem_of_mem_firstRegistrations {recs : List SourceRecord} {r : SourceRecord} (h : r ∈ firstRegistrations recs) :
    r ∈ recs := Keyed.mem_of_mem_firsts _ h

section

variable [Runtime]

/-- The two parts of a version key, for derived records. -/
theorem versionKey_eq_iff {a b : SourceRecord} (ha : a.Derived) (hb : b.Derived) :
    a.versionKey = b.versionKey ↔ a.sourceId = b.sourceId ∧ a.contentFingerprint = b.contentFingerprint := by
  simp only [SourceVersion.versionKey, Prod.mk.injEq]
  refine and_congr_right fun _ => ⟨ha.fingerprint_eq hb, fun h => ?_⟩
  rw [ha.version, hb.version, h]

/-- A registered content is shown exactly if its first registration is the
newest. -/
theorem shows_sources_iff {recs : List SourceRecord} (hd : ∀ r ∈ recs, r.Derived) {r : SourceRecord} (hr : r ∈ recs)
    (project : Option String) : Shows (sources recs project false) r ↔ FirstIsNewest recs project r := by
  have hmem : ∀ {d}, d ∈ firstRegistrations recs →
      (d.toSourceEntry.stored ∈ selectVersions SourceEntry.toSourceVersion project false (kept recs) ↔
        d.inProject project = true ∧ ∀ x ∈ firstRegistrations recs, x.inProject project = true →
          x.sourceId = d.sourceId → x.currencyKey ≤ d.currencyKey) := by
    intro d hdf
    have hkept : d.toSourceEntry.stored ∈ kept recs := kept_eq_map recs ▸ List.mem_map_of_mem hdf
    have hall : (∀ y ∈ kept recs, y.inProject project = true → y.sourceId = d.sourceId → y.currencyKey ≤ d.currencyKey) ↔
        ∀ x ∈ firstRegistrations recs, x.inProject project = true → x.sourceId = d.sourceId →
          x.currencyKey ≤ d.currencyKey := by
      rw [kept_eq_map, List.forall_mem_map]
      rfl
    rw [mem_selectVersions (kept_distinct recs)]
    exact ⟨fun h => ⟨h.1.2, hall.mp h.2⟩, fun h => ⟨⟨hkept, h.1⟩, hall.mpr h.2⟩⟩
  constructor
  · rintro ⟨x, hx, hsource, hfingerprint⟩
    obtain ⟨e, he, rfl⟩ := List.mem_map.mp hx
    obtain ⟨d, hdf, rfl⟩ := List.mem_map.mp (kept_eq_map recs ▸ mem_of_mem_selectVersions he)
    obtain ⟨hproject, hmax⟩ := (hmem hdf).mp he
    have hkey := (versionKey_eq_iff (hd d (mem_of_mem_firstRegistrations hdf)) (hd r hr)).mpr ⟨hsource, hfingerprint⟩
    exact ⟨d, hdf, hkey, hproject, fun y hy hyp hys => hmax y hy hyp (hys.trans hsource.symm)⟩
  · rintro ⟨d, hdf, hkey, hproject, hmax⟩
    obtain ⟨hsource, hfingerprint⟩ := (versionKey_eq_iff (hd d (mem_of_mem_firstRegistrations hdf)) (hd r hr)).mp hkey
    refine ⟨withContent recs d.toSourceEntry.stored, List.mem_map_of_mem ((hmem hdf).mpr ⟨hproject, ?_⟩), hsource, hfingerprint⟩
    exact fun y hy hyp hys => hmax y hy hyp (hys.trans hsource)

end

end Catalog

/-! ## Both stores -/

section

variable [Runtime]

namespace LocalStore

/-- The store after some calls on an empty directory. -/
def after (calls : List RegisterCall) : LocalStore := Machine.run step {} calls

theorem holds_after (calls : List RegisterCall) : (after calls).Holds (accepted calls) := by
  have h := holds_fresh.run calls
  rwa [List.nil_append] at h

end LocalStore

namespace SQLiteStore

/-- The store after some calls on an empty directory. -/
def after (cipher : Option BlobCipher) (calls : List RegisterCall) : SQLiteStore :=
  Machine.run step { blobCipher := cipher } calls

theorem holds_after (cipher : Option BlobCipher) (calls : List RegisterCall) :
    (after cipher calls).Holds (accepted cipher calls) := by
  have h := ((holds_fresh cipher).run calls).1
  rwa [List.nil_append] at h

end SQLiteStore

/-! ## A content that comes back -/

/-- One source, with a content and a capture time. -/
def exampleRegistration (content captureTime : String) : RegisterCall where
  projectId := "project"
  sourceName := "notes.md"
  raw := content.toUTF8
  captureTime := some captureTime

theorem exampleCall_checked {content : String} (h : '\r' ∉ content.toList) (captureTime : String) :
    (exampleRegistration content captureTime).checked = .ok ((exampleRegistration content captureTime).record content) := by
  have hvalid : identityValid .posix "project" "notes.md" = true := by decide
  refine RegisterCall.checked_ok.mpr ⟨hvalid, content, ?_, rfl⟩
  simp only [exampleRegistration, normalizeText, fromUTF8?_toUTF8, unifyFrom_of_not_mem h, String.ofList_toList]

/-- The records of a source that has the contents `"A"`, `"B"` and `"A"`. -/
def exampleReturn : List SourceRecord := [
  (exampleRegistration "A" "2026-01-01T00:00:00Z").record "A", (exampleRegistration "B" "2026-01-02T00:00:00Z").record "B",
  (exampleRegistration "A" "2026-01-03T00:00:00Z").record "A"]

def exampleReturnCalls : List RegisterCall := [
  exampleRegistration "A" "2026-01-01T00:00:00Z", exampleRegistration "B" "2026-01-02T00:00:00Z", exampleRegistration "A" "2026-01-03T00:00:00Z"]

theorem exampleReturn_accepted : LocalStore.accepted exampleReturnCalls = exampleReturn := by
  simp only [LocalStore.accepted, exampleReturnCalls, List.filterMap_cons, List.filterMap_nil,
    exampleCall_checked (show '\r' ∉ "A".toList by decide), exampleCall_checked (show '\r' ∉ "B".toList by decide),
    Except.toOption, exampleReturn]

theorem exampleReturn_accepted_sqlite : SQLiteStore.accepted none exampleReturnCalls = exampleReturn := by
  have hstrings : isStringMap Dict.empty = true := rfl
  simp only [SQLiteStore.accepted, exampleReturnCalls, List.filterMap_cons, List.filterMap_nil, SQLiteStore.outcome,
    exampleCall_checked (show '\r' ∉ "A".toList by decide), exampleCall_checked (show '\r' ∉ "B".toList by decide),
    ok_bind, encrypted, exampleReturn]
  simp only [exampleRegistration, RegisterCall.record, Option.getD_none, hstrings, Bool.not_true, raiseIf, Bool.false_eq_true,
    ↓reduceIte, ok_bind, pure, Except.pure, Except.toOption]

/-- The content that came back is not the newest, unless the two contents have
one fingerprint. -/
theorem exampleReturn_not_newest (hne : sha256Bytes "A".toUTF8 ≠ sha256Bytes "B".toUTF8) :
    ¬ Catalog.FirstIsNewest exampleReturn none ((exampleRegistration "A" "2026-01-03T00:00:00Z").record "A") := by
  rintro ⟨d, hd, hkey, -, hmax⟩
  have hfirst : (exampleRegistration "A" "2026-01-01T00:00:00Z").record "A" ∈ Catalog.firstRegistrations exampleReturn := by
    rw [Catalog.firstRegistrations, Keyed.mem_firsts, exampleReturn, List.find?_cons_of_pos (by simp)]
  have hother : (exampleRegistration "B" "2026-01-02T00:00:00Z").record "B" ∈ Catalog.firstRegistrations exampleReturn := by
    have hkeys : ¬ ((exampleRegistration "A" "2026-01-01T00:00:00Z").record "A").versionKey =
        ((exampleRegistration "B" "2026-01-02T00:00:00Z").record "B").versionKey := fun h =>
      hne (String.append_right_inj "ver_" |>.mp (congrArg Prod.snd h))
    rw [Catalog.firstRegistrations, Keyed.mem_firsts, exampleReturn, List.find?_cons_of_neg (by simpa using hkeys),
      List.find?_cons_of_pos (by simp)]
  obtain rfl := Keyed.firsts_inj (fun r : SourceRecord => r.versionKey) hd hfirst hkey
  have hlt : "2026-01-01T00:00:00Z" < "2026-01-02T00:00:00Z" := by
    rw [String.lt_iff_toList_lt]
    decide
  exact not_le.mpr (List.Lex.rel hlt) (hmax _ hother rfl rfl)

/-! ## What is listed -/

/-- In every run of registrations on a local store and on a SQLite store, the
listing without history shows an accepted content for its source exactly if
the first registration of that content is the newest of its source. -/
theorem shows_registered_iff (calls : List RegisterCall) (project : Option String) :
    (∀ r ∈ LocalStore.accepted calls, ∃ records, (LocalStore.after calls).listSources project false = .ok records ∧
      (Catalog.Shows records r ↔ Catalog.FirstIsNewest (LocalStore.accepted calls) project r)) ∧
    ∀ cipher, ∀ r ∈ SQLiteStore.accepted cipher calls, ∃ records,
      (SQLiteStore.after cipher calls).listSources project false = .ok records ∧
        (Catalog.Shows records r ↔ Catalog.FirstIsNewest (SQLiteStore.accepted cipher calls) project r) := by
  constructor
  · intro r hr
    have h := LocalStore.holds_after calls
    exact ⟨_, h.listSources project false, Catalog.shows_sources_iff h.derived hr project⟩
  · intro cipher r hr
    have h := SQLiteStore.holds_after cipher calls
    exact ⟨_, h.listSources (h.readable (List.ne_nil_of_mem hr)) project false, Catalog.shows_sources_iff h.derived hr project⟩

end

theorem shows_registered_iff_example :
    letI := asciiRuntime
    let r := (exampleRegistration "A" "2026-01-03T00:00:00Z").record "A"
    (∃ records, (LocalStore.after exampleReturnCalls).listSources none false = .ok records ∧
      (Catalog.Shows records r ↔ Catalog.FirstIsNewest (LocalStore.accepted exampleReturnCalls) none r)) ∧
    ∃ records, (SQLiteStore.after none exampleReturnCalls).listSources none false = .ok records ∧
      (Catalog.Shows records r ↔ Catalog.FirstIsNewest (SQLiteStore.accepted none exampleReturnCalls) none r) := by
  let := asciiRuntime
  have hr : (exampleRegistration "A" "2026-01-03T00:00:00Z").record "A" ∈ exampleReturn := by simp [exampleReturn]
  have h := shows_registered_iff exampleReturnCalls none
  exact ⟨h.1 _ (exampleReturn_accepted ▸ hr), h.2 none _ (exampleReturn_accepted_sqlite ▸ hr)⟩

/-- Registering a content a second time, later than everything else, does not
make it current. -/
theorem returned_content_not_shown :
    letI := asciiRuntime
    ∃ records, (LocalStore.after exampleReturnCalls).listSources none false = .ok records ∧
      (exampleRegistration "A" "2026-01-03T00:00:00Z").checked = .ok ((exampleRegistration "A" "2026-01-03T00:00:00Z").record "A") ∧
      ¬ Catalog.Shows records ((exampleRegistration "A" "2026-01-03T00:00:00Z").record "A") := by
  let := asciiRuntime
  have hne : sha256Bytes "A".toUTF8 ≠ sha256Bytes "B".toUTF8 := by decide +kernel
  have h := LocalStore.holds_after exampleReturnCalls
  rw [exampleReturn_accepted] at h
  refine ⟨_, h.listSources none false, exampleCall_checked (by decide) _, ?_⟩
  rw [Catalog.shows_sources_iff h.derived (by simp [exampleReturn])]
  exact exampleReturn_not_newest hne

end Pmiri
