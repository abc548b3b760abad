import Pmiri.Store.Equivalence
import Pmiri.Python.Comprehension

/-!
# Migration

`store.py`: `migrate_from_local_store` registers every record of a local store
anew. Each registration validates and normalizes again what the local store
has normalized already, and the database is there from before the first.
-/

namespace Pmiri

open Py

structure MigrationReport where
  status : String := "MIGRATED"
  sourceCount : Nat
  sourceFingerprint : String
  targetFingerprint : String

/-- The registration of a listed record. -/
def migrationCall (platform : Platform) (utcNow : { t : String // t ≠ "" }) (r : SourceRecord) : RegisterCall where
  platform := platform
  projectId := r.projectId
  sourceName := r.sourceName
  raw := r.content.toUTF8
  captureTime := some r.captureTime
  metadata := some r.metadata
  utcNow := utcNow

section

variable [Runtime]

namespace SQLiteStore

/-- `for record in records: self.register_bytes(…)` -/
def registerAll (s : SQLiteStore) : List RegisterCall → Except Exc Unit × SQLiteStore
  | [] => (.ok (), s)
  | c :: calls =>
    match s.registerBytes c with
    | (.error e, s) => (.error e, s)
    | (.ok _, s) => registerAll s calls

/-- What `migrate_from_local_store` reads of its source. -/
def readSource (source : LocalStore) : Except Exc (String × List SourceRecord) := do
  let fingerprint ← source.canonicalFingerprint
  let records ← source.listSources none true
  return (fingerprint, records)

def migrateFromLocalStore (s : SQLiteStore) (platform : Platform) (utcNow : { t : String // t ≠ "" }) (source : LocalStore) :
    Except Exc MigrationReport × SQLiteStore :=
  match s.database with
  | .absent =>
    match readSource source with
    | .error e => (.error e, s)
    | .ok (sourceFingerprint, records) =>
      match s.initialized with
      | (.error e, s) => (.error e, s)
      | (.ok (), s) =>
        match s.registerAll (records.map (migrationCall platform utcNow)) with
        | (.error e, s) => (.error e, s)
        | (.ok (), s) =>
          match s.canonicalFingerprint with
          | .error e => (.error e, s)
          | .ok targetFingerprint =>
            (.ok { sourceCount := records.length, sourceFingerprint, targetFingerprint }, s)
  | _ => (.error (valueError "migration_target_exists"), s)

/-! ## The loop -/

theorem registerAll_ok {calls : List RegisterCall} {rs : List SourceRecord} {s : SQLiteStore} {recs : List SourceRecord}
    (h : s.Holds recs) (hc : List.Forall₂ (fun c r => outcome s.blobCipher c = .ok r) calls rs) :
    ∃ s', s.registerAll calls = (.ok (), s') ∧ s'.Holds (recs ++ rs) ∧ (s.Readable → s'.Readable) := by
  induction calls generalizing s recs rs with
  | nil =>
    cases hc
    exact ⟨s, rfl, by rwa [List.append_nil], id⟩
  | cons c calls ih =>
    cases hc with
    | cons hr hc =>
      rename_i r rs
      obtain ⟨hfst, hholds, hcipher, -⟩ := h.register hr
      obtain ⟨s', hs', hh, -⟩ := ih hholds (hcipher ▸ hc)
      refine ⟨s', ?_, by rwa [List.append_cons], fun _ => hh.readable (by simp)⟩
      rw [registerAll, ← hs']
      have : s.registerBytes c = (.ok r, s.step c) := Prod.ext hfst rfl
      rw [this]

/-- A call that raises ends the loop, over the tables as they are. -/
theorem registerAll_error {calls : List RegisterCall} {s : SQLiteStore} {recs : List SourceRecord} (h : s.Holds recs)
    (ht : ∃ blobs rows, s.database = .tables blobs rows) {c : RegisterCall} (hmem : c ∈ calls) {e : Exc}
    (hc : outcome s.blobCipher c = .error e) :
    ∃ e' s', s.registerAll calls = (.error e', s') ∧ s'.database ≠ .absent := by
  induction calls generalizing s recs with
  | nil => cases hmem
  | cons c' calls ih =>
    rcases hr : outcome s.blobCipher c' with e' | r
    · obtain ⟨blobs, rows, ht⟩ := ht
      rcases h.register_error hr with hreg | ⟨hreg, -⟩
      · exact ⟨e', s, by rw [registerAll, hreg], by rw [ht]; exact Database.noConfusion⟩
      · exact ⟨e', _, by rw [registerAll, hreg], by simp only [ht, Database.connected]; exact Database.noConfusion⟩
    · obtain ⟨hfst, hholds, hcipher, htables⟩ := h.register hr
      have hmem' : c ∈ calls := by
        rcases List.mem_cons.mp hmem with rfl | hmem
        · rw [hc] at hr
          cases hr
        · exact hmem
      obtain ⟨e', s', hs', hd⟩ := ih hholds htables hmem' (hcipher ▸ hc)
      refine ⟨e', s', ?_, hd⟩
      have : s.registerBytes c' = (.ok r, s.step c') := Prod.ext hfst rfl
      rw [registerAll, this]
      exact hs'

end SQLiteStore

/-! ## What can be migrated -/

/-- A record that can be registered again: its name is valid as it stands, its
metadata are strings, and its content can be encrypted. -/
structure Migratable (platform : Platform) (cipher : Option BlobCipher) (r : SourceRecord) : Prop where
  identity : identityValid platform r.projectId r.sourceName = true
  strings : isStringMap r.metadata = true
  encrypts : ∃ content stored, normalizeText r.content.toUTF8 = .ok content ∧
    encrypted cipher (sha256Bytes content.toUTF8) content.toUTF8 = .ok stored

/-- Every record that the source lists, if it lists them, can be registered again. -/
def AllMigratable (platform : Platform) (cipher : Option BlobCipher) (source : LocalStore) : Prop :=
  ∀ records, source.listSources none true = .ok records → ∀ r ∈ records, Migratable platform cipher r

theorem outcome_migrationCall (platform : Platform) (cipher : Option BlobCipher) (utcNow : { t : String // t ≠ "" })
    (r : SourceRecord) :
    (∃ r', SQLiteStore.outcome cipher (migrationCall platform utcNow r) = .ok r') ↔ Migratable platform cipher r := by
  constructor
  · rintro ⟨r', h⟩
    obtain ⟨x, hx, h⟩ := bind_ok.mp h
    obtain ⟨hstrings, h⟩ := seq_ok.mp h
    obtain ⟨stored, hstored, -⟩ := bind_ok.mp h
    obtain ⟨hidentity, content, hcontent, rfl⟩ := RegisterCall.checked_ok.mp hx
    exact ⟨hidentity, by rwa [raiseIf_ok, Bool.not_eq_false'] at hstrings, content, stored, hcontent, hstored⟩
  · rintro ⟨hidentity, hstrings, content, stored, hcontent, hstored⟩
    refine ⟨(migrationCall platform utcNow r).record content, bind_ok.mpr ⟨_, RegisterCall.checked_ok.mpr
      ⟨hidentity, content, hcontent, rfl⟩, seq_ok.mpr ⟨?_, bind_ok.mpr ⟨stored, hstored, rfl⟩⟩⟩⟩
    rw [raiseIf_ok, Bool.not_eq_false']
    exact hstrings

/-- A derived record is registered as it is. -/
theorem outcome_of_derived {platform : Platform} {cipher : Option BlobCipher} {utcNow : { t : String // t ≠ "" }}
    {r : SourceRecord} (hd : r.Derived) (hm : Migratable platform cipher r) :
    SQLiteStore.outcome cipher (migrationCall platform utcNow r) = .ok r := by
  have hrecord : (migrationCall platform utcNow r).record r.content = r := by
    obtain ⟨⟨⟨sourceId, versionId, projectId, sourceName, contentFingerprint, captureTime⟩, metadata⟩, content⟩ := r
    obtain ⟨hsource, hversion, hfingerprint, -, hcaptured, hname⟩ := hd
    simp only at hsource hversion hfingerprint hcaptured hname
    simp only [RegisterCall.record, migrationCall, hname, ← hfingerprint, ← hsource, ← hversion, hcaptured, ↓reduceIte,
      Option.getD_some]
  obtain ⟨r', h⟩ := (outcome_migrationCall platform cipher utcNow r).mpr hm
  obtain ⟨x, hx, h'⟩ := bind_ok.mp h
  obtain ⟨-, h'⟩ := seq_ok.mp h'
  obtain ⟨-, -, h'⟩ := bind_ok.mp h'
  obtain rfl : x = r' := Except.ok.inj h'
  obtain ⟨-, content, hcontent, rfl⟩ := RegisterCall.checked_ok.mp hx
  obtain rfl : r.content = content := Except.ok.inj (hd.text.symm.trans hcontent)
  rw [h, hrecord]

namespace Catalog

/-- What a catalog lists is derived as what was registered is. -/
theorem derived_of_mem_sources {recs : List SourceRecord} (hd : ∀ r ∈ recs, r.Derived) {project : Option String}
    {includeHistory : Bool} {r : SourceRecord} (h : r ∈ sources recs project includeHistory) : r.Derived := by
  obtain ⟨e, he, rfl⟩ := List.mem_map.mp h
  have he := mem_of_mem_selectVersions he
  obtain ⟨r, hr, rfl⟩ := exists_of_mem_kept he
  obtain ⟨content, hcontent⟩ := exists_contentOf he
  obtain ⟨hfingerprint, htext⟩ := LocalStore.fingerprint_of_contentOf hd hcontent
  have hr := hd r hr
  refine ⟨hr.source, hr.version, ?_, ?_, hr.captured, hr.name⟩ <;> simp only [withContent, hcontent, Option.getD_some]
  · exact hfingerprint.symm
  · exact htext

/-- A catalog and the catalog of what it lists have one fingerprint. -/
theorem fingerprint_sources (recs : List SourceRecord) : fingerprint (sources recs none true) = fingerprint recs := by
  have hstored : ∀ e ∈ sortVersions SourceEntry.toSourceVersion (kept recs), (withContent recs e).toSourceEntry.stored = e :=
    fun e he => stored_of_mem_kept ((Keyed.mem_sortBy _).mp he)
  have hkept : kept (sources recs none true) = sortVersions SourceEntry.toSourceVersion (kept recs) := by
    rw [kept, sources, selectVersions_all, List.map_map]
    simp only [Function.comp_def]
    rw [List.map_congr_left hstored, List.map_id']
    exact Keyed.firsts_of_nodup _ ((kept_distinct recs).perm (Keyed.sortBy_perm _ _).symm)
  rw [fingerprint, hkept, sortVersions_sortVersions]
  rfl

end Catalog

/-! ## Migrations -/

/-- A new database of a store with this cipher. -/
def newStore (cipher : Option BlobCipher) : SQLiteStore := { blobCipher := cipher }

theorem initialized_newStore (cipher : Option BlobCipher) :
    (newStore cipher).initialized = (.ok (), ⟨.tables [] [], cipher⟩) := rfl

theorem holds_initialized (cipher : Option BlobCipher) : SQLiteStore.Holds ⟨.tables [] [], cipher⟩ [] :=
  ⟨by simp, by simp, .inr ⟨[], rfl, SQLiteStore.blobsHold_nil _⟩⟩

section

variable {platform : Platform} {cipher : Option BlobCipher} {utcNow : { t : String // t ≠ "" }} {source : LocalStore}

/-- A source that lists its records can be read. -/
theorem readSource_of_listSources {records : List SourceRecord} (h : source.listSources none true = .ok records) :
    ∃ f, source.canonicalFingerprint = .ok f ∧ SQLiteStore.readSource source = .ok (f, records) := by
  obtain ⟨entries, he, -⟩ := bind_ok.mp h
  have hf : source.canonicalFingerprint = .ok (sha256Json (indexDict entries).toVal) := bind_ok.mpr ⟨entries, he, rfl⟩
  exact ⟨_, hf, bind_ok.mpr ⟨_, hf, bind_ok.mpr ⟨records, h, rfl⟩⟩⟩

/-- If everything that is listed can be registered again, the migration
reports the fingerprint of the catalog of the new records. -/
theorem migrate_ok {records : List SourceRecord} {f : String} (hf : source.canonicalFingerprint = .ok f)
    (hr : source.listSources none true = .ok records) {rs : List SourceRecord}
    (h : List.Forall₂ (fun r r' => SQLiteStore.outcome cipher (migrationCall platform utcNow r) = .ok r') records rs) :
    ((newStore cipher).migrateFromLocalStore platform utcNow source).1 = .ok {
      sourceCount := records.length, sourceFingerprint := f, targetFingerprint := Catalog.fingerprint rs } := by
  have hread : SQLiteStore.readSource source = .ok (f, records) := bind_ok.mpr ⟨f, hf, bind_ok.mpr ⟨records, hr, rfl⟩⟩
  obtain ⟨s', hs', hholds, hreadable⟩ := SQLiteStore.registerAll_ok (holds_initialized cipher)
    (List.forall₂_map_left_iff.mpr h)
  have hfingerprint := hholds.canonicalFingerprint (hreadable Database.noConfusion)
  rw [List.nil_append] at hfingerprint
  simp only [SQLiteStore.migrateFromLocalStore, newStore, hread]
  have hinit : (SQLiteStore.initialized { blobCipher := cipher }) = (.ok (), ⟨.tables [] [], cipher⟩) := rfl
  simp only [hinit, hs', hfingerprint]

/-- If something that is listed cannot be registered again, the migration
raises and leaves a database. -/
theorem migrate_error (utcNow : { t : String // t ≠ "" }) {records : List SourceRecord} (hr : source.listSources none true = .ok records) {r : SourceRecord}
    (hmem : r ∈ records) (hm : ¬ Migratable platform cipher r) :
    ∃ e s', (newStore cipher).migrateFromLocalStore platform utcNow source = (.error e, s') ∧ s'.database ≠ .absent := by
  obtain ⟨f, -, hread⟩ := readSource_of_listSources hr
  obtain ⟨e, he⟩ : ∃ e, SQLiteStore.outcome cipher (migrationCall platform utcNow r) = .error e := by
    rcases ho : SQLiteStore.outcome cipher (migrationCall platform utcNow r) with e | r'
    · exact ⟨e, rfl⟩
    · exact absurd ((outcome_migrationCall platform cipher utcNow r).mp ⟨r', ho⟩) hm
  obtain ⟨e', s', hs', hd⟩ := SQLiteStore.registerAll_error (holds_initialized cipher) ⟨_, _, rfl⟩
    (List.mem_map_of_mem hmem) he
  refine ⟨e', s', ?_, hd⟩
  have hinit : (SQLiteStore.initialized { blobCipher := cipher }) = (.ok (), ⟨.tables [] [], cipher⟩) := rfl
  simp only [SQLiteStore.migrateFromLocalStore, newStore, hread, hinit, hs']

/-- The records that a migration reads of a local store that holds a catalog. -/
theorem migrates_iff {recs : List SourceRecord} (h : source.Holds recs) :
    (∃ report, ((newStore cipher).migrateFromLocalStore platform utcNow source).1 = .ok report ∧
      report.targetFingerprint = report.sourceFingerprint) ↔ AllMigratable platform cipher source := by
  have hlist := h.listSources none true
  constructor
  · rintro ⟨report, hok, -⟩ records hr r hmem
    by_contra hm
    obtain ⟨e, s', he, -⟩ := migrate_error utcNow hr hmem hm
    rw [he] at hok
    cases hok
  · intro hall
    have houtcome : List.Forall₂ (fun r r' => SQLiteStore.outcome cipher (migrationCall platform utcNow r) = .ok r')
        (Catalog.sources recs none true) (Catalog.sources recs none true) := by
      refine List.forall₂_same.mpr fun r hr => ?_
      exact outcome_of_derived (Catalog.derived_of_mem_sources h.derived hr) (hall _ hlist r hr)
    refine ⟨_, migrate_ok h.canonicalFingerprint hlist houtcome, ?_⟩
    exact Catalog.fingerprint_sources recs

end

/-- What was registered on Windows with string metadata can be registered
again on Windows. -/
theorem allMigratable_windows {cipher : Option BlobCipher} (hc : NeverFails cipher) {calls : List RegisterCall}
    (hm : ∀ c ∈ calls, c.StringMetadata) (hp : ∀ c ∈ calls, c.platform = .windows) :
    AllMigratable .windows cipher (LocalStore.after calls) := by
  intro records hr r hmem
  have h := LocalStore.holds_after calls
  obtain rfl : Catalog.sources _ none true = records := Except.ok.inj ((h.listSources none true).symm.trans hr)
  have hd := Catalog.derived_of_mem_sources h.derived hmem
  obtain ⟨stored, hstored⟩ := hc (sha256Bytes r.content.toUTF8) r.content.toUTF8
  have hencrypts : ∃ content stored, normalizeText r.content.toUTF8 = .ok content ∧
      encrypted cipher (sha256Bytes content.toUTF8) content.toUTF8 = .ok stored := ⟨_, stored, hd.text, hstored⟩
  obtain ⟨e, he, rfl⟩ := List.mem_map.mp hmem
  obtain ⟨x, hx, rfl⟩ := Catalog.exists_of_mem_kept (mem_of_mem_selectVersions he)
  obtain ⟨c, hcall, hx⟩ := List.mem_filterMap.mp hx
  rcases hchecked : c.checked with _ | y
  · rw [hchecked] at hx
    cases hx
  obtain rfl : y = x := by simpa [hchecked, Except.toOption] using hx
  obtain ⟨hidentity, content, -, rfl⟩ := RegisterCall.checked_ok.mp hchecked
  rw [hp c hcall] at hidentity
  exact ⟨identityValid_normalizeName_windows hidentity, SQLiteStore.isStringMap_sortKeys (hm c hcall), hencrypts⟩

/-! ## A name that is valid only once -/

/-- A name with backslashes, which POSIX takes for characters. -/
def exampleBackslashCall : RegisterCall where
  projectId := "project"
  sourceName := "a\\..\\b"
  raw := "A".toUTF8
  captureTime := some "2026-01-01T00:00:00Z"

theorem exampleBackslash_checked : exampleBackslashCall.checked = .ok (exampleBackslashCall.record "A") := by
  have hvalid : identityValid .posix "project" "a\\..\\b" = true := by decide
  refine RegisterCall.checked_ok.mpr ⟨hvalid, "A", ?_, rfl⟩
  simp only [exampleBackslashCall, normalizeText, fromUTF8?_toUTF8, unifyFrom_of_not_mem (show '\r' ∉ "A".toList by decide),
    String.ofList_toList]

theorem exampleBackslash_not_migratable :
    ¬ AllMigratable .posix none (LocalStore.after [exampleBackslashCall]) := by
  intro h
  have haccepted : LocalStore.accepted [exampleBackslashCall] = [exampleBackslashCall.record "A"] := by
    simp only [LocalStore.accepted, List.filterMap_cons, List.filterMap_nil, exampleBackslash_checked, Except.toOption]
  have hlist := (LocalStore.holds_after [exampleBackslashCall]).listSources none true
  rw [haccepted] at hlist
  have hidentity := (h _ hlist _ (Catalog.mem_sources_cons _ _)).identity
  have hinvalid : identityValid .posix "project" (normalizeName "a\\..\\b") = false := by decide
  exact absurd hidentity (by simp [RegisterCall.record, exampleBackslashCall, SourceEntry.stored, hinvalid])

end

/-- A source that a local store accepted cannot be migrated, and the failed
migration leaves a database behind. -/
theorem migration_fails :
    letI := asciiRuntime
    let result := (newStore none).migrateFromLocalStore .posix ⟨"2026-01-02T00:00:00Z", by decide⟩
      (LocalStore.after [exampleBackslashCall])
    exampleBackslashCall.StringMetadata ∧ (∃ r, exampleBackslashCall.checked = .ok r) ∧
      (∃ e, result.1 = .error e) ∧ result.2.database ≠ .absent := by
  let := asciiRuntime
  refine ⟨rfl, ⟨_, exampleBackslash_checked⟩, ?_⟩
  have hn := exampleBackslash_not_migratable
  simp only [AllMigratable, not_forall] at hn
  obtain ⟨records, hr, r, hmem, hm⟩ := hn
  obtain ⟨e, s', he, hd⟩ := migrate_error ⟨"2026-01-02T00:00:00Z", by decide⟩ hr hmem hm
  exact ⟨⟨e, by rw [he]⟩, by rw [he]; exact hd⟩

end Pmiri
