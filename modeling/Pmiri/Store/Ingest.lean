import Pmiri.Store.Equivalence

/-!
# Ingesting directories

`ingest_directory` registers the Markdown and text files under a root one after
the other. Both stores run the same loop. A source shows the last content that was
new to it, whatever it was ingested with since; and files that were ingested before
change nothing.
-/

namespace Pmiri

open Py

/-- A path under the root, when it is ingested: what reading it gives, and the reading of the clock for its record. -/
structure IngestPath where
  relative : String
  isFile : Bool := true
  isSymlink : Bool := false
  bytes : Except Exc ByteArray
  utcNow : { t : String // t ≠ "" }

/-- The arguments of an `ingest_directory` call, with what is under the directory. -/
structure IngestCall where
  platform : Platform := .posix
  projectId : String
  isDir : Bool := true
  paths : List IngestPath

namespace IngestPath

/-- `path.name` -/
def name (p : IngestPath) : List Char := (splitOn '/' p.relative.toList).getLast?.getD []

/-- `path.suffix` -/
def suffix (p : IngestPath) : List Char :=
  let (stem, after) := (p.name.reverse.span (· != '.')).swap
  if after.isEmpty || stem.length ≤ 1 then [] else '.' :: after.reverse

/-- `source_name or source_path.name` -/
def sourceName (p : IngestPath) : String := if p.relative = "" then String.ofList p.name else p.relative

variable [Runtime]

/-- `path.is_file() and not path.is_symlink() and path.suffix.casefold() in {".md", ".markdown", ".txt"}` -/
def isDocument (p : IngestPath) : Bool :=
  p.isFile && !p.isSymlink && [".md".toList, ".markdown".toList, ".txt".toList].contains (casefold p.suffix)

/-- What `register_file` passes on. -/
def registration (platform : Platform) (projectId : String) (p : IngestPath) (raw : ByteArray) : RegisterCall where
  platform
  projectId
  sourceName := p.sourceName
  raw
  metadata := some (.ofItems [("input_path", .str (String.ofList p.name))])
  utcNow := p.utcNow

end IngestPath

/-- The paths that are registered, in their order. -/
def IngestCall.documents [Runtime] (i : IngestCall) : List IngestPath := Keyed.sortBy IngestPath.relative (i.paths.filter IngestPath.isDocument)

/-! ## The loop -/

section

variable [Runtime] {σ : Type} (register : σ → RegisterCall → Except Exc SourceRecord × σ)

/-- `register_file` -/
def registerFile (s : σ) (platform : Platform) (projectId : String) (p : IngestPath) : Except Exc SourceRecord × σ :=
  match p.bytes with
  | .error e => (.error e, s)
  | .ok raw => register s (p.registration platform projectId raw)

def ingestPaths (platform : Platform) (projectId : String) : σ → List IngestPath → Except Exc (List SourceRecord) × σ
  | s, [] => (.ok [], s)
  | s, p :: ps =>
    match registerFile register s platform projectId p with
    | (.error e, s) => (.error e, s)
    | (.ok record, s) =>
      let (rest, s) := ingestPaths platform projectId s ps
      (rest.map (record :: ·), s)

def ingestDirectory (s : σ) (i : IngestCall) : Except Exc (List SourceRecord) × σ :=
  if !i.isDir then (.error (valueError "ingest_root_not_directory"), s)
  else ingestPaths register i.platform i.projectId s i.documents

end

section

variable [Runtime]

def LocalStore.ingestDirectory (s : LocalStore) (i : IngestCall) : Except Exc (List SourceRecord) × LocalStore :=
  Pmiri.ingestDirectory LocalStore.registerBytes s i

def SQLiteStore.ingestDirectory (s : SQLiteStore) (i : IngestCall) : Except Exc (List SourceRecord) × SQLiteStore :=
  Pmiri.ingestDirectory SQLiteStore.registerBytes s i

/-- The store after some ingests into an empty one. -/
def LocalStore.ingested (ingests : List IngestCall) : LocalStore :=
  Machine.run (fun s i => (LocalStore.ingestDirectory s i).2) {} ingests

def SQLiteStore.ingested (cipher : Option BlobCipher) (ingests : List IngestCall) : SQLiteStore :=
  Machine.run (fun s i => (SQLiteStore.ingestDirectory s i).2) { blobCipher := cipher } ingests

/-! ## What is registered -/

/-- What registering a path answers. -/
def IngestPath.outcome (platform : Platform) (projectId : String) (p : IngestPath) : Except Exc SourceRecord := do
  let raw ← p.bytes
  (p.registration platform projectId raw).checked

/-- The records of the paths before the first that cannot be registered. -/
def recordedPaths (platform : Platform) (projectId : String) : List IngestPath → List SourceRecord
  | [] => []
  | p :: ps =>
    match p.outcome platform projectId with
    | .error _ => []
    | .ok record => record :: recordedPaths platform projectId ps

/-- The records that an ingest adds. -/
def IngestCall.recorded (i : IngestCall) : List SourceRecord :=
  if i.isDir then recordedPaths i.platform i.projectId i.documents else []

/-- What an ingest answers. -/
def IngestCall.outcome (i : IngestCall) : Except Exc (List SourceRecord) := do
  raiseIf (!i.isDir) (valueError "ingest_root_not_directory")
  traverse (IngestPath.outcome i.platform i.projectId) i.documents

/-- A store that holds records and answers every registration as the checks say. -/
structure RegistersRecords {σ : Type} (register : σ → RegisterCall → Except Exc SourceRecord × σ) (holds : σ → List SourceRecord → Prop) :
    Prop where
  answers : ∀ {s recs}, holds s recs → ∀ {c : RegisterCall}, c.StringMetadata → (register s c).1 = c.checked
  adds : ∀ {s recs}, holds s recs → ∀ {c : RegisterCall}, c.StringMetadata →
    holds (register s c).2 (recs ++ c.checked.toOption.toList)

section

variable {σ : Type} {register : σ → RegisterCall → Except Exc SourceRecord × σ} {holds : σ → List SourceRecord → Prop}

theorem RegistersRecords.file (h : RegistersRecords register holds) {s : σ} {recs : List SourceRecord} (hs : holds s recs) (platform : Platform)
    (projectId : String) (p : IngestPath) :
    (registerFile register s platform projectId p).1 = p.outcome platform projectId ∧
      holds (registerFile register s platform projectId p).2 (recs ++ (p.outcome platform projectId).toOption.toList) := by
  rw [registerFile, IngestPath.outcome]
  cases p.bytes with
  | error e => exact ⟨rfl, by rwa [show (Except.error e >>= _ : Except Exc SourceRecord).toOption.toList = [] from rfl, List.append_nil]⟩
  | ok raw => exact ⟨h.answers hs rfl, h.adds hs rfl⟩

theorem RegistersRecords.paths (h : RegistersRecords register holds) {s : σ} {recs : List SourceRecord} (hs : holds s recs) (platform : Platform)
    (projectId : String) (ps : List IngestPath) :
    (ingestPaths register platform projectId s ps).1 = traverse (IngestPath.outcome platform projectId) ps ∧
      holds (ingestPaths register platform projectId s ps).2 (recs ++ recordedPaths platform projectId ps) := by
  induction ps generalizing s recs with
  | nil => exact ⟨rfl, by rwa [recordedPaths, List.append_nil]⟩
  | cons p ps ih =>
    obtain ⟨hanswer, hholds⟩ := h.file hs platform projectId p
    rw [ingestPaths, traverse, recordedPaths]
    rcases hfile : registerFile register s platform projectId p with ⟨answer, s'⟩
    rw [hfile] at hanswer hholds
    dsimp only at hanswer hholds
    rw [← hanswer] at hholds ⊢
    cases answer with
    | error e => exact ⟨rfl, hholds⟩
    | ok record =>
      obtain ⟨hrest, hholds'⟩ := ih hholds
      dsimp only
      rw [hrest]
      refine ⟨?_, by rwa [List.append_assoc] at hholds'⟩
      cases traverse (IngestPath.outcome platform projectId) ps <;> rfl

/-- An ingest answers what the checks say, and adds the records of the files before the first that fails. -/
theorem RegistersRecords.ingest (h : RegistersRecords register holds) {s : σ} {recs : List SourceRecord} (hs : holds s recs) (i : IngestCall) :
    (ingestDirectory register s i).1 = i.outcome ∧ holds (ingestDirectory register s i).2 (recs ++ i.recorded) := by
  rw [ingestDirectory, IngestCall.outcome, IngestCall.recorded]
  cases i.isDir with
  | false => exact ⟨rfl, by rwa [if_neg Bool.false_ne_true, List.append_nil]⟩
  | true => exact h.paths hs i.platform i.projectId i.documents

theorem RegistersRecords.run (h : RegistersRecords register holds) {s : σ} {recs : List SourceRecord} (hs : holds s recs) (ingests : List IngestCall) :
    holds (Machine.run (fun s i => (ingestDirectory register s i).2) s ingests) (recs ++ ingests.flatMap IngestCall.recorded) := by
  induction ingests generalizing s recs with
  | nil => rwa [List.flatMap_nil, List.append_nil]
  | cons i ingests ih =>
    rw [List.flatMap_cons, ← List.append_assoc]
    exact ih (h.ingest hs i).2

end

theorem LocalStore.registers : RegistersRecords LocalStore.registerBytes LocalStore.Holds where
  answers h c _ := h.registerBytes_fst c
  adds {_ _} h {c} _ := by
    rcases hc : c.checked with e | r
    · rw [LocalStore.registerBytes_error hc]
      simpa [Except.toOption] using h
    · exact (h.register hc).2

/-- A SQLite store with its tables and this cipher holds the catalog of the records. -/
structure SQLiteStore.Keeps (cipher : Option BlobCipher) (s : SQLiteStore) (recs : List SourceRecord) : Prop where
  holds : s.Holds recs
  cipher : s.blobCipher = cipher
  readable : s.Readable

theorem SQLiteStore.registers {cipher : Option BlobCipher} (hc : NeverFails cipher) :
    RegistersRecords SQLiteStore.registerBytes (SQLiteStore.Keeps cipher) where
  answers {s _} h {c} hm := by
    rw [h.holds.registerBytes_fst c, h.cipher, outcome_eq_checked hc hm]
  adds {s recs} h {c} hm := by
    obtain ⟨hholds, hcipher⟩ := h.holds.step c
    rw [h.cipher, outcome_eq_checked hc hm] at hholds
    refine ⟨hholds, hcipher.trans h.cipher, ?_⟩
    refine readable_run h.holds h.readable (fun fingerprint content e he => ?_) [c]
    obtain ⟨stored, hs⟩ := hc fingerprint content
    rw [h.cipher, hs] at he
    cases he

theorem LocalStore.holds_ingested (ingests : List IngestCall) :
    (LocalStore.ingested ingests).Holds (ingests.flatMap IngestCall.recorded) := by
  have h := LocalStore.registers.run LocalStore.holds_fresh ingests
  rwa [List.nil_append] at h

theorem SQLiteStore.keeps_ingested {cipher : Option BlobCipher} (hc : NeverFails cipher) (ingests : List IngestCall) :
    (SQLiteStore.ingested cipher ingests).Keeps cipher (ingests.flatMap IngestCall.recorded) := by
  have h := (SQLiteStore.registers hc).run ⟨SQLiteStore.holds_fresh cipher, rfl, Database.noConfusion⟩ ingests
  rwa [List.nil_append] at h

end

/-! ## What a source shows -/

namespace Catalog

/-- The records that gave a source a version that it had not had before. -/
def novelties (recs : List SourceRecord) (project : Option String) (sourceId : String) : List SourceRecord :=
  (firstRegistrations recs).filter fun r => r.inProject project && decide (r.sourceId = sourceId)

/-- Each record of a source was captured after those before it. -/
def Rising (recs : List SourceRecord) : Prop := recs.Pairwise fun a b => a.sourceId = b.sourceId → a.captureTime < b.captureTime

theorem mem_novelties {recs : List SourceRecord} {project : Option String} {sourceId : String} {r : SourceRecord} :
    r ∈ novelties recs project sourceId ↔ r ∈ firstRegistrations recs ∧ r.inProject project = true ∧ r.sourceId = sourceId := by
  rw [novelties, List.mem_filter, Bool.and_eq_true, decide_eq_true_iff]

/-- The last of them exceeds the others. -/
theorem Rising.le_last {recs : List SourceRecord} (h : Rising recs) {project : Option String} {sourceId : String} {d r : SourceRecord}
    (hd : (novelties recs project sourceId).getLast? = some d) (hr : r ∈ novelties recs project sourceId) :
    r.currencyKey ≤ d.currencyKey := by
  obtain ⟨before, hbefore⟩ := List.getLast?_eq_some_iff.mp hd
  have hsublist : (novelties recs project sourceId).Sublist recs := List.filter_sublist.trans (Keyed.firsts_sublist _ recs)
  have hrising := h.sublist hsublist
  have hsource : d.sourceId = sourceId := (mem_novelties.mp (List.mem_of_getLast? hd)).2.2
  rw [hbefore] at hr hrising
  rcases List.mem_append.mp hr with hr | hr
  · have hlt := (List.pairwise_append.mp hrising).2.2 r hr d (List.mem_singleton.mpr rfl)
    have hmem : r ∈ novelties recs project sourceId := hbefore ▸ List.mem_append_left _ hr
    exact le_of_lt (List.Lex.rel (hlt ((mem_novelties.mp hmem).2.2.trans hsource.symm)))
  · obtain rfl := List.mem_singleton.mp hr
    exact le_refl _

theorem mem_kept_iff {recs : List SourceRecord} {project : Option String} {sourceId : String} {e : SourceEntry} :
    (e ∈ kept recs ∧ e.inProject project = true ∧ e.sourceId = sourceId) ↔
      ∃ d ∈ novelties recs project sourceId, d.toSourceEntry.stored = e := by
  rw [kept_eq_map]
  constructor
  · intro h
    obtain ⟨hmem, hproject, hsource⟩ := h
    obtain ⟨d, hd, rfl⟩ := List.mem_map.mp hmem
    exact ⟨d, mem_novelties.mpr ⟨hd, hproject, hsource⟩, rfl⟩
  · intro h
    obtain ⟨d, hd, rfl⟩ := h
    obtain ⟨hfirst, hproject, hsource⟩ := mem_novelties.mp hd
    exact ⟨List.mem_map_of_mem hfirst, hproject, hsource⟩

/-- Where the clock goes forward, the listing shows of a source the last version that was new to it. -/
theorem Rising.listed {recs : List SourceRecord} (h : Rising recs) (project : Option String) (sourceId : String) :
    ((sources recs project false).find? fun x => decide (x.sourceId = sourceId)).map (·.toSourceEntry) =
      (novelties recs project sourceId).getLast?.map fun d => d.toSourceEntry.stored := by
  have hselect {e : SourceEntry} : e ∈ selectVersions SourceEntry.toSourceVersion project false (kept recs) ↔
      (e ∈ kept recs ∧ e.toSourceVersion.inProject project = true) ∧
        ∀ y ∈ kept recs, y.toSourceVersion.inProject project = true → y.sourceId = e.sourceId →
          y.toSourceVersion.currencyKey ≤ e.toSourceVersion.currencyKey :=
    mem_selectVersions (kept_distinct recs)
  cases hlast : (novelties recs project sourceId).getLast? with
  | none =>
    rw [List.getLast?_eq_none_iff] at hlast
    rw [Option.map_none, Option.map_eq_none_iff, List.find?_eq_none]
    intro x hx hsource
    obtain ⟨e, he, rfl⟩ := List.mem_map.mp hx
    obtain ⟨hkept, hproject⟩ := (hselect.mp he).1
    obtain ⟨d, hd, -⟩ := mem_kept_iff.mp ⟨hkept, hproject, of_decide_eq_true hsource⟩
    rw [hlast] at hd
    cases hd
  | some d =>
    obtain ⟨hkept, hproject, hsource⟩ := mem_kept_iff.mpr ⟨d, List.mem_of_getLast? hlast, rfl⟩
    have hmax : d.toSourceEntry.stored ∈ selectVersions SourceEntry.toSourceVersion project false (kept recs) := by
      refine hselect.mpr ⟨⟨hkept, hproject⟩, fun y hy hyproject hysource => ?_⟩
      obtain ⟨r, hr, rfl⟩ := mem_kept_iff.mp ⟨hy, hyproject, hysource.trans hsource⟩
      exact h.le_last hlast hr
    cases hfind : (sources recs project false).find? fun x => decide (x.sourceId = sourceId) with
    | none =>
      have hnone := List.find?_eq_none.mp hfind _ (List.mem_map_of_mem hmax)
      exact absurd (decide_eq_true hsource) hnone
    | some x =>
      obtain ⟨e, he, rfl⟩ := List.mem_map.mp (List.mem_of_find?_eq_some hfind)
      have hesource : (withContent recs e).sourceId = sourceId := by simpa using List.find?_some hfind
      have heq : e = d.toSourceEntry.stored := by
        refine (kept_distinct recs).currencyKey_inj e (hselect.mp he).1.1 _ hkept (hesource.trans hsource.symm) ?_
        refine le_antisymm ?_ ?_
        · exact (hselect.mp hmax).2 e (hselect.mp he).1.1 (hselect.mp he).1.2 (hesource.trans hsource.symm)
        · exact (hselect.mp he).2 _ hkept hproject (hsource.trans hesource.symm)
      exact congrArg some heq

/-! ## Versions that are known -/

/-- Records whose versions and contents are there already. -/
def Known (recs more : List SourceRecord) : Prop := ∀ r ∈ more, ∃ r' ∈ recs, r'.versionKey = r.versionKey ∧ r'.contentFingerprint = r.contentFingerprint

theorem Known.kept_append {recs more : List SourceRecord} (h : Known recs more) :
    kept (recs ++ more) = kept recs ∧ ∀ fingerprint, contentOf (recs ++ more) fingerprint = contentOf recs fingerprint := by
  induction more using List.reverseRecOn with
  | nil => simp only [List.append_nil, implies_true, and_self]
  | append_singleton more r ih =>
    obtain ⟨hkept, hcontent⟩ := ih fun x hx => h x (List.mem_append_left _ hx)
    obtain ⟨r', hr', hkey, hfingerprint⟩ := h r (List.mem_append_right _ (List.mem_singleton.mpr rfl))
    rw [← List.append_assoc]
    constructor
    · obtain ⟨e, he, hekey⟩ := exists_mem_kept hr'
      rw [kept_concat, hkept]
      exact Keyed.add_of_mem _ he (hekey.trans hkey)
    · intro fingerprint
      rw [contentOf_concat, hcontent]
      split
      · rename_i heq
        obtain ⟨content, hsome⟩ := Option.isSome_iff_exists.mp (contentOf_isSome hr')
        rw [← heq, ← hfingerprint, hsome, Option.some_or]
      · rw [Option.or_none]

theorem Known.sources_append {recs more : List SourceRecord} (h : Known recs more) (project : Option String) (includeHistory : Bool) :
    sources (recs ++ more) project includeHistory = sources recs project includeHistory := by
  obtain ⟨hkept, hcontent⟩ := h.kept_append
  rw [sources, hkept, sources]
  refine List.map_congr_left fun e _ => ?_
  rw [withContent, hcontent, withContent]

theorem Known.fingerprint_append [Runtime] {recs more : List SourceRecord} (h : Known recs more) :
    fingerprint (recs ++ more) = fingerprint recs := by
  rw [fingerprint, h.kept_append.1, fingerprint]

end Catalog

/-! ## Ingests one after the other -/

section

variable [Runtime]

/-- The clock goes forward from one ingest to the next. -/
def ClockForward (ingests : List IngestCall) : Prop :=
  ingests.Pairwise fun i j => ∀ p ∈ i.documents, ∀ q ∈ j.documents, p.utcNow.1 < q.utcNow.1

/-- No two files under the root have one source identifier. -/
def IngestCall.DistinctSources (i : IngestCall) : Prop :=
  i.documents.Pairwise fun p q => sourceIdOf i.projectId (normalizeName p.sourceName) ≠ sourceIdOf i.projectId (normalizeName q.sourceName)

theorem IngestPath.of_outcome {platform : Platform} {projectId : String} {p : IngestPath} {r : SourceRecord}
    (h : p.outcome platform projectId = .ok r) :
    r.captureTime = p.utcNow.1 ∧ r.sourceId = sourceIdOf projectId (normalizeName p.sourceName) := by
  obtain ⟨raw, -, h⟩ := bind_ok.mp h
  obtain ⟨-, content, -, rfl⟩ := RegisterCall.checked_ok.mp h
  exact ⟨rfl, rfl⟩

theorem mem_recordedPaths {platform : Platform} {projectId : String} {ps : List IngestPath} {r : SourceRecord}
    (h : r ∈ recordedPaths platform projectId ps) : ∃ p ∈ ps, p.outcome platform projectId = .ok r := by
  induction ps with
  | nil => cases h
  | cons p ps ih =>
    rw [recordedPaths] at h
    split at h
    · cases h
    · rename_i record hrecord
      rcases List.mem_cons.mp h with rfl | h
      · exact ⟨p, List.mem_cons_self, hrecord⟩
      · obtain ⟨q, hq, hr⟩ := ih h
        exact ⟨q, List.mem_cons_of_mem _ hq, hr⟩

theorem IngestCall.mem_recorded {i : IngestCall} {r : SourceRecord} (h : r ∈ i.recorded) :
    ∃ p ∈ i.documents, p.outcome i.platform i.projectId = .ok r := by
  rw [recorded] at h
  split at h
  · exact mem_recordedPaths h
  · cases h

theorem pairwise_recordedPaths {platform : Platform} {projectId : String} {ps : List IngestPath}
    (h : ps.Pairwise fun p q => sourceIdOf projectId (normalizeName p.sourceName) ≠ sourceIdOf projectId (normalizeName q.sourceName)) :
    (recordedPaths platform projectId ps).Pairwise fun a b => a.sourceId ≠ b.sourceId := by
  induction ps with
  | nil => exact List.Pairwise.nil
  | cons p ps ih =>
    obtain ⟨hp, hps⟩ := List.pairwise_cons.mp h
    rw [recordedPaths]
    split
    · exact List.Pairwise.nil
    · rename_i record hrecord
      refine List.pairwise_cons.mpr ⟨fun b hb => ?_, ih hps⟩
      obtain ⟨q, hq, hb⟩ := mem_recordedPaths hb
      rw [(IngestPath.of_outcome hrecord).2, (IngestPath.of_outcome hb).2]
      exact hp q hq

theorem IngestCall.DistinctSources.recorded {i : IngestCall} (h : i.DistinctSources) :
    i.recorded.Pairwise fun a b => a.sourceId ≠ b.sourceId := by
  rw [IngestCall.recorded]
  split
  · exact pairwise_recordedPaths h
  · exact List.Pairwise.nil

/-- The records of such ingests rise. -/
theorem rising_ingests {ingests : List IngestCall} (hforward : ClockForward ingests) (hdistinct : ∀ i ∈ ingests, i.DistinctSources) :
    Catalog.Rising (ingests.flatMap IngestCall.recorded) := by
  refine List.pairwise_flatMap.mpr ⟨fun i hi => ?_, ?_⟩
  · exact (hdistinct i hi).recorded.imp fun hne heq => absurd heq hne
  · refine hforward.imp fun h a ha b hb _ => ?_
    obtain ⟨p, hp, ha⟩ := IngestCall.mem_recorded ha
    obtain ⟨q, hq, hb⟩ := IngestCall.mem_recorded hb
    rw [(IngestPath.of_outcome ha).1, (IngestPath.of_outcome hb).1]
    exact h p hp q hq

/-- After any ingests, with the clock going forward between them, both stores list of each source one version: the last
that was new to it. -/
theorem ingested_listing {cipher : Option BlobCipher} (hc : NeverFails cipher) (ingests : List IngestCall)
    (hforward : ClockForward ingests) (hdistinct : ∀ i ∈ ingests, i.DistinctSources) (project : Option String) :
    ∃ records, (LocalStore.ingested ingests).listSources project false = .ok records ∧
      (SQLiteStore.ingested cipher ingests).listSources project false = .ok records ∧
      (records.map fun x => x.sourceId).Nodup ∧
      ∀ sourceId, (records.find? fun x => decide (x.sourceId = sourceId)).map (·.toSourceEntry) =
        (Catalog.novelties (ingests.flatMap IngestCall.recorded) project sourceId).getLast?.map fun d => d.toSourceEntry.stored := by
  have hlocal := LocalStore.holds_ingested ingests
  have hsqlite := SQLiteStore.keeps_ingested hc ingests
  refine ⟨_, hlocal.listSources project false, hsqlite.holds.listSources hsqlite.readable project false, ?_, ?_⟩
  · rw [Catalog.sources, List.map_map]
    refine ((Keyed.sortBy_perm _ _).map _).nodup_iff.mpr ?_
    exact Keyed.nodup_newest _ _ _
  · exact fun sourceId => (rising_ingests hforward hdistinct).listed project sourceId

/-! ## Files that were ingested before -/

/-- An ingest of files that `i` ingests, too. -/
structure IngestCall.Within (j i : IngestCall) : Prop where
  platform : j.platform = i.platform
  project : j.projectId = i.projectId
  isDir : j.isDir = true
  documents : ∀ p ∈ j.documents, ∃ q ∈ i.documents, q.relative = p.relative ∧ q.bytes = p.bytes

theorem IngestPath.outcome_of_same {platform : Platform} {projectId : String} {p q : IngestPath} (hrelative : q.relative = p.relative)
    (hbytes : q.bytes = p.bytes) {r' : SourceRecord} (h : q.outcome platform projectId = .ok r') :
    ∃ r, p.outcome platform projectId = .ok r ∧ r'.versionKey = r.versionKey ∧ r'.contentFingerprint = r.contentFingerprint := by
  have hname : q.sourceName = p.sourceName := by
    rw [sourceName, sourceName, name, name, hrelative]
  obtain ⟨raw, hraw, h⟩ := bind_ok.mp h
  obtain ⟨hvalid, content, hcontent, rfl⟩ := RegisterCall.checked_ok.mp h
  refine ⟨(p.registration platform projectId raw).record content, ?_, ?_, rfl⟩
  · refine bind_ok.mpr ⟨raw, hbytes ▸ hraw, RegisterCall.checked_ok.mpr ⟨?_, content, hcontent, rfl⟩⟩
    have hvalid : identityValid platform projectId q.sourceName = true := hvalid
    rwa [hname] at hvalid
  · simp only [SourceVersion.versionKey, RegisterCall.record, registration, hname]

theorem recordedPaths_of_traverse {platform : Platform} {projectId : String} {ps : List IngestPath} {records : List SourceRecord}
    (h : traverse (IngestPath.outcome platform projectId) ps = .ok records) :
    ∀ p ∈ ps, ∃ r ∈ recordedPaths platform projectId ps, p.outcome platform projectId = .ok r := by
  induction ps generalizing records with
  | nil => exact List.forall_mem_nil _
  | cons p ps ih =>
    obtain ⟨r, hr, h⟩ := bind_ok.mp h
    obtain ⟨rest, hrest, -⟩ := bind_ok.mp h
    rw [recordedPaths, hr]
    refine List.forall_mem_cons.mpr ⟨⟨r, List.mem_cons_self, hr⟩, fun q hq => ?_⟩
    obtain ⟨r', hr', hq⟩ := ih hrest q hq
    exact ⟨r', List.mem_cons_of_mem _ hr', hq⟩

/-- The files of an ingest that succeeded are all registered. -/
theorem IngestCall.recorded_of_outcome {i : IngestCall} {records : List SourceRecord} (h : i.outcome = .ok records) :
    ∀ p ∈ i.documents, ∃ r ∈ i.recorded, p.outcome i.platform i.projectId = .ok r := by
  obtain ⟨hdir, h⟩ := seq_ok.mp h
  rw [raiseIf_ok, Bool.not_eq_false'] at hdir
  rw [recorded, if_pos hdir]
  exact recordedPaths_of_traverse h

theorem IngestCall.Within.known {i j : IngestCall} (h : j.Within i) {records : List SourceRecord} (hi : i.outcome = .ok records) :
    Catalog.Known i.recorded j.recorded ∧ ∃ answers, j.outcome = .ok answers := by
  have hsame : ∀ p ∈ j.documents, ∃ r' ∈ i.recorded, ∃ r, p.outcome j.platform j.projectId = .ok r ∧
      r'.versionKey = r.versionKey ∧ r'.contentFingerprint = r.contentFingerprint := by
    intro p hp
    obtain ⟨q, hq, hrelative, hbytes⟩ := h.documents p hp
    obtain ⟨r', hr', hq⟩ := IngestCall.recorded_of_outcome hi q hq
    obtain ⟨r, hr, hkeys⟩ := IngestPath.outcome_of_same hrelative hbytes hq
    exact ⟨r', hr', r, h.platform ▸ h.project ▸ hr, hkeys⟩
  constructor
  · intro r hr
    obtain ⟨p, hp, hr⟩ := IngestCall.mem_recorded hr
    obtain ⟨r', hr', r'', hr'', hkeys⟩ := hsame p hp
    obtain rfl := Except.ok.inj (hr''.symm.trans hr)
    exact ⟨r', hr', hkeys⟩
  · rw [IngestCall.outcome, h.isDir]
    have hall : ∀ p ∈ j.documents, p.outcome j.platform j.projectId =
        .ok ((p.outcome j.platform j.projectId).toOption.getD ⟨⟨⟨"", "", "", "", "", ""⟩, .empty⟩, ""⟩) := by
      intro p hp
      obtain ⟨-, -, r, hr, -⟩ := hsame p hp
      rw [hr]
      rfl
    exact ⟨_, traverse_ok _ hall⟩

omit [Runtime] in
theorem Catalog.Known.of_subset {recs recs' more : List SourceRecord} (h : Known recs more) (hsub : recs ⊆ recs') : Known recs' more := by
  intro r hr
  obtain ⟨r', hr', hkeys⟩ := h r hr
  exact ⟨r', hsub hr', hkeys⟩

/-- What a store answers to whoever reads it. -/
structure SameAnswers {σ : Type} (list : σ → Option String → Bool → Except Exc (List SourceRecord))
    (get : σ → String → Option String → Except Exc SourceRecord) (fingerprint : σ → Except Exc String) (s t : σ) : Prop where
  list : ∀ project includeHistory, list s project includeHistory = list t project includeHistory
  get : ∀ sourceId versionId, get s sourceId versionId = get t sourceId versionId
  fingerprint : fingerprint s = fingerprint t

def LocalStore.SameAnswers (s t : LocalStore) : Prop :=
  Pmiri.SameAnswers LocalStore.listSources LocalStore.getSource LocalStore.canonicalFingerprint s t

def SQLiteStore.SameAnswers (s t : SQLiteStore) : Prop :=
  Pmiri.SameAnswers SQLiteStore.listSources SQLiteStore.getSource SQLiteStore.canonicalFingerprint s t

/-- After an ingest that succeeded, ingests of files that it ingested succeed, too, and change no answer of either store. -/
theorem ingested_again {cipher : Option BlobCipher} (hc : NeverFails cipher) (history : List IngestCall) (i : IngestCall)
    (records : List SourceRecord) (hi : ((LocalStore.ingested history).ingestDirectory i).1 = .ok records) (later : List IngestCall)
    (hlater : ∀ j ∈ later, j.Within i) :
    LocalStore.SameAnswers (LocalStore.ingested (history ++ i :: later)) (LocalStore.ingested (history ++ [i])) ∧
    SQLiteStore.SameAnswers (SQLiteStore.ingested cipher (history ++ i :: later)) (SQLiteStore.ingested cipher (history ++ [i])) ∧
    ∀ before j after, later = before ++ j :: after → ∃ answers,
      ((LocalStore.ingested (history ++ i :: before)).ingestDirectory j).1 = .ok answers ∧
      ((SQLiteStore.ingested cipher (history ++ i :: before)).ingestDirectory j).1 = .ok answers := by
  have houtcome : i.outcome = .ok records := by
    rw [← (LocalStore.registers.ingest (LocalStore.holds_ingested history) i).1]
    exact hi
  have hknown : Catalog.Known ((history ++ [i]).flatMap IngestCall.recorded) (later.flatMap IngestCall.recorded) := by
    intro r hr
    obtain ⟨j, hj, hr⟩ := List.mem_flatMap.mp hr
    refine ((hlater j hj).known houtcome).1.of_subset ?_ r hr
    rw [List.flatMap_append, List.flatMap_singleton]
    exact List.subset_append_right ..
  have hrecs : (history ++ i :: later).flatMap IngestCall.recorded =
      (history ++ [i]).flatMap IngestCall.recorded ++ later.flatMap IngestCall.recorded := by
    rw [← List.flatMap_append, List.append_assoc, List.singleton_append]
  refine ⟨?_, ?_, ?_⟩
  · have hs := LocalStore.holds_ingested (history ++ i :: later)
    have ht := LocalStore.holds_ingested (history ++ [i])
    rw [hrecs] at hs
    have hlist project includeHistory := (hs.listSources project includeHistory).trans
      ((congrArg Except.ok (hknown.sources_append project includeHistory)).trans (ht.listSources project includeHistory).symm)
    refine ⟨hlist, fun sourceId versionId => ?_, ?_⟩
    · rw [LocalStore.getSource, LocalStore.getSource, hlist]
    · rw [hs.canonicalFingerprint, ht.canonicalFingerprint, hknown.fingerprint_append]
  · have hs := SQLiteStore.keeps_ingested hc (history ++ i :: later)
    have ht := SQLiteStore.keeps_ingested hc (history ++ [i])
    rw [hrecs] at hs
    have hlist project includeHistory := (hs.holds.listSources hs.readable project includeHistory).trans
      ((congrArg Except.ok (hknown.sources_append project includeHistory)).trans
        (ht.holds.listSources ht.readable project includeHistory).symm)
    refine ⟨hlist, fun sourceId versionId => ?_, ?_⟩
    · rw [SQLiteStore.getSource, SQLiteStore.getSource, hlist]
    · rw [hs.holds.canonicalFingerprint hs.readable, ht.holds.canonicalFingerprint ht.readable, hknown.fingerprint_append]
  · rintro before j after rfl
    obtain ⟨answers, hanswers⟩ := ((hlater j (by simp)).known houtcome).2
    refine ⟨answers, ?_, ?_⟩
    · exact (LocalStore.registers.ingest (LocalStore.holds_ingested _) j).1.trans hanswers
    · exact ((SQLiteStore.registers hc).ingest (SQLiteStore.keeps_ingested hc _) j).1.trans hanswers

end

/-! ## A file that changes -/

/-- A directory with one file. -/
def exampleIngest (content : String) (utcNow : { t : String // t ≠ "" }) : IngestCall where
  projectId := "project"
  paths := [{ relative := "notes/plan.md", bytes := .ok content.toUTF8, utcNow }]

theorem exampleIngest_documents (content : String) (utcNow : { t : String // t ≠ "" }) :
    letI := asciiRuntime
    (exampleIngest content utcNow).documents = (exampleIngest content utcNow).paths := by
  let := asciiRuntime
  have hdocument : ∀ p ∈ (exampleIngest content utcNow).paths, @IngestPath.isDocument asciiRuntime p = true := by
    intro p hp
    obtain rfl := List.mem_singleton.mp hp
    have hsuffix : casefold ".md".toList = ".md".toList := by decide
    have hname : IngestPath.suffix ⟨"notes/plan.md", true, false, .ok content.toUTF8, utcNow⟩ = ".md".toList := by
      rw [IngestPath.suffix, IngestPath.name]
      dsimp only
      decide
    rw [IngestPath.isDocument, hname, hsuffix]
    rfl
  rw [IngestCall.documents, List.filter_eq_self.mpr hdocument]
  rfl

theorem ingested_listing_example :
    letI := asciiRuntime
    let ingests := [exampleIngest "draft" ⟨"2026-01-01T00:00:00Z", by decide⟩, exampleIngest "final" ⟨"2026-01-02T00:00:00Z", by decide⟩]
    ∃ records, (LocalStore.ingested ingests).listSources none false = .ok records ∧
      (SQLiteStore.ingested none ingests).listSources none false = .ok records ∧
      (records.map fun x => x.sourceId).Nodup ∧
      ∀ sourceId, (records.find? fun x => decide (x.sourceId = sourceId)).map (·.toSourceEntry) =
        (Catalog.novelties (ingests.flatMap IngestCall.recorded) none sourceId).getLast?.map fun d => d.toSourceEntry.stored := by
  let := asciiRuntime
  intro ingests
  have hlt : "2026-01-01T00:00:00Z" < "2026-01-02T00:00:00Z" := by
    rw [String.lt_iff_toList_lt]
    decide
  refine ingested_listing (fun _ content => ⟨content, rfl⟩) ingests ?_ ?_ none
  · refine List.pairwise_pair.mpr fun p hp q hq => ?_
    rw [exampleIngest_documents] at hp hq
    obtain rfl := List.mem_singleton.mp hp
    obtain rfl := List.mem_singleton.mp hq
    exact hlt
  · simp only [ingests, List.forall_mem_cons, List.not_mem_nil, false_imp_iff, implies_true, and_true, IngestCall.DistinctSources,
      exampleIngest_documents]
    exact ⟨List.pairwise_singleton _ _, List.pairwise_singleton _ _⟩

theorem ingested_again_example :
    letI := asciiRuntime
    let first := exampleIngest "draft" ⟨"2026-01-01T00:00:00Z", by decide⟩
    let again := exampleIngest "draft" ⟨"2026-01-02T00:00:00Z", by decide⟩
    LocalStore.SameAnswers (LocalStore.ingested [first, again]) (LocalStore.ingested [first]) ∧
    SQLiteStore.SameAnswers (SQLiteStore.ingested none [first, again]) (SQLiteStore.ingested none [first]) := by
  let := asciiRuntime
  intro first again
  have hwithin : again.Within first := by
    refine ⟨rfl, rfl, rfl, fun p hp => ?_⟩
    rw [exampleIngest_documents] at hp
    obtain rfl := List.mem_singleton.mp hp
    refine ⟨first.paths.head (by decide), ?_, rfl, rfl⟩
    rw [exampleIngest_documents]
    exact List.mem_singleton.mpr rfl
  have hnormalized : normalizeText "draft".toUTF8 = .ok "draft" := by
    rw [normalizeText, fromUTF8?_toUTF8]
    rfl
  have hpath : ∀ p ∈ first.documents, p.outcome .posix "project" = .ok ((p.registration .posix "project" "draft".toUTF8).record "draft") := by
    intro p hp
    rw [exampleIngest_documents] at hp
    obtain rfl := List.mem_singleton.mp hp
    exact bind_ok.mpr ⟨"draft".toUTF8, rfl, RegisterCall.checked_ok.mpr ⟨by decide, "draft", hnormalized, rfl⟩⟩
  have houtcome : first.outcome = .ok (first.documents.map fun p => (p.registration .posix "project" "draft".toUTF8).record "draft") :=
    traverse_ok _ hpath
  have hplain : NeverFails none := fun _ content => ⟨content, rfl⟩
  obtain ⟨hlocal, hsqlite, -⟩ := ingested_again hplain [] first _
    ((LocalStore.registers.ingest (LocalStore.holds_ingested []) first).1.trans houtcome) [again]
    (List.forall_mem_singleton.mpr hwithin)
  exact ⟨hlocal, hsqlite⟩

end Pmiri
