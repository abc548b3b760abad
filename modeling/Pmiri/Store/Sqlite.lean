import Pmiri.Store.Local

/-!
# The SQLite store

`store.py`: `SQLiteStore`, two tables with primary keys, written in
transactions that ignore a row whose key is taken. Over any run of
registrations it holds the catalog of what it accepted, the contents as its
cipher encrypted them.
-/

namespace Pmiri

open Py

/-- A row of `sources`. The JSON text of its metadata is kept as what reading
it gives, if it can be read. -/
structure SourceRow extends SourceVersion where
  metadataJson : Option Val

/-- The database file: none, one without tables, one of another schema
version, one that SQLite does not read, or the two tables. -/
inductive Database where
  | absent
  | bare
  | unsupported
  | corrupt
  | tables (blobs : List (String × ByteArray)) (rows : List SourceRow)

namespace Database

/-- The file after `_connect()`, which creates it. -/
def connected : Database → Database
  | .absent => .bare
  | d => d

/-- `_ensure_schema` inside a transaction: the contents of the tables. -/
def ensureSchema : Database → Except Exc (List (String × ByteArray) × List SourceRow)
  | .absent | .bare => .ok ([], [])
  | .unsupported => .error (valueError "sqlite_schema_version_unsupported")
  | .corrupt => .error (.databaseError "file is not a database")
  | .tables blobs rows => .ok (blobs, rows)

/-- `_verify_schema` on a read-only connection: the contents of the tables. -/
def verifySchema : Database → Except Exc (List (String × ByteArray) × List SourceRow)
  | .absent => .ok ([], [])
  | .bare => .error (valueError "sqlite_schema_invalid")
  | .unsupported => .error (valueError "sqlite_schema_version_unsupported")
  | .corrupt => .error (.databaseError "file is not a database")
  | .tables blobs rows => .ok (blobs, rows)

end Database

/-- `StorageEncryptionError(msg)` -/
def storageEncryptionError (msg : String) : Exc := .valueError "StorageEncryptionError" msg

def isStorageEncryptionError : Exc → Bool
  | .valueError cls _ => cls == "StorageEncryptionError"
  | _ => false

/-- A row of the entry of a record. -/
def SourceEntry.row (e : SourceEntry) : SourceRow := { e with metadataJson := some e.metadata.toVal }

/-- `INSERT OR IGNORE INTO blobs` -/
def insertBlob (blobs : List (String × ByteArray)) (fingerprint : String) (content : ByteArray) : List (String × ByteArray) :=
  if (blobs.lookup fingerprint).isSome then blobs else blobs ++ [(fingerprint, content)]

/-- `INSERT OR IGNORE INTO sources` -/
def insertSource (rows : List SourceRow) (row : SourceRow) : List SourceRow := Keyed.add (fun r => r.versionKey) rows row

theorem insertSource_row (entries : List SourceEntry) (e : SourceEntry) :
    insertSource (entries.map SourceEntry.row) e.row = (Keyed.add (fun e => e.versionKey) entries e).map SourceEntry.row :=
  (Keyed.map_add SourceEntry.row (fun _ => rfl) entries e).symm

/-- The metadata of a row: a JSON object with string values. -/
def SourceRow.metadata (row : SourceRow) : Except Exc Dict :=
  match row.metadataJson.bind Val.asDict with
  | none => .error (valueError "source_metadata_invalid")
  | some d => if isStringMap d then .ok d else .error (valueError "source_metadata_invalid")

section

variable [Runtime]

/-- A cipher for blobs. It decrypts what it encrypted under the fingerprint of
the plaintext. -/
structure BlobCipher where
  encrypt : (fingerprint : String) → ByteArray → Except Exc ByteArray
  decrypt : (fingerprint : String) → ByteArray → Except Exc ByteArray
  decrypt_encrypt : ∀ {fingerprint plaintext ciphertext}, sha256Bytes plaintext = fingerprint →
    encrypt fingerprint plaintext = .ok ciphertext → decrypt fingerprint ciphertext = .ok plaintext

structure SQLiteStore where
  database : Database := .absent
  blobCipher : Option BlobCipher := none

/-- What is stored of a content: itself, if there is no cipher. -/
def encrypted (cipher : Option BlobCipher) (fingerprint : String) (content : ByteArray) : Except Exc ByteArray :=
  match cipher with
  | none => .ok content
  | some c => c.encrypt fingerprint content

def decrypted (cipher : Option BlobCipher) (fingerprint : String) (stored : ByteArray) : Except Exc ByteArray :=
  match cipher with
  | none => .ok stored
  | some c =>
    match c.decrypt fingerprint stored with
    | .ok plaintext => .ok plaintext
    | .error e => .error (if isStorageEncryptionError e then valueError "source_blob_decryption_failed" else e)

theorem decrypted_encrypted {cipher : Option BlobCipher} {fingerprint : String} {content stored : ByteArray}
    (hf : sha256Bytes content = fingerprint) (h : encrypted cipher fingerprint content = .ok stored) :
    decrypted cipher fingerprint stored = .ok content := by
  cases cipher with
  | none => exact h.symm
  | some c => simp only [decrypted, c.decrypt_encrypt hf h]

namespace SQLiteStore

def initialized (s : SQLiteStore) : Except Exc Unit × SQLiteStore :=
  match s.database.ensureSchema with
  | .error e => (.error e, s)
  | .ok (blobs, rows) => (.ok (), { s with database := .tables blobs rows })

def registerBytes (s : SQLiteStore) (c : RegisterCall) : Except Exc SourceRecord × SQLiteStore :=
  match c.checked with
  | .error e => (.error e, s)
  | .ok record =>
    if !isStringMap record.metadata then (.error (valueError "metadata_must_be_string_map"), s)
    else
      match s.database.ensureSchema with
      | .error e => (.error e, s)
      | .ok (blobs, rows) =>
        match encrypted s.blobCipher record.contentFingerprint record.content.toUTF8 with
        | .error e => (.error e, { s with database := s.database.connected })
        | .ok stored =>
          (.ok record, { s with
            database := .tables (insertBlob blobs record.contentFingerprint stored)
              (insertSource rows record.toSourceEntry.stored.row) })

/-- `_rows` -/
def rows (s : SQLiteStore) (project : Option String) : Except Exc (List SourceRow) := do
  let (_, rows) ← s.database.verifySchema
  return sortVersions SourceRow.toSourceVersion (ofProject SourceRow.toSourceVersion project rows)

/-- `_record_from_row` -/
def recordFromRow (s : SQLiteStore) (row : SourceRow) : Except Exc SourceRecord := do
  let (blobs, _) ← s.database.verifySchema
  match blobs.lookup row.contentFingerprint with
  | none => .error (valueError "source_blob_missing_or_invalid")
  | some stored => do
    let raw ← decrypted s.blobCipher row.contentFingerprint stored
    raiseIf (sha256Bytes raw != row.contentFingerprint) (valueError "source_blob_fingerprint_mismatch")
    let metadata ← row.metadata
    match String.fromUTF8? raw with
    | none => .error (valueError "source_blob_missing_or_invalid")
    | some content => .ok { row with metadata := metadata, content := content }

def listSources (s : SQLiteStore) (project : Option String) (includeHistory : Bool) : Except Exc (List SourceRecord) := do
  let rows ← s.rows project
  traverse s.recordFromRow (sortVersions SourceRow.toSourceVersion
    (if includeHistory then rows else latestVersions SourceRow.toSourceVersion rows))

def getSource (s : SQLiteStore) (sourceId : String) (versionId : Option String) : Except Exc SourceRecord := do
  findSource (← s.listSources none true) sourceId versionId

def canonicalFingerprint (s : SQLiteStore) : Except Exc String := do
  return sha256Json (indexDict ((← s.listSources none true).map (·.toSourceEntry))).toVal

/-- The store after a call. -/
def step (s : SQLiteStore) (c : RegisterCall) : SQLiteStore := (s.registerBytes c).2

/-! ## What it holds -/

/-- What a call answers on a store with this cipher. -/
def outcome (cipher : Option BlobCipher) (c : RegisterCall) : Except Exc SourceRecord := do
  let record ← c.checked
  raiseIf (!isStringMap record.metadata) (valueError "metadata_must_be_string_map")
  let _ ← encrypted cipher record.contentFingerprint record.content.toUTF8
  return record

/-- The records of the calls that are accepted. -/
def accepted (cipher : Option BlobCipher) (calls : List RegisterCall) : List SourceRecord :=
  calls.filterMap fun c => (outcome cipher c).toOption

/-- The blobs are the contents of the catalog, encrypted. -/
def BlobsHold (cipher : Option BlobCipher) (blobs : List (String × ByteArray)) (recs : List SourceRecord) : Prop :=
  ∀ fingerprint, match Catalog.contentOf recs fingerprint with
    | some content => ∃ stored, blobs.lookup fingerprint = some stored ∧
        decrypted cipher fingerprint stored = .ok content.toUTF8
    | none => blobs.lookup fingerprint = none

/-- The store holds the catalog of the records. -/
structure Holds (s : SQLiteStore) (recs : List SourceRecord) : Prop where
  derived : ∀ r ∈ recs, r.Derived
  strings : ∀ r ∈ recs, isStringMap r.metadata = true
  database : (recs = [] ∧ (s.database = .absent ∨ s.database = .bare)) ∨
    ∃ blobs, s.database = .tables blobs ((Catalog.kept recs).map SourceEntry.row) ∧ BlobsHold s.blobCipher blobs recs

theorem holds_fresh (cipher : Option BlobCipher) : Holds { blobCipher := cipher } [] :=
  ⟨by simp, by simp, .inl ⟨rfl, .inl rfl⟩⟩

theorem blobsHold_nil (cipher : Option BlobCipher) : BlobsHold cipher [] [] := fun _ => rfl

/-- Before a transaction the tables are those of the catalog. -/
theorem Holds.ensureSchema {s : SQLiteStore} {recs : List SourceRecord} (h : s.Holds recs) :
    ∃ blobs, s.database.ensureSchema = .ok (blobs, (Catalog.kept recs).map SourceEntry.row) ∧
      BlobsHold s.blobCipher blobs recs := by
  rcases h.database with ⟨rfl, hd | hd⟩ | ⟨blobs, hd, hb⟩
  · exact ⟨[], by rw [hd]; rfl, blobsHold_nil _⟩
  · exact ⟨[], by rw [hd]; rfl, blobsHold_nil _⟩
  · exact ⟨blobs, by rw [hd]; rfl, hb⟩

theorem blobsHold_insert {cipher : Option BlobCipher} {blobs : List (String × ByteArray)} {recs : List SourceRecord}
    (h : BlobsHold cipher blobs recs) {r : SourceRecord} (hr : r.Derived) {stored : ByteArray}
    (hs : encrypted cipher r.contentFingerprint r.content.toUTF8 = .ok stored) :
    BlobsHold cipher (insertBlob blobs r.contentFingerprint stored) (recs ++ [r]) := by
  intro fingerprint
  have hf := h fingerprint
  have hown := h r.contentFingerprint
  rw [Catalog.contentOf_concat, insertBlob]
  cases hc : Catalog.contentOf recs fingerprint with
  | some content =>
    rw [hc] at hf
    obtain ⟨stored', hlookup, hdecrypt⟩ := hf
    refine ⟨stored', ?_, hdecrypt⟩
    split
    · exact hlookup
    · rw [List.lookup_append, hlookup, Option.some_or]
  | none =>
    rw [hc] at hf
    rw [Option.none_or]
    by_cases he : r.contentFingerprint = fingerprint
    · subst he
      simp only [hf, Option.isSome_none, Bool.false_eq_true, ↓reduceIte]
      refine ⟨stored, ?_, decrypted_encrypted hr.fingerprint.symm hs⟩
      rw [List.lookup_append, hf, Option.none_or, List.lookup_cons_self]
    · simp only [he, ↓reduceIte]
      split
      · exact hf
      · have hne : (fingerprint == r.contentFingerprint) = false := beq_eq_false_iff_ne.mpr (Ne.symm he)
        rw [List.lookup_append, hf, Option.none_or, List.lookup_cons, hne, List.lookup_nil]

/-- A registration that is accepted is added to the catalog. -/
theorem Holds.register {s : SQLiteStore} {recs : List SourceRecord} (h : s.Holds recs) {c : RegisterCall} {r : SourceRecord}
    (hc : outcome s.blobCipher c = .ok r) :
    (s.registerBytes c).1 = .ok r ∧ (s.step c).Holds (recs ++ [r]) ∧ (s.step c).blobCipher = s.blobCipher ∧
      ∃ blobs rows, (s.step c).database = .tables blobs rows := by
  obtain ⟨r', hr', hc⟩ := bind_ok.mp hc
  obtain ⟨hstrings, hc⟩ := seq_ok.mp hc
  rw [raiseIf_ok, Bool.not_eq_false'] at hstrings
  obtain ⟨stored, hstored, hc⟩ := bind_ok.mp hc
  obtain rfl : r' = r := Except.ok.inj hc
  obtain ⟨blobs, hschema, hblobs⟩ := h.ensureSchema
  have hregister : s.registerBytes c = (.ok r', { s with
      database := .tables (insertBlob blobs r'.contentFingerprint stored)
        (insertSource ((Catalog.kept recs).map SourceEntry.row) r'.toSourceEntry.stored.row) }) := by
    simp only [registerBytes, hr', hstrings, Bool.not_true, Bool.false_eq_true, ↓reduceIte, hschema, hstored]
  have hd := c.derived hr'
  refine ⟨by rw [hregister], ⟨?_, ?_, .inr ⟨insertBlob blobs r'.contentFingerprint stored, ?_, ?_⟩⟩, ?_, ?_⟩
  · intro x hx
    rcases List.mem_append.mp hx with hx | hx
    exacts [h.derived x hx, List.mem_singleton.mp hx ▸ hd]
  · intro x hx
    rcases List.mem_append.mp hx with hx | hx
    exacts [h.strings x hx, List.mem_singleton.mp hx ▸ hstrings]
  · rw [step, hregister, insertSource_row, Catalog.kept_concat]
  · rw [step, hregister]
    exact blobsHold_insert hblobs hd hstored
  · rw [step, hregister]
  · exact ⟨_, _, by rw [step, hregister]⟩

theorem Holds.connected {s : SQLiteStore} {recs : List SourceRecord} (h : s.Holds recs) :
    Holds { s with database := s.database.connected } recs := by
  refine ⟨h.derived, h.strings, ?_⟩
  rcases h.database with ⟨hr, hd | hd⟩ | ⟨blobs, hd, hb⟩
  · exact .inl ⟨hr, .inr (by rw [hd]; rfl)⟩
  · exact .inl ⟨hr, .inr (by rw [hd]; rfl)⟩
  · exact .inr ⟨blobs, by rw [hd]; rfl, hb⟩

/-- A registration that raises leaves the store as it is, or, if it is the
encryption that raises, connected. -/
theorem Holds.register_error {s : SQLiteStore} {recs : List SourceRecord} (h : s.Holds recs) {c : RegisterCall} {e : Exc}
    (hc : outcome s.blobCipher c = .error e) :
    s.registerBytes c = (.error e, s) ∨
      s.registerBytes c = (.error e, { s with database := s.database.connected }) ∧
        ∃ r, c.checked = .ok r ∧ isStringMap r.metadata = true ∧
          encrypted s.blobCipher r.contentFingerprint r.content.toUTF8 = .error e := by
  obtain ⟨blobs, hschema, -⟩ := h.ensureSchema
  rcases hr : c.checked with e' | r
  · obtain rfl : e' = e := by simpa [outcome, hr, bind, Except.bind] using hc
    exact .inl (by simp only [registerBytes, hr])
  simp only [outcome, hr, ok_bind, seq_error, raiseIf_error, raiseIf_ok, Bool.not_eq_true', Bool.not_eq_false'] at hc
  rcases hc with ⟨hstrings, rfl⟩ | ⟨hstrings, hc⟩
  · exact .inl (by simp only [registerBytes, hr, hstrings, Bool.not_false, ↓reduceIte])
  rcases bind_error.mp hc with hstored | ⟨_, -, hc⟩
  · refine .inr ⟨?_, r, rfl, hstrings, hstored⟩
    simp only [registerBytes, hr, hstrings, Bool.not_true, Bool.false_eq_true, ↓reduceIte, hschema, hstored]
  · cases hc

/-- Each call answers what the checks and the cipher say. -/
theorem Holds.registerBytes_fst {s : SQLiteStore} {recs : List SourceRecord} (h : s.Holds recs) (c : RegisterCall) :
    (s.registerBytes c).1 = outcome s.blobCipher c := by
  rcases hc : outcome s.blobCipher c with e | r
  · rcases h.register_error hc with hr | ⟨hr, -⟩ <;> rw [hr]
  · exact (h.register hc).1

/-- The database has its tables, or is not there. -/
def Readable (s : SQLiteStore) : Prop := s.database ≠ .bare

theorem Holds.step {s : SQLiteStore} {recs : List SourceRecord} (h : s.Holds recs) (c : RegisterCall) :
    (s.step c).Holds (recs ++ (outcome s.blobCipher c).toOption.toList) ∧ (s.step c).blobCipher = s.blobCipher := by
  rcases hc : outcome s.blobCipher c with e | r
  · rw [SQLiteStore.step]
    rcases h.register_error hc with hr | ⟨hr, -⟩ <;> rw [hr] <;> simp only [Except.toOption, Option.toList_none, List.append_nil]
    · exact ⟨h, trivial⟩
    · exact ⟨h.connected, trivial⟩
  · exact ⟨(h.register hc).2.1, (h.register hc).2.2.1⟩

theorem accepted_cons (cipher : Option BlobCipher) (c : RegisterCall) (calls : List RegisterCall) :
    accepted cipher (c :: calls) = (outcome cipher c).toOption.toList ++ accepted cipher calls := by
  rw [accepted, List.filterMap_cons, accepted]
  cases outcome cipher c <;> rfl

/-- The store of a run holds the catalog of the accepted records. -/
theorem Holds.run {s : SQLiteStore} {recs : List SourceRecord} (h : s.Holds recs) (calls : List RegisterCall) :
    (Machine.run SQLiteStore.step s calls).Holds (recs ++ accepted s.blobCipher calls) ∧
      (Machine.run SQLiteStore.step s calls).blobCipher = s.blobCipher := by
  induction calls generalizing s recs with
  | nil => simpa [accepted] using h
  | cons c calls ih =>
    obtain ⟨hstep, hcipher⟩ := h.step c
    obtain ⟨hrun, hc⟩ := ih hstep
    rw [Machine.run_cons, accepted_cons, ← List.append_assoc, ← hcipher]
    exact ⟨hcipher ▸ hrun, hc⟩

/-- A store that holds a record has its tables. -/
theorem Holds.readable {s : SQLiteStore} {recs : List SourceRecord} (h : s.Holds recs) (hne : recs ≠ []) : s.Readable := by
  rcases h.database with ⟨hr, -⟩ | ⟨blobs, hd, -⟩
  · exact absurd hr hne
  · rw [Readable, hd]
    exact Database.noConfusion

/-- Where the encryption never raises, a database has its tables once there
is one. -/
theorem readable_run {s : SQLiteStore} {recs : List SourceRecord} (h : s.Holds recs) (hs : s.Readable)
    (hc : ∀ fingerprint content e, encrypted s.blobCipher fingerprint content ≠ .error e) (calls : List RegisterCall) :
    (Machine.run SQLiteStore.step s calls).Readable := by
  induction calls generalizing s recs with
  | nil => exact hs
  | cons c calls ih =>
    obtain ⟨hstep, hcipher⟩ := h.step c
    refine ih hstep ?_ (hcipher ▸ hc)
    rcases hr : outcome s.blobCipher c with e | r
    · rcases h.register_error hr with hr | ⟨-, r, -, -, he⟩
      · rw [SQLiteStore.step, hr]
        exact hs
      · exact absurd he (hc _ _ _)
    · exact (h.register hr).2.1.readable (by simp)

omit [Runtime] in
theorem isStringMap_sortKeys {d : Dict} (h : isStringMap d = true) : isStringMap d.sortKeys = true := by
  rw [isStringMap, List.all_eq_true] at h ⊢
  intro kv hkv
  obtain ⟨kv', hkv', rfl⟩ := List.mem_map.mp ((List.mem_insertionSort _).mp hkv)
  have hstr := h kv' hkv'
  cases hv : kv'.2 <;> simp_all [Val.isStr, Val.sortKeys]

omit [Runtime] in
theorem metadata_row {e : SourceEntry} (h : isStringMap e.metadata = true) : e.row.metadata = .ok e.metadata := by
  simp only [SourceRow.metadata, SourceEntry.row, Option.bind_some, Val.asDict_toVal, h, ↓reduceIte]

theorem Holds.recordFromRow {s : SQLiteStore} {recs : List SourceRecord} (h : s.Holds recs) {e : SourceEntry}
    (he : e ∈ Catalog.kept recs) : s.recordFromRow e.row = .ok (Catalog.withContent recs e) := by
  obtain ⟨content, hcontent⟩ := Catalog.exists_contentOf he
  obtain ⟨r, hr, hre⟩ := Catalog.exists_of_mem_kept he
  have hstrings : isStringMap e.metadata = true := hre ▸ isStringMap_sortKeys (h.strings r hr)
  rcases h.database with ⟨rfl, -⟩ | ⟨blobs, hd, hb⟩
  · cases hr
  have hblob := hb e.contentFingerprint
  rw [hcontent] at hblob
  obtain ⟨stored, hlookup, hdecrypt⟩ := hblob
  have hfp := (LocalStore.fingerprint_of_contentOf h.derived hcontent).1
  have hrow : e.row.contentFingerprint = e.contentFingerprint := rfl
  simp only [SQLiteStore.recordFromRow, hd, Database.verifySchema, ok_bind, hrow, hlookup, hdecrypt, hfp,
    bne_self_eq_false, raiseIf, Bool.false_eq_true, ↓reduceIte, metadata_row hstrings, fromUTF8?_toUTF8,
    Catalog.withContent, hcontent, Option.getD_some]
  rfl

theorem Holds.verifySchema {s : SQLiteStore} {recs : List SourceRecord} (h : s.Holds recs) (hs : s.Readable) :
    ∃ blobs, s.database.verifySchema = .ok (blobs, (Catalog.kept recs).map SourceEntry.row) := by
  rcases h.database with ⟨rfl, hd | hd⟩ | ⟨blobs, hd, -⟩
  · exact ⟨[], by rw [hd]; rfl⟩
  · exact absurd hd hs
  · exact ⟨blobs, by rw [hd]; rfl⟩

/-- A store that holds a catalog lists it. -/
theorem Holds.listSources {s : SQLiteStore} {recs : List SourceRecord} (h : s.Holds recs) (hs : s.Readable)
    (project : Option String) (includeHistory : Bool) :
    s.listSources project includeHistory = .ok (Catalog.sources recs project includeHistory) := by
  obtain ⟨blobs, hverify⟩ := h.verifySchema hs
  have hselect : sortVersions SourceRow.toSourceVersion (if includeHistory then
        sortVersions SourceRow.toSourceVersion
          (ofProject SourceRow.toSourceVersion project ((Catalog.kept recs).map SourceEntry.row))
      else latestVersions SourceRow.toSourceVersion (sortVersions SourceRow.toSourceVersion
          (ofProject SourceRow.toSourceVersion project ((Catalog.kept recs).map SourceEntry.row)))) =
      (selectVersions SourceEntry.toSourceVersion project includeHistory (Catalog.kept recs)).map SourceEntry.row := by
    have hdistinct : Distinct SourceRow.toSourceVersion ((Catalog.kept recs).map SourceEntry.row) := by
      rw [Distinct, List.map_map]
      exact Catalog.kept_distinct recs
    exact (selectVersions_of_sorted hdistinct project includeHistory).trans
      (map_selectVersions SourceEntry.row (fun _ => rfl) project includeHistory _).symm
  simp only [SQLiteStore.listSources, SQLiteStore.rows, hverify, ok_bind, pure, Except.pure, hselect]
  rw [traverse_map]
  exact traverse_ok _ fun e he => h.recordFromRow (mem_of_mem_selectVersions he)

theorem Holds.canonicalFingerprint {s : SQLiteStore} {recs : List SourceRecord} (h : s.Holds recs) (hs : s.Readable) :
    s.canonicalFingerprint = .ok (Catalog.fingerprint recs) := by
  rw [SQLiteStore.canonicalFingerprint, h.listSources hs, ok_bind, Catalog.sources, selectVersions_all, List.map_map]
  simp only [Function.comp_def, Catalog.withContent, List.map_id']
  rfl

end SQLiteStore

end

end Pmiri
