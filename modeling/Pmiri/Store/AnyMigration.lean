import Pmiri.Python.AnyRead
import Pmiri.Python.Order
import Pmiri.Store.Migration

/-!
# Migrations of any content

The index of a local store may hold any JSON, and its entries values of every
kind. What cannot be hashed, sorted or read raises before the database is made;
what lists is registered field by field as it is, and a field that SQLite does
not bind, a name that is no text or metadata that are no dictionary raise in the
middle of the copy.
-/

namespace Pmiri

open Py

/-! ## What the source lists -/

/-- The files of a local store: reading the index, if it is there, and reading a file of the directory of blobs gives bytes or
raises. -/
structure LocalFiles where
  index : Option (Except Exc ByteArray)
  blob : String → Except Exc ByteArray

/-- A listed record, as far as it is registered again. -/
structure ListedRecord where
  projectId : Val
  sourceName : Val
  captureTime : Val
  metadata : Val
  content : String

/-- `item[key]`, for an item that may not be a dictionary. -/
def subscript (item : Val) (key : String) : Except Exc Val :=
  match item.asDict with
  | some d => d.item key
  | none => .error (.typeError "object is not subscriptable")

/-- `(item["project_id"], item["source_id"], item["version_id"])` -/
def listingKey (item : Val) : Except Exc (List Val) := traverse (subscript item) ["project_id", "source_id", "version_id"]

/-- One step of a sort by keys that may not compare. -/
def insertKeyed {α : Type} (x : List Val × α) : List (List Val × α) → Except Exc (List (List Val × α))
  | [] => .ok [x]
  | y :: ys => do
    if ← Val.ltList y.1 x.1 then return y :: (← insertKeyed x ys) else return x :: y :: ys

/-- `xs.sort(key=…)`, of items with their keys. Whichever pairs a sort compares, among keys that do not all compare it comes to
two that do not. -/
def sortKeyed {α : Type} : List (List Val × α) → Except Exc (List (List Val × α))
  | [] => .ok []
  | x :: xs => do insertKeyed x (← sortKeyed xs)

namespace LocalFiles

variable [Runtime] [FloatText]

omit [Runtime] in
/-- `_read_index`: the index and its sources. -/
def readIndex (f : LocalFiles) : Except Exc (AnyVal × List AnyVal) :=
  match f.index with
  | none => .ok (.ofItems [("format", .lit "pmiri-s0"), ("version", .int 1), ("sources", .list [])], [])
  | some content =>
    match content >>= anyLoadsBytes with
    | .error e => .error (if isUnreadable e then valueError "store_index_invalid" else e)
    | .ok data => do
      let format ← data.getDOf "format" .none
      let sources ← data.getDOf "sources" .none
      match format, sources with
      | .str s, .list xs =>
        if s = .ofString "pmiri-s0" then return (data, xs) else .error (valueError "store_index_schema_invalid")
      | _, _ => .error (valueError "store_index_schema_invalid")

/-- `_record_from_dict` -/
def recordFromDict (f : LocalFiles) (item : Val) : Except Exc ListedRecord := do
  let fingerprint ← subscript item "content_fingerprint"
  match f.blob (fingerprint.toStr ++ ".txt") with
  | .error e => .error (if isUnreadable e then valueError "source_blob_missing_or_invalid" else e)
  | .ok raw =>
    match String.fromUTF8? raw with
    | none => .error (valueError "source_blob_missing_or_invalid")
    | some content => do
      raiseIf (!fingerprint.eq (.str (sha256Bytes raw))) (valueError "source_blob_fingerprint_mismatch")
      let _ ← traverse (subscript item) ["source_id", "version_id"]
      let projectId ← subscript item "project_id"
      let sourceName ← subscript item "source_name"
      let captureTime ← subscript item "capture_time"
      return {
        projectId, sourceName, captureTime, content
        metadata := (item.asDict.getD .empty).getD "metadata" (.dict []) }

/-- `list_sources(include_history=True)`, of sources that can be written. -/
def listSources (f : LocalFiles) (items : List Val) : Except Exc (List ListedRecord) := do
  let keyed ← traverse (fun item => (listingKey item).map fun key => (key, item)) items
  let sorted ← sortKeyed keyed
  traverse f.recordFromDict (sorted.map Prod.snd)

/-- What `migrate_from_local_store` reads: the fingerprint first, which takes an index that can be written. -/
def read (f : LocalFiles) : Except Exc (String × List ListedRecord) := do
  let (index, items) ← f.readIndex
  let fingerprint ← sha256Any index
  let records ← f.listSources (items.map AnyVal.toVal)
  return (fingerprint, records)

end LocalFiles

theorem exists_traverse {α β : Type} {f : α → Except Exc β} {xs : List α} (h : ∀ x ∈ xs, ∃ y, f x = .ok y) :
    ∃ ys, traverse f xs = .ok ys := by
  induction xs with
  | nil => exact ⟨[], rfl⟩
  | cons x xs ih =>
    obtain ⟨⟨y, hy⟩, hxs⟩ := List.forall_mem_cons.mp h
    obtain ⟨ys, hys⟩ := ih hxs
    exact ⟨y :: ys, by rw [traverse, hy, ok_bind, hys, ok_bind]; rfl⟩

/-! ## Registering it -/

/-- `dict([…, x, …])` takes a pair. -/
def pairOf (x : Val) : Except Exc (Val × Val) := do
  match ← x.elements with
  | [k, v] => if k.hashable then return (k, v) else .error (.typeError "unhashable type")
  | _ => .error (.valueError "ValueError" "dictionary update sequence element has the wrong length")

/-- `dict(v)` -/
def pairsOf (v : Val) : Except Exc (List (Val × Val)) :=
  match v with
  | .dict items => .ok (items.map fun kv => (.str kv.1, kv.2))
  | v => do traverse pairOf (← v.elements)

/-- The dictionary of the pairs, if its keys and values are all strings. A later value of a key replaces an earlier one. -/
def stringMap (pairs : List (Val × Val)) : Option Dict :=
  if pairs.all fun kv => kv.1.isStr then
    let metadata := Dict.ofItems (pairs.map fun kv => (kv.1.strText, kv.2))
    if isStringMap metadata then some metadata else none
  else none

/-- What SQLite makes of a number that is put into a column of texts. -/
class SqliteText where
  real : Double → String

/-- The integers of SQLite. -/
def MIN_INTEGER : Int := -9223372036854775808
def MAX_INTEGER : Int := 9223372036854775807

/-- What a column of texts holds of a value: lists and dictionaries and integers beyond 64 bits are not bound. `None` is
replaced or refused before. -/
def columnText [SqliteText] (v : Val) : Except Exc String :=
  match v with
  | .str s => .ok s
  | .bool b => .ok (if b then "1" else "0")
  | .int i => 
    if MIN_INTEGER ≤ i ∧ i ≤ MAX_INTEGER then .ok (toString i)
    else .error (.overflowError "Python int too large to convert to SQLite INTEGER")
  | .float f => .ok (SqliteText.real f)
  | .none | .list _ | .dict _ => .error (.databaseError "type is not supported")

/-- SQLite binds the value. -/
def bindable (v : Val) : Bool :=
  match v with
  | .str _ | .bool _ | .float _ => true
  | .int i => decide (MIN_INTEGER ≤ i ∧ i ≤ MAX_INTEGER)
  | .none | .list _ | .dict _ => false

theorem columnText_ok [SqliteText] {v : Val} : (∃ text, columnText v = .ok text) ↔ bindable v = true := by
  cases v with
  | int i =>
    rw [columnText, bindable, decide_eq_true_eq]
    split <;> rename_i h
    · exact iff_of_true ⟨_, rfl⟩ h
    · exact iff_of_false (fun ⟨_, he⟩ => by cases he) h
  | none | list _ | dict _ => exact iff_of_false (fun ⟨_, he⟩ => by cases he) Bool.false_ne_true
  | str _ | bool _ | float _ => exact iff_of_true ⟨_, rfl⟩ rfl

/-- `not project_id or not source_name or name_path.is_absolute() or ".." in name_path.parts`, negated -/
def anyIdentityValid (platform : Platform) (projectId : Val) (sourceName : String) : Bool :=
  let path := PurePath.ofText platform sourceName.toList
  projectId.truthy && sourceName != "" && !path.isAbsolute platform && !path.parts.contains ['.', '.']

/-- A record before it is inserted. -/
structure PreparedRecord where
  projectId : Val
  sourceName : String
  captureTime : Val
  metadata : Dict
  content : String

section

variable [Runtime]

/-- `_source_id` -/
def anySourceId (projectId : Val) (sourceName : String) : String :=
  "src_" ++ String.ofList ((sha256Json (Dict.ofItems [("project_id", projectId), ("source_name", .str sourceName)]).toVal).toList.take 32)

omit [Runtime] in
/-- What `register_bytes` makes of its arguments. -/
def ListedRecord.record (r : ListedRecord) (utcNow : { t : String // t ≠ "" }) (sourceName content : String) (metadata : Dict) :
    PreparedRecord where
  projectId := r.projectId
  sourceName := normalizeName sourceName
  captureTime := if r.captureTime.truthy then r.captureTime else .str utcNow
  metadata := metadata
  content := content

omit [Runtime] in
/-- The checks of `register_bytes`, with `dict(record.metadata)` before them. -/
def ListedRecord.prepared (r : ListedRecord) (platform : Platform) (utcNow : { t : String // t ≠ "" }) : Except Exc PreparedRecord := do
  let pairs ← pairsOf r.metadata
  match r.sourceName with
  | .str sourceName => do
    raiseIf (!anyIdentityValid platform r.projectId sourceName) (valueError "source_identity_invalid")
    let content ← normalizeText r.content.toUTF8
    match stringMap pairs with
    | none => .error (valueError "metadata_must_be_string_map")
    | some metadata => return r.record utcNow sourceName content metadata
  | _ => .error (.typeError "expected str, bytes or os.PathLike object")

/-- The row that is inserted. -/
def PreparedRecord.row [SqliteText] (p : PreparedRecord) : Except Exc SourceRow := do
  let projectId ← columnText p.projectId
  let captureTime ← columnText p.captureTime
  let fingerprint := sha256Bytes p.content.toUTF8
  return {
    sourceId := anySourceId p.projectId p.sourceName
    versionId := "ver_" ++ fingerprint
    projectId := projectId
    sourceName := p.sourceName
    contentFingerprint := fingerprint
    captureTime := captureTime
    metadataJson := some p.metadata.sortKeys.toVal }

namespace SQLiteStore

variable [SqliteText]

/-- `self.register_bytes(record.project_id, …)` -/
def registerListed (s : SQLiteStore) (platform : Platform) (utcNow : { t : String // t ≠ "" }) (r : ListedRecord) :
    Except Exc Unit × SQLiteStore :=
  match r.prepared platform utcNow with
  | .error e => (.error e, s)
  | .ok p =>
    match s.database.ensureSchema with
    | .error e => (.error e, s)
    | .ok (blobs, rows) =>
      let fingerprint := sha256Bytes p.content.toUTF8
      match encrypted s.blobCipher fingerprint p.content.toUTF8 with
      | .error e => (.error e, { s with database := s.database.connected })
      | .ok stored =>
        match p.row with
        | .error e => (.error e, { s with database := s.database.connected })
        | .ok row => (.ok (), { s with database := .tables (insertBlob blobs fingerprint stored) (insertSource rows row) })

/-- `for record in records: self.register_bytes(…)` -/
def registerListing (s : SQLiteStore) (platform : Platform) (utcNow : { t : String // t ≠ "" }) :
    List ListedRecord → Except Exc Unit × SQLiteStore
  | [] => (.ok (), s)
  | r :: rs =>
    match s.registerListed platform utcNow r with
    | (.error e, s) => (.error e, s)
    | (.ok (), s) => registerListing s platform utcNow rs

/-- `migrate_from_local_store`, of what reading the source gives. -/
def migrateListing (s : SQLiteStore) (platform : Platform) (utcNow : { t : String // t ≠ "" })
    (read : Except Exc (String × List ListedRecord)) : Except Exc MigrationReport × SQLiteStore :=
  match s.database with
  | .absent =>
    match read with
    | .error e => (.error e, s)
    | .ok (sourceFingerprint, records) =>
      match s.initialized with
      | (.error e, s) => (.error e, s)
      | (.ok (), s) =>
        match s.registerListing platform utcNow records with
        | (.error e, s) => (.error e, s)
        | (.ok (), s) =>
          match s.canonicalFingerprint with
          | .error e => (.error e, s)
          | .ok targetFingerprint =>
            (.ok { sourceCount := records.length, sourceFingerprint, targetFingerprint }, s)
  | _ => (.error (valueError "migration_target_exists"), s)

/-- `migrate_from_local_store` -/
def migrateFiles [FloatText] (s : SQLiteStore) (platform : Platform) (utcNow : { t : String // t ≠ "" }) (source : LocalFiles) :
    Except Exc MigrationReport × SQLiteStore :=
  s.migrateListing platform utcNow source.read

end SQLiteStore

/-! ## Records of texts -/

/-- A record whose fields are texts, as a listing of any values has it. -/
def SourceRecord.listed (r : SourceRecord) : ListedRecord where
  projectId := .str r.projectId
  sourceName := .str r.sourceName
  captureTime := .str r.captureTime
  metadata := r.metadata.toVal
  content := r.content

omit [Runtime] in
theorem stringMap_toVal (d : Dict) : stringMap (d.items.map fun kv => (.str kv.1, kv.2)) = if isStringMap d then some d else none := by
  have hkeys : ((d.items.map fun kv => (Val.str kv.1, kv.2)).all fun kv => kv.1.isStr) = true :=
    List.all_eq_true.mpr (List.forall_mem_map.mpr fun _ _ => rfl)
  have hitems : (d.items.map fun kv => (Val.str kv.1, kv.2)).map (fun kv => (kv.1.strText, kv.2)) = d.items := by
    rw [List.map_map]
    exact List.map_id _
  have hmetadata : Dict.ofItems d.items = d := Dict.ext (Dict.ofItems_items d.nodup)
  rw [stringMap, if_pos hkeys, hitems, hmetadata]

omit [Runtime] in
theorem prepared_listed (r : SourceRecord) (platform : Platform) (utcNow : { t : String // t ≠ "" }) :
    r.listed.prepared platform utcNow = do
      raiseIf (!identityValid platform r.projectId r.sourceName) (valueError "source_identity_invalid")
      let content ← normalizeText r.content.toUTF8
      raiseIf (!isStringMap r.metadata) (valueError "metadata_must_be_string_map")
      return r.listed.record utcNow r.sourceName content r.metadata := by
  have hidentity : anyIdentityValid platform (.str r.projectId) r.sourceName = identityValid platform r.projectId r.sourceName := rfl
  unfold ListedRecord.prepared
  simp only [SourceRecord.listed, Dict.toVal, pairsOf, ok_bind, stringMap_toVal, hidentity]
  rcases identityValid platform r.projectId r.sourceName with _ | _
  · rfl
  rcases normalizeText r.content.toUTF8 with e | content
  · rfl
  cases isStringMap r.metadata <;> rfl

omit [Runtime] in
theorem record_listed (r : SourceRecord) (utcNow : { t : String // t ≠ "" }) (content : String) :
    r.listed.record utcNow r.sourceName content r.metadata = {
      projectId := .str r.projectId, sourceName := normalizeName r.sourceName
      captureTime := .str (if r.captureTime = "" then utcNow else r.captureTime), metadata := r.metadata, content := content } := by
  have htime : (if (Val.str r.captureTime).truthy then Val.str r.captureTime else .str utcNow) =
      .str (if r.captureTime = "" then utcNow else r.captureTime) := by
    by_cases h : r.captureTime = "" <;> simp [Val.truthy, h]
  exact congrArg (fun time => PreparedRecord.mk (.str r.projectId) (normalizeName r.sourceName) time r.metadata content) htime

namespace SQLiteStore

variable [SqliteText]

/-- A record of texts is registered as `registerBytes` registers it. -/
theorem registerListed_listed (s : SQLiteStore) (platform : Platform) (utcNow : { t : String // t ≠ "" }) (r : SourceRecord) :
    s.registerListed platform utcNow r.listed =
      ((s.registerBytes (migrationCall platform utcNow r)).1.map fun _ => (), (s.registerBytes (migrationCall platform utcNow r)).2) := by
  unfold registerListed registerBytes
  rw [prepared_listed, RegisterCall.checked]
  simp only [migrationCall]
  rcases identityValid platform r.projectId r.sourceName with _ | _
  · rfl
  rcases normalizeText r.content.toUTF8 with e | content
  · rfl
  simp only [Bool.not_true, raiseIf, Bool.false_eq_true, ↓reduceIte, ok_bind, RegisterCall.record, record_listed, pure, Except.pure,
    Option.getD_some]
  cases isStringMap r.metadata with
  | false => rfl
  | true =>
    simp only [Bool.not_true, Bool.false_eq_true, ↓reduceIte, ok_bind]
    rcases s.database.ensureSchema with e | ⟨blobs, rows⟩
    · rfl
    dsimp only
    rcases encrypted s.blobCipher (sha256Bytes content.toUTF8) content.toUTF8 with e | stored
    · rfl
    · rfl

theorem registerListing_listed (s : SQLiteStore) (platform : Platform) (utcNow : { t : String // t ≠ "" }) (rs : List SourceRecord) :
    s.registerListing platform utcNow (rs.map SourceRecord.listed) = s.registerAll (rs.map (migrationCall platform utcNow)) := by
  induction rs generalizing s with
  | nil => rfl
  | cons r rs ih =>
    rw [List.map_cons, List.map_cons, registerListing, registerAll, registerListed_listed]
    rcases s.registerBytes (migrationCall platform utcNow r) with ⟨e | record, s'⟩
    · rfl
    · exact ih s'

/-- A migration of records of texts is the one of `migrateFromLocalStore`. -/
theorem migrateListing_listed (s : SQLiteStore) (platform : Platform) (utcNow : { t : String // t ≠ "" }) (source : LocalStore) :
    s.migrateListing platform utcNow ((readSource source).map fun x => (x.1, x.2.map SourceRecord.listed)) =
      s.migrateFromLocalStore platform utcNow source := by
  unfold migrateListing migrateFromLocalStore
  rcases s.database with _ | _ | _ | _ | _
  case absent =>
    rcases readSource source with e | ⟨fingerprint, records⟩
    · rfl
    · rcases s.initialized with ⟨e | _, s'⟩
      · rfl
      have hlisting := registerListing_listed s' platform utcNow records
      rcases hregister : s'.registerAll (records.map (migrationCall platform utcNow)) with ⟨e | _, s''⟩
      · simp only [Except.map, hlisting, hregister]
      · cases hfingerprint : s''.canonicalFingerprint
        all_goals simp only [Except.map, hlisting, hregister, hfingerprint, List.length_map]
  all_goals rfl

end SQLiteStore

/-! ## What can be registered -/

/-- A listed record that can be registered: its metadata make a dictionary of strings, its name is a text that is valid as it
stands, its project and its capture time are bound, and its content can be encrypted. -/
structure Registrable (platform : Platform) (cipher : Option BlobCipher) (r : ListedRecord) : Prop where
  metadata : ∃ pairs metadata, pairsOf r.metadata = .ok pairs ∧ stringMap pairs = some metadata
  name : ∃ sourceName, r.sourceName = .str sourceName ∧ anyIdentityValid platform r.projectId sourceName = true
  project : bindable r.projectId = true
  captured : r.captureTime.truthy = true → bindable r.captureTime = true
  encrypts : ∃ content stored, normalizeText r.content.toUTF8 = .ok content ∧
    encrypted cipher (sha256Bytes content.toUTF8) content.toUTF8 = .ok stored

/-- Every record that the files list, if they can be read and listed, can be registered. -/
def AllRegistrable [FloatText] (platform : Platform) (cipher : Option BlobCipher) (source : LocalFiles) : Prop :=
  ∀ x, source.read = .ok x → ∀ r ∈ x.2, Registrable platform cipher r

omit [Runtime] in
theorem prepared_ok {r : ListedRecord} {platform : Platform} {utcNow : { t : String // t ≠ "" }} {p : PreparedRecord} :
    r.prepared platform utcNow = .ok p ↔
      ∃ pairs sourceName content metadata, pairsOf r.metadata = .ok pairs ∧ r.sourceName = .str sourceName ∧
        anyIdentityValid platform r.projectId sourceName = true ∧ normalizeText r.content.toUTF8 = .ok content ∧
        stringMap pairs = some metadata ∧ p = r.record utcNow sourceName content metadata := by
  unfold ListedRecord.prepared
  rw [bind_ok]
  constructor
  · rintro ⟨pairs, hpairs, h⟩
    split at h
    · rename_i sourceName hname
      obtain ⟨hidentity, h⟩ := seq_ok.mp h
      obtain ⟨content, hcontent, h⟩ := bind_ok.mp h
      split at h
      · cases h
      · rename_i metadata hmetadata
        exact ⟨pairs, sourceName, content, metadata, hpairs, hname, by simpa using hidentity, hcontent, hmetadata, (Except.ok.inj h).symm⟩
    · cases h
  · rintro ⟨pairs, sourceName, content, metadata, hpairs, hname, hidentity, hcontent, hmetadata, rfl⟩
    refine ⟨pairs, hpairs, ?_⟩
    simp only [hname, hidentity, Bool.not_true, hmetadata]
    exact seq_ok.mpr ⟨rfl, bind_ok.mpr ⟨content, hcontent, rfl⟩⟩

variable [SqliteText]

theorem row_ok {p : PreparedRecord} : (∃ row, p.row = .ok row) ↔ bindable p.projectId = true ∧ bindable p.captureTime = true := by
  rw [← columnText_ok, ← columnText_ok, PreparedRecord.row]
  constructor
  · rintro ⟨row, h⟩
    obtain ⟨project, hproject, h⟩ := bind_ok.mp h
    obtain ⟨captured, hcaptured, -⟩ := bind_ok.mp h
    exact ⟨⟨project, hproject⟩, captured, hcaptured⟩
  · rintro ⟨⟨project, hproject⟩, captured, hcaptured⟩
    exact ⟨_, bind_ok.mpr ⟨project, hproject, bind_ok.mpr ⟨captured, hcaptured, rfl⟩⟩⟩

/-- The row holds what was prepared. -/
theorem row_eq {p : PreparedRecord} {row : SourceRow} (h : p.row = .ok row) :
    row.contentFingerprint = sha256Bytes p.content.toUTF8 ∧ row.metadataJson = some p.metadata.sortKeys.toVal := by
  obtain ⟨project, -, h⟩ := bind_ok.mp h
  obtain ⟨captured, -, h⟩ := bind_ok.mp h
  obtain rfl := Except.ok.inj h
  exact ⟨rfl, rfl⟩

omit [Runtime] [SqliteText] in
theorem isStringMap_prepared {r : ListedRecord} {platform : Platform} {utcNow : { t : String // t ≠ "" }} {p : PreparedRecord}
    (h : r.prepared platform utcNow = .ok p) : isStringMap p.metadata = true := by
  obtain ⟨pairs, -, -, metadata, -, -, -, -, hmetadata, rfl⟩ := prepared_ok.mp h
  rw [stringMap] at hmetadata
  split at hmetadata
  · dsimp only at hmetadata
    split at hmetadata
    · rename_i hstrings
      obtain rfl := Option.some.inj hmetadata
      exact hstrings
    · cases hmetadata
  · cases hmetadata

/-- What a registration goes through. -/
structure RegistersListed (cipher : Option BlobCipher) (platform : Platform) (utcNow : { t : String // t ≠ "" }) (r : ListedRecord)
    (p : PreparedRecord) (stored : ByteArray) (row : SourceRow) : Prop where
  prepared : r.prepared platform utcNow = .ok p
  encrypted : encrypted cipher (sha256Bytes p.content.toUTF8) p.content.toUTF8 = .ok stored
  row : p.row = .ok row

theorem registrable_iff {cipher : Option BlobCipher} {platform : Platform} (utcNow : { t : String // t ≠ "" }) {r : ListedRecord} :
    Registrable platform cipher r ↔ ∃ p stored row, RegistersListed cipher platform utcNow r p stored row := by
  have hcaptured : bindable (if r.captureTime.truthy then r.captureTime else .str utcNow) = true ↔
      (r.captureTime.truthy = true → bindable r.captureTime = true) := by
    split <;> rename_i h <;> simp [h, bindable]
  constructor
  · intro h
    obtain ⟨pairs, metadata, hpairs, hmetadata⟩ := h.metadata
    obtain ⟨sourceName, hname, hidentity⟩ := h.name
    obtain ⟨content, stored, hcontent, hstored⟩ := h.encrypts
    have hp : r.prepared platform utcNow = .ok (r.record utcNow sourceName content metadata) :=
      prepared_ok.mpr ⟨pairs, sourceName, content, metadata, hpairs, hname, hidentity, hcontent, hmetadata, rfl⟩
    obtain ⟨row, hrow⟩ : ∃ row, (r.record utcNow sourceName content metadata).row = .ok row :=
      row_ok.mpr ⟨h.project, hcaptured.mpr h.captured⟩
    exact ⟨_, stored, row, hp, hstored, hrow⟩
  · rintro ⟨p, stored, row, h⟩
    obtain ⟨pairs, sourceName, content, metadata, hpairs, hname, hidentity, hcontent, hmetadata, rfl⟩ := prepared_ok.mp h.prepared
    obtain ⟨hproject, hbound⟩ := row_ok.mp ⟨row, h.row⟩
    exact ⟨⟨pairs, metadata, hpairs, hmetadata⟩, ⟨sourceName, hname, hidentity⟩, hproject, hcaptured.mp hbound,
      content, stored, hcontent, h.encrypted⟩

/-! ## What the target holds -/

namespace SQLiteStore

/-- Every blob decrypts to a text with the fingerprint it is under. -/
def BlobsLegible (cipher : Option BlobCipher) (blobs : List (String × ByteArray)) : Prop :=
  ∀ fingerprint stored, blobs.lookup fingerprint = some stored →
    ∃ content : String, decrypted cipher fingerprint stored = .ok content.toUTF8 ∧ sha256Bytes content.toUTF8 = fingerprint

/-- The tables are there, and every row lists. -/
structure Legible (s : SQLiteStore) (blobs : List (String × ByteArray)) (rows : List SourceRow) : Prop where
  database : s.database = .tables blobs rows
  legible : BlobsLegible s.blobCipher blobs
  content : ∀ row ∈ rows, (blobs.lookup row.contentFingerprint).isSome = true
  metadata : ∀ row ∈ rows, ∃ d : Dict, row.metadataJson = some d.toVal ∧ isStringMap d = true

omit [SqliteText] in
theorem legible_initialized (cipher : Option BlobCipher) : Legible ⟨.tables [] [], cipher⟩ [] [] :=
  ⟨rfl, nofun, nofun, nofun⟩

omit [SqliteText] in
theorem Legible.canonicalFingerprint {s : SQLiteStore} {blobs : List (String × ByteArray)} {rows : List SourceRow}
    (h : s.Legible blobs rows) : ∃ fingerprint, s.canonicalFingerprint = .ok fingerprint := by
  have hverify : s.database.verifySchema = .ok (blobs, rows) := by rw [h.database]; rfl
  have hrecord : ∀ row ∈ rows, ∃ record, s.recordFromRow row = .ok record := by
    intro row hrow
    obtain ⟨stored, hstored⟩ := Option.isSome_iff_exists.mp (h.content row hrow)
    obtain ⟨content, hdecrypted, hfingerprint⟩ := h.legible row.contentFingerprint stored hstored
    obtain ⟨d, hd, hstrings⟩ := h.metadata row hrow
    have hmetadata : row.metadata = .ok d := by
      rw [SourceRow.metadata, hd, Option.bind_some, Val.asDict_toVal]
      exact if_pos hstrings
    refine ⟨{ row with metadata := d, content := content }, ?_⟩
    simp only [recordFromRow, hverify, ok_bind, hstored, hdecrypted, hfingerprint, hmetadata, bne_self_eq_false, fromUTF8?_toUTF8]
    rfl
  have hlist : ∃ records, s.listSources none true = .ok records := by
    have hrows : s.rows none = .ok (sortVersions SourceRow.toSourceVersion rows) := by
      simp [SQLiteStore.rows, hverify, ofProject, SourceVersion.inProject, pure, Except.pure]
    rw [SQLiteStore.listSources, hrows, ok_bind]
    refine exists_traverse fun row hrow => hrecord row ?_
    simpa [sortVersions] using hrow
  obtain ⟨records, hrecords⟩ := hlist
  exact ⟨_, bind_ok.mpr ⟨records, hrecords, rfl⟩⟩

omit [SqliteText] in
theorem blobsLegible_insert {cipher : Option BlobCipher} {blobs : List (String × ByteArray)} (h : BlobsLegible cipher blobs)
    {content : String} {stored : ByteArray}
    (hs : encrypted cipher (sha256Bytes content.toUTF8) content.toUTF8 = .ok stored) :
    BlobsLegible cipher (insertBlob blobs (sha256Bytes content.toUTF8) stored) := by
  intro fingerprint stored' hlookup
  rw [insertBlob] at hlookup
  split at hlookup
  · exact h fingerprint stored' hlookup
  · rw [List.lookup_append, Option.or_eq_some_iff] at hlookup
    rcases hlookup with hold | ⟨-, hnew⟩
    · exact h fingerprint stored' hold
    · rw [List.lookup_cons] at hnew
      split at hnew
      · rename_i heq
        obtain rfl : fingerprint = sha256Bytes content.toUTF8 := beq_iff_eq.mp heq
        obtain rfl : stored = stored' := Option.some.inj hnew
        exact ⟨content, decrypted_encrypted rfl hs, rfl⟩
      · cases hnew

omit [Runtime] [SqliteText] in
theorem lookup_insertBlob {blobs : List (String × ByteArray)} {fingerprint key : String} {stored : ByteArray}
    (h : key = fingerprint ∨ (blobs.lookup key).isSome = true) : ((insertBlob blobs fingerprint stored).lookup key).isSome = true := by
  rw [insertBlob]
  split <;> rename_i hold
  · rcases h with rfl | h
    exacts [hold, h]
  · rw [List.lookup_append, Option.isSome_or, Bool.or_eq_true]
    rcases h with rfl | h
    · exact .inr (by rw [List.lookup_cons_self]; rfl)
    · exact .inl h

/-- A registration that goes through leaves a target that lists. -/
theorem Legible.register {s : SQLiteStore} {blobs : List (String × ByteArray)} {rows : List SourceRow} (h : s.Legible blobs rows)
    {platform : Platform} {utcNow : { t : String // t ≠ "" }} {r : ListedRecord} {p : PreparedRecord} {stored : ByteArray}
    {row : SourceRow} (hr : RegistersListed s.blobCipher platform utcNow r p stored row) :
    ∃ s' blobs' rows', s.registerListed platform utcNow r = (.ok (), s') ∧ s'.blobCipher = s.blobCipher ∧ s'.Legible blobs' rows' := by
  have hschema : s.database.ensureSchema = .ok (blobs, rows) := by rw [h.database]; rfl
  refine ⟨{ s with database := .tables (insertBlob blobs (sha256Bytes p.content.toUTF8) stored) (insertSource rows row) }, _, _,
    ?_, rfl, rfl, blobsLegible_insert h.legible hr.encrypted, ?_, ?_⟩
  · simp only [registerListed, hr.prepared, hschema, hr.encrypted, hr.row]
  · intro x hx
    refine lookup_insertBlob ?_
    rcases Keyed.mem_of_mem_add _ hx with hx | rfl
    · exact .inr (h.content x hx)
    · exact .inl (row_eq hr.row).1
  · intro x hx
    rcases Keyed.mem_of_mem_add _ hx with hx | rfl
    · exact h.metadata x hx
    · exact ⟨_, (row_eq hr.row).2, isStringMap_sortKeys (isStringMap_prepared hr.prepared)⟩

/-- A registration that does not go through leaves the tables. -/
theorem Legible.register_error {s : SQLiteStore} {blobs : List (String × ByteArray)} {rows : List SourceRow} (h : s.Legible blobs rows)
    {platform : Platform} (utcNow : { t : String // t ≠ "" }) {r : ListedRecord} (hr : ¬ Registrable platform s.blobCipher r) :
    ∃ e s', s.registerListed platform utcNow r = (.error e, s') ∧ s'.database ≠ .absent := by
  have hschema : s.database.ensureSchema = .ok (blobs, rows) := by rw [h.database]; rfl
  have htables : s.database ≠ .absent := by rw [h.database]; exact Database.noConfusion
  have hconnected : s.database.connected ≠ .absent := by rw [h.database]; exact Database.noConfusion
  unfold registerListed
  rcases hp : r.prepared platform utcNow with e | p
  · exact ⟨e, s, rfl, htables⟩
  rcases hs : encrypted s.blobCipher (sha256Bytes p.content.toUTF8) p.content.toUTF8 with e | stored
  · refine ⟨e, { s with database := s.database.connected }, ?_, hconnected⟩
    simp only [hschema, hs]
  rcases hrow : p.row with e | row
  · refine ⟨e, { s with database := s.database.connected }, ?_, hconnected⟩
    simp only [hschema, hs, hrow]
  · exact absurd ((registrable_iff utcNow).mpr ⟨p, stored, row, hp, hs, hrow⟩) hr

/-! ## The loop -/

theorem Legible.registerListing {s : SQLiteStore} {blobs : List (String × ByteArray)} {rows : List SourceRow} (h : s.Legible blobs rows)
    {platform : Platform} (utcNow : { t : String // t ≠ "" }) {rs : List ListedRecord}
    (hall : ∀ r ∈ rs, Registrable platform s.blobCipher r) :
    ∃ s' blobs' rows', s.registerListing platform utcNow rs = (.ok (), s') ∧ s'.Legible blobs' rows' := by
  induction rs generalizing s blobs rows with
  | nil => exact ⟨s, blobs, rows, rfl, h⟩
  | cons r rs ih =>
    obtain ⟨hr, hrs⟩ := List.forall_mem_cons.mp hall
    obtain ⟨p, stored, row, hr⟩ := (registrable_iff utcNow).mp hr
    obtain ⟨s', blobs', rows', hregister, hcipher, h'⟩ := h.register hr
    rw [SQLiteStore.registerListing, hregister]
    exact ih h' (hcipher ▸ hrs)

theorem Legible.registerListing_error {s : SQLiteStore} {blobs : List (String × ByteArray)} {rows : List SourceRow}
    (h : s.Legible blobs rows) {platform : Platform} (utcNow : { t : String // t ≠ "" }) {rs : List ListedRecord} {r : ListedRecord}
    (hmem : r ∈ rs) (hr : ¬ Registrable platform s.blobCipher r) :
    ∃ e s', s.registerListing platform utcNow rs = (.error e, s') ∧ s'.database ≠ .absent := by
  induction rs generalizing s blobs rows with
  | nil => cases hmem
  | cons r' rs ih =>
    rw [SQLiteStore.registerListing]
    by_cases hr' : Registrable platform s.blobCipher r'
    · obtain ⟨p, stored, row, hregisters⟩ := (registrable_iff utcNow).mp hr'
      obtain ⟨s', blobs', rows', hregister, hcipher, h'⟩ := h.register hregisters
      rw [hregister]
      refine ih h' ?_ (hcipher ▸ hr)
      rcases List.mem_cons.mp hmem with rfl | hmem
      · exact absurd hr' hr
      · exact hmem
    · obtain ⟨e, s', hregister, hd⟩ := h.register_error utcNow hr'
      rw [hregister]
      exact ⟨e, s', rfl, hd⟩

end SQLiteStore

variable [FloatText]

/-- A migration that raises leaves no database exactly if everything that its
source lists can be registered. -/
theorem leaves_nothing_iff (platform : Platform) (cipher : Option BlobCipher) (utcNow : { t : String // t ≠ "" })
    (source : LocalFiles) :
    (∀ e, ((newStore cipher).migrateFiles platform utcNow source).1 = .error e →
      ((newStore cipher).migrateFiles platform utcNow source).2.database = .absent) ↔ AllRegistrable platform cipher source := by
  have hinit : (newStore cipher).initialized = (.ok (), ⟨.tables [] [], cipher⟩) := initialized_newStore cipher
  have hlegible := SQLiteStore.legible_initialized cipher
  unfold SQLiteStore.migrateFiles SQLiteStore.migrateListing AllRegistrable
  simp only [show (newStore cipher).database = .absent from rfl]
  rcases source.read with e | x
  · exact iff_of_true (fun _ _ => rfl) nofun
  obtain ⟨fingerprint, records⟩ := x
  simp only [hinit, Except.ok.injEq, forall_eq']
  by_cases hall : ∀ r ∈ records, Registrable platform cipher r
  · obtain ⟨s', blobs, rows, hregister, h⟩ := hlegible.registerListing utcNow hall
    obtain ⟨target, htarget⟩ := h.canonicalFingerprint
    simp only [hregister, htarget]
    exact iff_of_true (fun _ he => by cases he) hall
  · obtain ⟨r, hmem, hr⟩ : ∃ r ∈ records, ¬ Registrable platform cipher r := by
      simpa only [not_forall, exists_prop] using hall
    obtain ⟨e, s', hregister, hd⟩ := hlegible.registerListing_error utcNow hmem hr
    simp only [hregister]
    exact iff_of_false (fun h => hd (h e rfl)) hall

/-- A migration of a local store that was filled by registrations succeeds
with equal fingerprints exactly if every record that is listed can be
registered again, and a migration of any files that raises leaves no database
behind exactly if everything that they list can be registered. -/
theorem migration_iff (platform : Platform) (cipher : Option BlobCipher) (utcNow : { t : String // t ≠ "" }) :
    (∀ calls, (∃ report, ((newStore cipher).migrateFromLocalStore platform utcNow (LocalStore.after calls)).1 = .ok report ∧
      report.targetFingerprint = report.sourceFingerprint) ↔ AllMigratable platform cipher (LocalStore.after calls)) ∧
    ∀ source, (∀ e, ((newStore cipher).migrateFiles platform utcNow source).1 = .error e →
      ((newStore cipher).migrateFiles platform utcNow source).2.database = .absent) ↔ AllRegistrable platform cipher source :=
  ⟨fun calls => migrates_iff (LocalStore.holds_after calls), leaves_nothing_iff platform cipher utcNow⟩

end

end Pmiri
