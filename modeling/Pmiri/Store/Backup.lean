import Pmiri.Store.Currency

/-!
# Backups

`store.py`: `backup_to` takes the fingerprint of its source, copies a
consistent snapshot of it and compares the fingerprint of the copy;
`restore_from_backup` backs up into a directory that is not there yet. Other
writers may commit before and after each of these steps.
-/

namespace Pmiri

open Py

def Database.exists : Database → Bool
  | .absent => false
  | _ => true

inductive BackupCall
  | backupTo
  | restoreFromBackup
deriving DecidableEq

def backupReport (sourceFingerprint backupFingerprint backupPath : String) : Dict :=
  .ofItems [("status", .str "BACKUP_VERIFIED"), ("source_fingerprint", .str sourceFingerprint),
    ("backup_fingerprint", .str backupFingerprint), ("backup_path", .str backupPath)]

def restoreReport (report : Dict) : Dict :=
  .ofItems [("status", .str "RESTORE_VERIFIED"), ("source_fingerprint", report.get "source_fingerprint"),
    ("restored_fingerprint", report.get "backup_fingerprint"), ("restore_path", report.get "backup_path")]

/-- What the call returns, from what `backup_to` does. -/
def BackupCall.report : BackupCall → Dict → Dict
  | .backupTo, report => report
  | .restoreFromBackup, report => restoreReport report

def BackupCall.verified : BackupCall → String
  | .backupTo => "BACKUP_VERIFIED"
  | .restoreFromBackup => "RESTORE_VERIFIED"

/-- How far a call has come. -/
inductive BackupPhase
  | requested
  | called
  | prepared
  | fingerprinted (sourceFingerprint : String)
  | copied (sourceFingerprint : String)
  | answered (outcome : Except Exc Dict)

/-- A call of `restore_from_backup` starts before the one of `backup_to` in it. -/
def BackupCall.start : BackupCall → BackupPhase
  | .backupTo => .called
  | .restoreFromBackup => .requested

section

variable [Runtime]

/-- The source and the destination of a call: its database, its path and if its
directory is there. -/
structure BackupState where
  call : BackupCall
  source : SQLiteStore
  destination : Database := .absent
  destinationPath : String := ""
  directory : Bool := false
  phase : BackupPhase := call.start

namespace BackupState

/-- `SQLiteStore(destination_root, blob_cipher=self.blob_cipher)` -/
def destinationStore (s : BackupState) : SQLiteStore := { database := s.destination, blobCipher := s.source.blobCipher }

def fail (s : BackupState) (msg : String) : BackupState := { s with phase := .answered (.error (valueError msg)) }

/-- The next step of the call. -/
def proceed (s : BackupState) : BackupState :=
  match s.phase with
  | .requested =>
    if !s.source.database.exists then s.fail "sqlite_backup_not_initialized"
    else if s.directory then s.fail "restore_destination_exists"
    else { s with phase := .called }
  | .called =>
    if !s.source.database.exists then s.fail "sqlite_store_not_initialized"
    else if s.destination.exists then s.fail "backup_destination_exists"
    else { s with directory := true, phase := .prepared }
  | .prepared =>
    match s.source.canonicalFingerprint with
    | .error e => { s with phase := .answered (.error e) }
    | .ok sourceFingerprint => { s with phase := .fingerprinted sourceFingerprint }
  | .fingerprinted sourceFingerprint => { s with destination := s.source.database, phase := .copied sourceFingerprint }
  | .copied sourceFingerprint =>
    match s.destinationStore.canonicalFingerprint with
    | .error e => { s with phase := .answered (.error e) }
    | .ok destinationFingerprint =>
      if sourceFingerprint != destinationFingerprint then s.fail "sqlite_backup_fingerprint_mismatch"
      else { s with phase := .answered (.ok (s.call.report
        (backupReport sourceFingerprint destinationFingerprint s.destinationPath))) }
  | .answered _ => s

end BackupState

/-- What happens to the source, or the next step of the call. -/
inductive BackupOp
  | initialized
  | write (call : RegisterCall)
  | proceed

namespace BackupState

def step (s : BackupState) : BackupOp → BackupState
  | .initialized => { s with source := s.source.initialized.2 }
  | .write call => { s with source := s.source.step call }
  | .proceed => s.proceed

/-- A call on a store that nothing was registered with yet. -/
def initial (call : BackupCall) (cipher : Option BlobCipher) (destination : Database) (destinationPath : String)
    (directory : Bool) : BackupState :=
  { call, source := { blobCipher := cipher }, destination, destinationPath, directory }

/-! ## All or nothing -/

/-- A call that returns has copied a committed state of the source. One that
raises leaves no destination behind: no database, and no directory that a
restore would take for an existing one. -/
def AllOrNothing (start : BackupState) (ops : List BackupOp) : Prop :=
  let s := Machine.run step start ops
  match s.phase with
  | .answered (.ok report) =>
    report.get "status" = .str s.call.verified ∧ ∃ committed, committed <+: ops ∧ ∃ records,
      (Machine.run step start committed).source.listSources none true = .ok records ∧
        s.destinationStore.listSources none true = .ok records
  | .answered (.error _) =>
    s.destination = start.destination ∧ (s.call = .restoreFromBackup → s.directory = start.directory)
  | _ => True

/-- A transaction that adds no version. -/
def AddsNothing (s : SQLiteStore) (call : RegisterCall) : Prop :=
  ∀ r, (s.registerBytes call).1 = .ok r →
    ∃ blobs rows, s.database = .tables blobs rows ∧ ∃ row ∈ rows, row.versionKey = r.versionKey

/-- Between fingerprint and copy no version is added, and a restore takes the
fingerprint of a source that has its tables. -/
def Undisturbed (s : BackupState) : BackupOp → Prop
  | .initialized => True
  | .write call => ∀ fingerprint, s.phase = .fingerprinted fingerprint → AddsNothing s.source call
  | .proceed => s.call = .restoreFromBackup → s.phase matches .prepared → s.source.Readable

/-- Two contents that the source has in the run have two fingerprints. -/
def CollisionFree (start : BackupState) (ops : List BackupOp) : Prop :=
  ∀ a b, a <+: ops → b <+: ops → ∀ fingerprint,
    (Machine.run step start a).source.canonicalFingerprint = .ok fingerprint →
    (Machine.run step start b).source.canonicalFingerprint = .ok fingerprint →
    (Machine.run step start a).source.listSources none true = (Machine.run step start b).source.listSources none true

/-! ## The source -/

@[simp] theorem proceed_source (s : BackupState) : s.proceed.source = s.source := by
  unfold proceed
  split <;> (try split) <;> (try split) <;> rfl

theorem proceed_destination {s : BackupState} (h : ∀ fingerprint, s.phase ≠ .fingerprinted fingerprint) :
    s.proceed.destination = s.destination := by
  unfold proceed
  split <;> (try split) <;> (try split) <;> first | rfl | exact absurd ‹_› (h _)

@[simp] theorem proceed_call (s : BackupState) : s.proceed.call = s.call := by
  unfold proceed
  split <;> (try split) <;> (try split) <;> rfl

end BackupState

/-- An initialization keeps what a store holds. -/
theorem SQLiteStore.Holds.initialized {s : SQLiteStore} {recs : List SourceRecord} (h : s.Holds recs) :
    s.initialized.2.Holds recs ∧ s.initialized.2.blobCipher = s.blobCipher ∧ ∃ blobs rows, s.initialized.2.database = .tables blobs rows := by
  obtain ⟨blobs, hschema, hblobs⟩ := h.ensureSchema
  simp only [SQLiteStore.initialized, hschema]
  exact ⟨⟨h.derived, h.strings, .inr ⟨blobs, rfl, hblobs⟩⟩, trivial, _, _, rfl⟩

/-- The database has its tables. -/
def SQLiteStore.HasTables (s : SQLiteStore) : Prop := ∃ blobs rows, s.database = .tables blobs rows

theorem SQLiteStore.HasTables.readable {s : SQLiteStore} (h : s.HasTables) : s.Readable := by
  obtain ⟨blobs, rows, h⟩ := h
  rw [Readable, h]
  exact Database.noConfusion

theorem SQLiteStore.HasTables.step {s : SQLiteStore} (h : s.HasTables) (c : RegisterCall) : (s.step c).HasTables := by
  obtain ⟨blobs, rows, h⟩ := h
  unfold SQLiteStore.step SQLiteStore.registerBytes
  simp only [h, Database.ensureSchema]
  split
  · exact ⟨blobs, rows, h⟩
  · split
    · exact ⟨blobs, rows, h⟩
    · split
      · exact ⟨blobs, rows, rfl⟩
      · exact ⟨_, _, rfl⟩

/-- A database that is there stays there. -/
theorem SQLiteStore.exists_step {s : SQLiteStore} (h : s.database.exists = true) (c : RegisterCall) :
    (s.step c).database.exists = true := by
  have hconnected : s.database.connected.exists = true := by cases s.database <;> rfl
  unfold SQLiteStore.step SQLiteStore.registerBytes
  split
  · exact h
  · split
    · exact h
    · split
      · exact h
      · split
        · exact hconnected
        · rfl

theorem SQLiteStore.exists_initialized {s : SQLiteStore} (h : s.database.exists = true) : s.initialized.2.database.exists = true := by
  unfold SQLiteStore.initialized
  split
  exacts [h, rfl]

/-- A database that is there holds its tables or none yet. -/
theorem SQLiteStore.Holds.tables {s : SQLiteStore} {recs : List SourceRecord} (h : s.Holds recs) (hs : s.database.exists = true)
    (hr : s.Readable) : s.HasTables := by
  rcases h.database with ⟨-, hd | hd⟩ | ⟨blobs, hd, -⟩
  · rw [hd] at hs
    cases hs
  · exact absurd hd hr
  · exact ⟨_, _, hd⟩

/-- Without its tables a database has no fingerprint. -/
theorem SQLiteStore.canonicalFingerprint_of_not_readable {s : SQLiteStore} (h : ¬ s.Readable) :
    s.canonicalFingerprint = .error (valueError "sqlite_schema_invalid") := by
  rw [Readable, not_not] at h
  rw [canonicalFingerprint, listSources, rows, h]
  rfl

namespace BackupState

/-- The registrations of other writers. -/
def writes (ops : List BackupOp) : List RegisterCall :=
  ops.filterMap fun op => match op with
    | .write call => some call
    | _ => none

/-- The records that are registered by then. -/
def recorded (cipher : Option BlobCipher) (ops : List BackupOp) : List SourceRecord := SQLiteStore.accepted cipher (writes ops)

theorem recorded_append (cipher : Option BlobCipher) (ops ops' : List BackupOp) :
    recorded cipher (ops ++ ops') = recorded cipher ops ++ recorded cipher ops' := by
  rw [recorded, writes, List.filterMap_append, SQLiteStore.accepted, List.filterMap_append]
  rfl

theorem prefix_recorded (cipher : Option BlobCipher) {a b : List BackupOp} (h : a <+: b) :
    recorded cipher a <+: recorded cipher b := by
  obtain ⟨c, rfl⟩ := h
  rw [recorded_append]
  exact List.prefix_append _ _

theorem recorded_write (cipher : Option BlobCipher) (c : RegisterCall) :
    recorded cipher [.write c] = (SQLiteStore.outcome cipher c).toOption.toList := by
  rw [recorded, show writes [.write c] = [c] from rfl, SQLiteStore.accepted_cons, SQLiteStore.accepted, List.filterMap_nil,
    List.append_nil]

theorem step_source {s : BackupState} {recs : List SourceRecord} (h : s.source.Holds recs) (op : BackupOp) :
    (s.step op).source.Holds (recs ++ recorded s.source.blobCipher [op]) ∧
      (s.step op).source.blobCipher = s.source.blobCipher ∧ (s.source.HasTables → (s.step op).source.HasTables) := by
  cases op with
  | initialized =>
    obtain ⟨hholds, hcipher, htables⟩ := h.initialized
    exact ⟨by rwa [show recorded s.source.blobCipher [.initialized] = [] from rfl, List.append_nil], hcipher, fun _ => htables⟩
  | write call =>
    exact ⟨recorded_write _ call ▸ (h.step call).1, (h.step call).2, fun ht => ht.step call⟩
  | proceed =>
    rw [show recorded s.source.blobCipher [.proceed] = [] from rfl, List.append_nil, step, proceed_source]
    exact ⟨h, rfl, id⟩

/-- A transaction adds nothing if the catalog is kept as it is. -/
theorem addsNothing_iff {s : SQLiteStore} {recs : List SourceRecord} (h : s.Holds recs) (ht : s.HasTables) (c : RegisterCall) :
    AddsNothing s c ↔ Catalog.kept (recs ++ recorded s.blobCipher [.write c]) = Catalog.kept recs := by
  obtain ⟨blobs, rows, ht⟩ := ht
  have hrows : rows = (Catalog.kept recs).map SourceEntry.row := by
    rcases h.database with ⟨-, hd | hd⟩ | ⟨blobs', hd, -⟩
    · rw [hd] at ht
      cases ht
    · rw [hd] at ht
      cases ht
    · exact (Database.tables.inj (ht.symm.trans hd)).2
  rw [AddsNothing, h.registerBytes_fst, recorded_write]
  rcases SQLiteStore.outcome s.blobCipher c with e | r
  · simp [Except.toOption]
  · have hkey : r.toSourceEntry.stored.versionKey = r.versionKey := rfl
    simp only [Except.toOption, Option.toList_some, Catalog.kept_concat]
    constructor
    · intro hnothing
      obtain ⟨blobs', rows', hd, row, hrow, hversion⟩ := hnothing r rfl
      obtain ⟨-, rfl⟩ := Database.tables.inj (ht.symm.trans hd)
      rw [hrows] at hrow
      obtain ⟨e, he, rfl⟩ := List.mem_map.mp hrow
      exact Keyed.add_of_mem _ he (hversion.trans hkey.symm)
    · intro hkept r' hr
      obtain rfl := Except.ok.inj hr
      refine ⟨blobs, rows, ht, ?_⟩
      by_contra hnew
      rw [Keyed.add_of_new] at hkept
      · exact absurd (congrArg List.length hkept) (by simp)
      · intro e he hversion
        exact hnew ⟨e.row, hrows ▸ List.mem_map_of_mem he, hversion.trans hkey⟩

variable {start : BackupState}

theorem run_source (h : start.source.Holds []) (ops : List BackupOp) :
    (Machine.run step start ops).source.Holds (recorded start.source.blobCipher ops) ∧
      (Machine.run step start ops).source.blobCipher = start.source.blobCipher := by
  induction ops using List.reverseRecOn with
  | nil => exact ⟨h, rfl⟩
  | append_singleton ops op ih =>
    obtain ⟨hholds, hcipher⟩ := ih
    obtain ⟨hholds', hcipher', -⟩ := step_source hholds op
    rw [hcipher] at hholds'
    rw [Machine.run_append, recorded_append]
    exact ⟨hholds', hcipher'.trans hcipher⟩

theorem prefix_kept (cipher : Option BlobCipher) {a b : List BackupOp} (h : a <+: b) :
    Catalog.kept (recorded cipher a) <+: Catalog.kept (recorded cipher b) :=
  Keyed.prefix_firsts _ ((prefix_recorded cipher h).map _)

/-- Where the tables are there, the fingerprint is that of the catalog. -/
theorem canonicalFingerprint_run (h : start.source.Holds []) {ops : List BackupOp}
    (ht : (Machine.run step start ops).source.HasTables) :
    (Machine.run step start ops).source.canonicalFingerprint = .ok (Catalog.fingerprint (recorded start.source.blobCipher ops)) :=
  (run_source h ops).1.canonicalFingerprint ht.readable

theorem listSources_run (h : start.source.Holds []) {ops : List BackupOp}
    (ht : (Machine.run step start ops).source.HasTables) :
    (Machine.run step start ops).source.listSources none true =
      .ok (Catalog.sources (recorded start.source.blobCipher ops) none true) :=
  (run_source h ops).1.listSources ht.readable none true

/-! ## The call -/

/-- The source is fingerprinted after `a` and copied after `b`. -/
structure Copied (start : BackupState) (ops a b : List BackupOp) (fingerprint : String) : Prop where
  absent : start.destination = .absent
  le : a <+: b
  le' : b <+: ops
  fingerprint : fingerprint = Catalog.fingerprint (recorded start.source.blobCipher a)
  tables : (Machine.run step start a).source.HasTables
  tables' : (Machine.run step start b).source.HasTables
  copy : (Machine.run step start ops).destination = (Machine.run step start b).source.database
  undisturbed : Machine.Along step Undisturbed start ops ↔
    Catalog.kept (recorded start.source.blobCipher b) = Catalog.kept (recorded start.source.blobCipher a)

structure Untouched (start : BackupState) (ops : List BackupOp) : Prop where
  destination : (Machine.run step start ops).destination = start.destination
  directory : (Machine.run step start ops).directory = start.directory
  undisturbed : Machine.Along step Undisturbed start ops

/-- There is a directory for the destination, and a restore has made it. -/
structure Prepared (start : BackupState) (ops : List BackupOp) : Prop where
  absent : start.destination = .absent
  fresh : start.call = .restoreFromBackup → start.directory = false
  destination : (Machine.run step start ops).destination = start.destination
  directory : (Machine.run step start ops).directory = true

/-- Where the call is after the run, and if it was undisturbed so far. -/
inductive Stage (start : BackupState) (ops : List BackupOp) : BackupPhase → Prop
  | requested (untouched : Untouched start ops) : Stage start ops .requested
  | called (untouched : Untouched start ops) (fresh : start.call = .restoreFromBackup → start.directory = false) :
      Stage start ops .called
  | prepared (prepared : Prepared start ops) (exists' : (Machine.run step start ops).source.database.exists = true)
      (undisturbed : Machine.Along step Undisturbed start ops) : Stage start ops .prepared
  | fingerprinted {fingerprint : String} {a : List BackupOp} (absent : start.destination = .absent) (le : a <+: ops)
      (eq : fingerprint = Catalog.fingerprint (recorded start.source.blobCipher a))
      (tables : (Machine.run step start a).source.HasTables) (tables' : (Machine.run step start ops).source.HasTables)
      (undisturbed : Machine.Along step Undisturbed start ops ↔
        Catalog.kept (recorded start.source.blobCipher ops) = Catalog.kept (recorded start.source.blobCipher a)) :
      Stage start ops (.fingerprinted fingerprint)
  | copied {fingerprint : String} {a b : List BackupOp} (copied : Copied start ops a b fingerprint) :
      Stage start ops (.copied fingerprint)
  | returned {report : Dict} {fingerprint : String} {a b : List BackupOp} (copied : Copied start ops a b fingerprint)
      (eq : fingerprint = Catalog.fingerprint (recorded start.source.blobCipher b))
      (status : report.get "status" = .str start.call.verified) : Stage start ops (.answered (.ok report))
  | refused {e : Exc} (untouched : Untouched start ops) : Stage start ops (.answered (.error e))
  | unread {e : Exc} (prepared : Prepared start ops)
      (undisturbed : Machine.Along step Undisturbed start ops ↔ start.call ≠ .restoreFromBackup) : Stage start ops (.answered (.error e))
  | mismatch {e : Exc} {fingerprint : String} {a b : List BackupOp} (copied : Copied start ops a b fingerprint)
      (ne : fingerprint ≠ Catalog.fingerprint (recorded start.source.blobCipher b)) : Stage start ops (.answered (.error e))

theorem undisturbed_concat {ops : List BackupOp} {op : BackupOp} : Machine.Along step Undisturbed start (ops ++ [op]) ↔
    Machine.Along step Undisturbed start ops ∧ Undisturbed (Machine.run step start ops) op := by
  rw [Machine.along_append]
  exact and_congr_right fun _ => and_iff_left trivial

theorem run_concat (ops : List BackupOp) (op : BackupOp) :
    Machine.run step start (ops ++ [op]) = (Machine.run step start ops).step op := by
  rw [Machine.run_append, Machine.run_cons, Machine.run_nil]

/-! Steps that leave the destination as it is. -/

section

variable {ops : List BackupOp} {op : BackupOp}

theorem Copied.concat {a b : List BackupOp} {fingerprint : String} (h : Copied start ops a b fingerprint)
    (hd : ((Machine.run step start ops).step op).destination = (Machine.run step start ops).destination)
    (hop : Undisturbed (Machine.run step start ops) op) : Copied start (ops ++ [op]) a b fingerprint where
  absent := h.absent
  le := h.le
  le' := h.le'.trans (List.prefix_append _ _)
  fingerprint := h.fingerprint
  tables := h.tables
  tables' := h.tables'
  copy := by rw [run_concat, hd, h.copy]
  undisturbed := by rw [undisturbed_concat, and_iff_left hop, h.undisturbed]

theorem Untouched.concat (h : Untouched start ops)
    (hd : ((Machine.run step start ops).step op).destination = (Machine.run step start ops).destination)
    (hdir : ((Machine.run step start ops).step op).directory = (Machine.run step start ops).directory)
    (hop : Undisturbed (Machine.run step start ops) op) : Untouched start (ops ++ [op]) where
  destination := by rw [run_concat, hd, h.destination]
  directory := by rw [run_concat, hdir, h.directory]
  undisturbed := undisturbed_concat.mpr ⟨h.undisturbed, hop⟩

theorem Prepared.concat (h : Prepared start ops)
    (hd : ((Machine.run step start ops).step op).destination = (Machine.run step start ops).destination)
    (hdir : ((Machine.run step start ops).step op).directory = (Machine.run step start ops).directory) :
    Prepared start (ops ++ [op]) where
  absent := h.absent
  fresh := h.fresh
  destination := by rw [run_concat, hd, h.destination]
  directory := by rw [run_concat, hdir, h.directory]

end

/-! A transaction of another writer. -/

theorem step_act {s : BackupState} {op : BackupOp} (hop : op ≠ .proceed) : (s.step op).phase = s.phase ∧
    (s.step op).destination = s.destination ∧ (s.step op).directory = s.directory ∧ (s.step op).call = s.call := by
  cases op with
  | initialized => exact ⟨rfl, rfl, rfl, rfl⟩
  | write call => exact ⟨rfl, rfl, rfl, rfl⟩
  | proceed => exact absurd rfl hop

theorem undisturbed_act {s : BackupState} {op : BackupOp} (hop : op ≠ .proceed)
    (hphase : ∀ fingerprint, s.phase ≠ .fingerprinted fingerprint) : Undisturbed s op := by
  cases op with
  | initialized => trivial
  | write call => exact fun fingerprint h => absurd h (hphase fingerprint)
  | proceed => exact absurd rfl hop

/-- While the source is fingerprinted, a transaction disturbs the call if it changes what is kept. -/
theorem undisturbed_iff (h : start.source.Holds []) {ops : List BackupOp} {op : BackupOp} (hop : op ≠ .proceed)
    (ht : (Machine.run step start ops).source.HasTables) {fingerprint : String}
    (hphase : (Machine.run step start ops).phase = .fingerprinted fingerprint) :
    Undisturbed (Machine.run step start ops) op ↔
      Catalog.kept (recorded start.source.blobCipher (ops ++ [op])) = Catalog.kept (recorded start.source.blobCipher ops) := by
  obtain ⟨hholds, hcipher⟩ := run_source h ops
  rw [recorded_append]
  cases op with
  | initialized => exact iff_of_true trivial (by rw [show recorded start.source.blobCipher [.initialized] = [] from rfl, List.append_nil])
  | write call =>
    rw [← hcipher, ← addsNothing_iff (hcipher ▸ hholds) ht]
    exact ⟨fun hw => hw fingerprint hphase, fun hw _ _ => hw⟩
  | proceed => exact absurd rfl hop

theorem Stage.act (hsource : start.source.Holds []) {ops : List BackupOp} {op : BackupOp} (hop : op ≠ .proceed)
    (h : Stage start ops (Machine.run step start ops).phase) :
    Stage start (ops ++ [op]) (Machine.run step start (ops ++ [op])).phase := by
  obtain ⟨hphase', hd, hdir, -⟩ := @step_act _ (Machine.run step start ops) op hop
  obtain ⟨-, -, htables⟩ := step_source (run_source hsource ops).1 op
  rw [run_concat, hphase']
  generalize hphase : (Machine.run step start ops).phase = phase at h
  have hquiet : (∀ fingerprint, phase ≠ .fingerprinted fingerprint) → Undisturbed (Machine.run step start ops) op :=
    fun hne => undisturbed_act hop (hphase ▸ hne)
  cases h with
  | requested untouched => exact .requested (untouched.concat hd hdir (hquiet nofun))
  | called untouched fresh => exact .called (untouched.concat hd hdir (hquiet nofun)) fresh
  | prepared prepared exists' undisturbed =>
    refine .prepared (prepared.concat hd hdir) ?_ (undisturbed_concat.mpr ⟨undisturbed, hquiet nofun⟩)
    rw [run_concat]
    cases op with
    | initialized => exact SQLiteStore.exists_initialized exists'
    | write call => exact SQLiteStore.exists_step exists' call
    | proceed => exact absurd rfl hop
  | @fingerprinted fingerprint a absent le eq tables tables' undisturbed =>
    refine .fingerprinted absent (le.trans (List.prefix_append _ _)) eq tables (run_concat ops op ▸ htables tables') ?_
    rw [undisturbed_concat, undisturbed, undisturbed_iff hsource hop tables' hphase]
    have hle := prefix_kept start.source.blobCipher le
    have hle' := prefix_kept start.source.blobCipher (List.prefix_append ops [op])
    constructor
    · rintro ⟨h, h'⟩
      rw [h', h]
    · intro h
      have hkept := hle.eq_of_length (le_antisymm hle.length_le (h ▸ hle'.length_le))
      exact ⟨hkept.symm, h.trans hkept⟩
  | copied copied => exact .copied (copied.concat hd (hquiet nofun))
  | returned copied eq status => exact .returned (copied.concat hd (hquiet nofun)) eq status
  | refused untouched => exact .refused (untouched.concat hd hdir (hquiet nofun))
  | unread prepared undisturbed =>
    exact .unread (prepared.concat hd hdir) (by rw [undisturbed_concat, and_iff_left (hquiet nofun), undisturbed])
  | mismatch copied ne => exact .mismatch (copied.concat hd (hquiet nofun)) ne

/-! A step of the call. -/

theorem undisturbed_proceed {s : BackupState} (hphase : s.phase ≠ .prepared) : Undisturbed s .proceed := by
  intro _ h
  cases hs : s.phase <;> simp_all

theorem call_run (start : BackupState) (ops : List BackupOp) : (Machine.run step start ops).call = start.call := by
  induction ops using List.reverseRecOn with
  | nil => rfl
  | append_singleton ops op ih =>
    rw [run_concat]
    by_cases hop : op = .proceed
    · rw [hop, step, proceed_call, ih]
    · rw [(step_act hop).2.2.2, ih]

omit [Runtime] in
/-- The report of a call has its status. -/
theorem status_report (call : BackupCall) (fingerprint fingerprint' path : String) :
    (call.report (backupReport fingerprint fingerprint' path)).get "status" = .str call.verified := by
  cases call with
  | backupTo => simp [BackupCall.report, BackupCall.verified, backupReport, Dict.get_insert, Dict.ofItems]
  | restoreFromBackup => simp [BackupCall.report, BackupCall.verified, restoreReport, Dict.get_insert, Dict.ofItems]

theorem run_proceed (ops : List BackupOp) :
    Machine.run step start (ops ++ [.proceed]) = (Machine.run step start ops).proceed := run_concat ops .proceed

section

variable {ops : List BackupOp}

theorem destination_proceed (h : ∀ fingerprint, (Machine.run step start ops).phase ≠ .fingerprinted fingerprint) :
    (Machine.run step start (ops ++ [.proceed])).destination = (Machine.run step start ops).destination := by
  rw [run_proceed, proceed_destination h]

theorem Untouched.proceed (h : Untouched start ops) (hphase : ∀ fingerprint, (Machine.run step start ops).phase ≠ .fingerprinted fingerprint)
    (hquiet : (Machine.run step start ops).phase ≠ .prepared)
    (hdir : (Machine.run step start (ops ++ [.proceed])).directory = (Machine.run step start ops).directory) :
    Untouched start (ops ++ [.proceed]) :=
  ⟨(destination_proceed hphase).trans h.destination, hdir.trans h.directory,
    undisturbed_concat.mpr ⟨h.undisturbed, undisturbed_proceed hquiet⟩⟩

theorem stage_requested (hphase : (Machine.run step start ops).phase = .requested) (h : Untouched start ops) :
    Stage start (ops ++ [.proceed]) (Machine.run step start (ops ++ [.proceed])).phase := by
  have huntouched := h.proceed (hphase ▸ nofun) (hphase ▸ nofun)
  have hrun := @run_proceed _ start ops
  simp only [BackupState.proceed, hphase] at hrun
  split at hrun
  · rw [hrun]
    exact .refused (huntouched (by rw [hrun]; rfl))
  · split at hrun
    · rw [hrun]
      exact .refused (huntouched (by rw [hrun]; rfl))
    · rename_i hdir
      rw [hrun]
      refine .called (huntouched (by rw [hrun])) fun _ => ?_
      rw [← h.directory]
      simpa using hdir

theorem stage_called (hphase : (Machine.run step start ops).phase = .called) (h : Untouched start ops)
    (hfresh : start.call = .restoreFromBackup → start.directory = false) :
    Stage start (ops ++ [.proceed]) (Machine.run step start (ops ++ [.proceed])).phase := by
  have huntouched := h.proceed (hphase ▸ nofun) (hphase ▸ nofun)
  have hdestination : (Machine.run step start (ops ++ [.proceed])).destination = start.destination :=
    (destination_proceed (hphase ▸ nofun)).trans h.destination
  have hrun := @run_proceed _ start ops
  simp only [BackupState.proceed, hphase] at hrun
  split at hrun
  · rw [hrun]
    exact .refused (huntouched (by rw [hrun]; rfl))
  · rename_i hsource
    split at hrun
    · rw [hrun]
      exact .refused (huntouched (by rw [hrun]; rfl))
    · rename_i hnone
      have habsent : start.destination = .absent := by
        rw [← h.destination]
        revert hnone
        cases (Machine.run step start ops).destination <;> simp [Database.exists]
      rw [hrun]
      refine .prepared ⟨habsent, hfresh, hdestination, by rw [hrun]⟩ (by rw [hrun]; simpa using hsource) ?_
      exact undisturbed_concat.mpr ⟨h.undisturbed, undisturbed_proceed (hphase ▸ nofun)⟩

theorem recorded_proceed (cipher : Option BlobCipher) (ops : List BackupOp) :
    recorded cipher (ops ++ [.proceed]) = recorded cipher ops := by
  rw [recorded_append]
  exact List.append_nil _

theorem undisturbed_prepared (hphase : (Machine.run step start ops).phase = .prepared) :
    Undisturbed (Machine.run step start ops) .proceed ↔
      (start.call = .restoreFromBackup → (Machine.run step start ops).source.Readable) := by
  simp only [Undisturbed, hphase, call_run, true_imp_iff]

theorem stage_prepared (hsource : start.source.Holds []) (hphase : (Machine.run step start ops).phase = .prepared)
    (h : Prepared start ops) (hexists : (Machine.run step start ops).source.database.exists = true)
    (hundisturbed : Machine.Along step Undisturbed start ops) :
    Stage start (ops ++ [.proceed]) (Machine.run step start (ops ++ [.proceed])).phase := by
  have hrun := @run_proceed _ start ops
  by_cases hr : (Machine.run step start ops).source.Readable
  · have htables := (run_source hsource ops).1.tables hexists hr
    simp only [BackupState.proceed, hphase, canonicalFingerprint_run hsource htables] at hrun
    have hstep : Machine.Along step Undisturbed start (ops ++ [.proceed]) :=
      undisturbed_concat.mpr ⟨hundisturbed, (undisturbed_prepared hphase).mpr fun _ => hr⟩
    rw [hrun]
    exact .fingerprinted h.absent (List.prefix_append _ _) rfl htables (by rw [hrun]; exact htables)
      (iff_of_true hstep (by rw [recorded_proceed]))
  · simp only [BackupState.proceed, hphase, SQLiteStore.canonicalFingerprint_of_not_readable hr] at hrun
    have hprepared : Prepared start (ops ++ [.proceed]) :=
      ⟨h.absent, h.fresh, (destination_proceed (hphase ▸ nofun)).trans h.destination, by rw [hrun]; exact h.directory⟩
    rw [hrun]
    refine .unread hprepared ?_
    rw [undisturbed_concat, and_iff_right hundisturbed, undisturbed_prepared hphase]
    exact ⟨fun himp hrestore => hr (himp hrestore), fun hne hrestore => absurd hrestore hne⟩

theorem Copied.destinationStore (hsource : start.source.Holds []) {a b : List BackupOp} {fingerprint : String}
    (h : Copied start ops a b fingerprint) :
    (Machine.run step start ops).destinationStore = (Machine.run step start b).source := by
  rw [BackupState.destinationStore, h.copy, (run_source hsource ops).2, ← (run_source hsource b).2]

theorem stage_copied (hsource : start.source.Holds []) {fingerprint : String} {a b : List BackupOp}
    (hphase : (Machine.run step start ops).phase = .copied fingerprint) (h : Copied start ops a b fingerprint) :
    Stage start (ops ++ [.proceed]) (Machine.run step start (ops ++ [.proceed])).phase := by
  have hrun := @run_proceed _ start ops
  have hcopied : Copied start (ops ++ [.proceed]) a b fingerprint :=
    h.concat (by rw [step, proceed_destination (hphase ▸ nofun)]) (undisturbed_proceed (hphase ▸ nofun))
  have hstore := h.destinationStore hsource
  have hfingerprint := canonicalFingerprint_run hsource h.tables'
  simp only [BackupState.proceed, hphase, hstore, hfingerprint] at hrun
  split at hrun
  · rename_i hne
    rw [hrun]
    exact .mismatch hcopied (by simpa using hne)
  · rename_i heq
    rw [hrun]
    refine .returned hcopied (by simpa using heq) ?_
    rw [status_report, call_run]

theorem Stage.proceed (hsource : start.source.Holds []) (h : Stage start ops (Machine.run step start ops).phase) :
    Stage start (ops ++ [.proceed]) (Machine.run step start (ops ++ [.proceed])).phase := by
  generalize hphase : (Machine.run step start ops).phase = phase at h
  have hanswered : ∀ {outcome}, phase = .answered outcome → (Machine.run step start (ops ++ [.proceed])).phase = .answered outcome ∧
      ((Machine.run step start ops).step .proceed).destination = (Machine.run step start ops).destination ∧
      ((Machine.run step start ops).step .proceed).directory = (Machine.run step start ops).directory ∧
      Undisturbed (Machine.run step start ops) .proceed := by
    rintro outcome rfl
    have hstep : (Machine.run step start ops).step .proceed = Machine.run step start ops := by
      rw [step, BackupState.proceed, hphase]
    rw [run_concat, hstep]
    exact ⟨hphase, rfl, rfl, undisturbed_proceed (hphase ▸ nofun)⟩
  cases h with
  | requested untouched => exact stage_requested hphase untouched
  | called untouched fresh => exact stage_called hphase untouched fresh
  | prepared prepared exists' undisturbed => exact stage_prepared hsource hphase prepared exists' undisturbed
  | @fingerprinted fingerprint a absent le eq tables tables' undisturbed =>
    have hrun := @run_proceed _ start ops
    simp only [BackupState.proceed, hphase] at hrun
    rw [hrun]
    refine .copied (b := ops) ⟨absent, le, List.prefix_append _ _, eq, tables, tables', by rw [hrun], ?_⟩
    rw [undisturbed_concat, and_iff_left (undisturbed_proceed (hphase ▸ nofun)), undisturbed]
  | copied copied => exact stage_copied hsource hphase copied
  | returned copied eq status =>
    obtain ⟨hphase', hd, -, hquiet⟩ := hanswered rfl
    exact hphase' ▸ .returned (copied.concat hd hquiet) eq status
  | refused untouched =>
    obtain ⟨hphase', hd, hdir, hquiet⟩ := hanswered rfl
    exact hphase' ▸ .refused (untouched.concat hd hdir hquiet)
  | unread prepared undisturbed =>
    obtain ⟨hphase', hd, hdir, hquiet⟩ := hanswered rfl
    exact hphase' ▸ .unread (prepared.concat hd hdir) (by rw [undisturbed_concat, and_iff_left hquiet, undisturbed])
  | mismatch copied ne =>
    obtain ⟨hphase', hd, -, hquiet⟩ := hanswered rfl
    exact hphase' ▸ .mismatch (copied.concat hd hquiet) ne

theorem Stage.step (hsource : start.source.Holds []) (h : Stage start ops (Machine.run step start ops).phase) (op : BackupOp) :
    Stage start (ops ++ [op]) (Machine.run step start (ops ++ [op])).phase := by
  by_cases hop : op = .proceed
  · subst hop
    exact h.proceed hsource
  · exact h.act hsource hop

end

variable {call : BackupCall} {cipher : Option BlobCipher} {destination : Database} {path : String} {directory : Bool}

theorem stage_run (ops : List BackupOp) : Stage (initial call cipher destination path directory) ops
    (Machine.run step (initial call cipher destination path directory) ops).phase := by
  induction ops using List.reverseRecOn with
  | nil =>
    cases call with
    | backupTo => exact .called ⟨rfl, rfl, trivial⟩ nofun
    | restoreFromBackup => exact .requested ⟨rfl, rfl, trivial⟩
  | append_singleton ops op ih => exact ih.step (SQLiteStore.holds_fresh cipher) op

omit [Runtime] in
/-- What is listed tells what is kept. -/
theorem kept_eq_of_sources {recs recs' : List SourceRecord} (h : recs <+: recs')
    (hsources : Catalog.sources recs none true = Catalog.sources recs' none true) : Catalog.kept recs' = Catalog.kept recs := by
  have hlength : ∀ recs, (Catalog.sources recs none true).length = (Catalog.kept recs).length := fun recs => by
    rw [Catalog.sources, List.length_map, selectVersions_all]
    exact (Keyed.sortBy_perm _ _).length_eq
  have hle : Catalog.kept recs <+: Catalog.kept recs' := Keyed.prefix_firsts _ (h.map _)
  exact (hle.eq_of_length (by rw [← hlength, hsources, hlength])).symm

/-- A call that ends is all or nothing if it is undisturbed. -/
theorem allOrNothing_iff {ops : List BackupOp} {outcome : Except Exc Dict}
    (hanswered : (Machine.run step (initial call cipher destination path directory) ops).phase = .answered outcome)
    (hsha : CollisionFree (initial call cipher destination path directory) ops) :
    AllOrNothing (initial call cipher destination path directory) ops ↔
      Machine.Along step Undisturbed (initial call cipher destination path directory) ops := by
  have hsource : (initial call cipher destination path directory).source.Holds [] := SQLiteStore.holds_fresh cipher
  have hstage := @stage_run _ call cipher destination path directory ops
  rw [hanswered] at hstage
  simp only [AllOrNothing, hanswered]
  generalize hstart : initial call cipher destination path directory = start at *
  cases hstage with
  | @returned report fingerprint a b copied eq status =>
    have hsources := hsha a b (copied.le.trans copied.le') copied.le' fingerprint
      (by rw [canonicalFingerprint_run hsource copied.tables, copied.fingerprint]) (by rw [canonicalFingerprint_run hsource copied.tables', eq])
    rw [listSources_run hsource copied.tables, listSources_run hsource copied.tables'] at hsources
    refine iff_of_true ⟨by rw [status, call_run], b, copied.le', _, listSources_run hsource copied.tables', ?_⟩
      (copied.undisturbed.mpr (kept_eq_of_sources (prefix_recorded _ copied.le) (Except.ok.inj hsources)))
    rw [copied.destinationStore hsource, listSources_run hsource copied.tables']
  | refused untouched => exact iff_of_true ⟨untouched.destination, fun _ => untouched.directory⟩ untouched.undisturbed
  | unread prepared undisturbed =>
    rw [undisturbed, call_run]
    constructor
    · rintro ⟨-, hdir⟩ hrestore
      have := hdir hrestore
      rw [prepared.directory, prepared.fresh hrestore] at this
      cases this
    · exact fun hne => ⟨prepared.destination, fun hrestore => absurd hrestore hne⟩
  | mismatch copied ne =>
    refine iff_of_false ?_ fun h => ne ?_
    · rintro ⟨hd, -⟩
      obtain ⟨blobs, rows, htables⟩ := copied.tables'
      rw [copied.copy, htables, copied.absent] at hd
      cases hd
    · rw [copied.fingerprint, Catalog.fingerprint, Catalog.fingerprint, copied.undisturbed.mp h]

/-! ## A version that is added in between -/

/-- A backup of an initialized store with a transaction between fingerprint and copy. -/
def disturbedBackup (c : RegisterCall) : List BackupOp := [.initialized, .proceed, .proceed, .write c, .proceed, .proceed]

theorem disturbedBackup_run {c : RegisterCall} {r : SourceRecord} (hr : SQLiteStore.outcome none c = .ok r)
    (hne : Catalog.fingerprint [] ≠ Catalog.fingerprint [r]) :
    (Machine.run step (initial .backupTo none .absent "backup" false) (disturbedBackup c)).phase =
        .answered (.error (valueError "sqlite_backup_fingerprint_mismatch")) ∧
      (Machine.run step (initial .backupTo none .absent "backup" false) (disturbedBackup c)).destination.exists = true := by
  have hempty : SQLiteStore.Holds ⟨.tables [] [], none⟩ [] := ⟨nofun, nofun, .inr ⟨[], rfl, SQLiteStore.blobsHold_nil none⟩⟩
  obtain ⟨-, hholds, hcipher, blobs, rows, htables⟩ := hempty.register hr
  have hfingerprint := hempty.canonicalFingerprint (by rw [SQLiteStore.Readable]; exact Database.noConfusion)
  have hfingerprint' := hholds.canonicalFingerprint (SQLiteStore.HasTables.readable ⟨blobs, rows, htables⟩)
  have hinit : (SQLiteStore.initialized { blobCipher := none }).2 = ⟨.tables [] [], none⟩ := rfl
  simp only [disturbedBackup, initial, BackupCall.start, Machine.run_cons, Machine.run_nil, step, hinit, BackupState.proceed,
    Database.exists, Bool.not_true, Bool.false_eq_true, ↓reduceIte, hfingerprint]
  generalize SQLiteStore.step ⟨.tables [] [], none⟩ c = s at *
  obtain ⟨database, cipher⟩ := s
  obtain rfl : database = .tables blobs rows := htables
  simp only [destinationStore, hfingerprint', List.nil_append, bne_iff_ne, ne_eq, hne, not_false_eq_true, ↓reduceIte, fail, and_self]

theorem disturbedBackup_leaves {c : RegisterCall} {r : SourceRecord} (hr : SQLiteStore.outcome none c = .ok r)
    (hne : Catalog.fingerprint [] ≠ Catalog.fingerprint [r]) :
    ¬ AllOrNothing (initial .backupTo none .absent "backup" false) (disturbedBackup c) := by
  obtain ⟨hphase, hdestination⟩ := disturbedBackup_run hr hne
  intro h
  simp only [AllOrNothing, hphase] at h
  rw [h.1] at hdestination
  cases hdestination

/-! A version that is there already. -/

omit [Runtime] in
theorem kept_twice (r : SourceRecord) : Catalog.kept ([r] ++ [r]) = Catalog.kept [r] := by
  rw [Catalog.kept_concat]
  obtain ⟨e, he, hkey⟩ := Catalog.exists_mem_kept (List.mem_singleton_self r)
  exact Keyed.add_of_mem _ he hkey

omit [Runtime] in
theorem sources_twice (r : SourceRecord) : Catalog.sources ([r] ++ [r]) none true = Catalog.sources [r] none true := by
  have hcontent : ∀ fingerprint, Catalog.contentOf ([r] ++ [r]) fingerprint = Catalog.contentOf [r] fingerprint := fun fingerprint => by
    rw [Catalog.contentOf_concat, Catalog.contentOf, List.find?_singleton]
    by_cases h : r.contentFingerprint = fingerprint <;> simp [h]
  rw [Catalog.sources, Catalog.sources, kept_twice]
  exact List.map_congr_left fun e _ => by rw [Catalog.withContent, Catalog.withContent, hcontent]

/-- A backup of a store with one source, which is registered again between fingerprint and copy. -/
def repeatedBackup (c : RegisterCall) : List BackupOp := [.write c, .proceed, .proceed, .write c, .proceed, .proceed]

section

variable {c : RegisterCall} {r : SourceRecord} (hr : SQLiteStore.outcome none c = .ok r)

include hr

/-- In every state but the first the source holds this one record, registered once or twice. -/
theorem repeatedBackup_source {a : List BackupOp} (ha : a <+: repeatedBackup c) (hne : a ≠ []) :
    (Machine.run step (initial .backupTo none .absent "backup" false) a).source.HasTables ∧
      Catalog.kept (recorded none a) = Catalog.kept [r] ∧ Catalog.sources (recorded none a) none true = Catalog.sources [r] none true := by
  have hwrite : recorded none [.write c] = [r] := by
    rw [recorded_write, hr]
    rfl
  obtain ⟨op, a, rfl⟩ := List.exists_cons_of_ne_nil hne
  obtain ⟨rfl, ha'⟩ := List.cons_prefix_cons.mp ha
  have hrecorded : recorded none (.write c :: a) = [r] ++ recorded none a := hwrite ▸ recorded_append none [.write c] a
  have hrest : recorded none a <+: [r] := by
    have hle := prefix_recorded none ha'
    rwa [show recorded none [.proceed, .proceed, .write c, .proceed, .proceed] = recorded none [.write c] from rfl, hwrite] at hle
  have hsource : (initial .backupTo none .absent "backup" false).source.Holds [] := SQLiteStore.holds_fresh none
  have hholds : (Machine.run step (initial .backupTo none .absent "backup" false) (.write c :: a)).source.Holds ([r] ++ recorded none a) :=
    hrecorded ▸ (run_source hsource (.write c :: a)).1
  refine ⟨?_, ?_⟩
  · rcases hholds.database with ⟨h, -⟩ | ⟨blobs, hd, -⟩
    · cases h
    · exact ⟨_, _, hd⟩
  · rw [hrecorded]
    rcases List.prefix_cons_iff.mp hrest with h | ⟨rest, h, hnil⟩
    · rw [h, List.append_nil]
      exact ⟨rfl, rfl⟩
    · rw [h, List.prefix_nil.mp hnil]
      exact ⟨kept_twice r, sources_twice r⟩

theorem repeatedBackup_run : ∃ report,
    (Machine.run step (initial .backupTo none .absent "backup" false) (repeatedBackup c)).phase = .answered (.ok report) := by
  obtain ⟨-, hholds, hcipher, blobs, rows, htables⟩ := (SQLiteStore.holds_fresh none).register hr
  simp only [repeatedBackup, initial, BackupCall.start, Machine.run_cons, Machine.run_nil, step]
  generalize SQLiteStore.step { blobCipher := none } c = s at *
  obtain ⟨database, cipher⟩ := s
  obtain rfl : database = .tables blobs rows := htables
  obtain rfl : cipher = none := hcipher
  obtain ⟨-, hholds', -, blobs', rows', htables'⟩ := hholds.register hr
  have hfingerprint := hholds.canonicalFingerprint (SQLiteStore.HasTables.readable ⟨blobs, rows, rfl⟩)
  have hfingerprint' := hholds'.canonicalFingerprint (SQLiteStore.HasTables.readable ⟨blobs', rows', htables'⟩)
  have heq : Catalog.fingerprint ([] ++ [r] ++ [r]) = Catalog.fingerprint ([] ++ [r]) := by
    rw [List.nil_append, Catalog.fingerprint, Catalog.fingerprint, kept_twice]
  rw [heq] at hfingerprint'
  simp only [BackupState.proceed, Database.exists, Bool.not_true, Bool.false_eq_true, ↓reduceIte, hfingerprint]
  generalize SQLiteStore.step ⟨.tables blobs rows, none⟩ c = s at *
  obtain ⟨database, cipher⟩ := s
  simp only [destinationStore, hfingerprint', bne_self_eq_false, Bool.false_eq_true, ↓reduceIte]
  exact ⟨_, rfl⟩

/-- The fingerprint and the content of each state. -/
theorem repeatedBackup_content {a : List BackupOp} (ha : a <+: repeatedBackup c) :
    let s := (Machine.run step (initial .backupTo none .absent "backup" false) a).source
    (s.canonicalFingerprint = .ok (Catalog.fingerprint []) ∧ s.listSources none true = .ok []) ∨
      (s.canonicalFingerprint = .ok (Catalog.fingerprint [r]) ∧ s.listSources none true = .ok (Catalog.sources [r] none true)) := by
  have hsource : (initial .backupTo none .absent "backup" false).source.Holds [] := SQLiteStore.holds_fresh none
  by_cases hne : a = []
  · subst hne
    have hreadable : (initial .backupTo none .absent "backup" false).source.Readable := Database.noConfusion
    exact .inl ⟨hsource.canonicalFingerprint hreadable, hsource.listSources hreadable none true⟩
  · obtain ⟨htables, hkept, hsources⟩ := repeatedBackup_source hr ha hne
    refine .inr ⟨?_, ?_⟩
    · rw [canonicalFingerprint_run hsource htables, Catalog.fingerprint, Catalog.fingerprint]
      exact congrArg (fun k => Except.ok (sha256Json (indexDict (sortVersions SourceEntry.toSourceVersion k)).toVal)) hkept
    · rw [listSources_run hsource htables]
      exact congrArg Except.ok hsources

theorem repeatedBackup_undisturbed :
    Machine.Along step Undisturbed (initial .backupTo none .absent "backup" false) (repeatedBackup c) := by
  obtain ⟨report, hanswered⟩ := repeatedBackup_run hr
  have hstage := @stage_run _ .backupTo none .absent "backup" false (repeatedBackup c)
  have hne : ∀ {a : List BackupOp}, (Machine.run step (initial .backupTo none .absent "backup" false) a).source.HasTables → a ≠ [] := by
    rintro a ⟨blobs, rows, h⟩ rfl
    cases h
  rw [hanswered] at hstage
  cases hstage with
  | returned copied eq status =>
    have ha := repeatedBackup_source hr (copied.le.trans copied.le') (hne copied.tables)
    have hb := repeatedBackup_source hr copied.le' (hne copied.tables')
    exact copied.undisturbed.mpr (hb.2.1.trans ha.2.1.symm)

end

end BackupState

end

def exampleSource : RegisterCall := exampleRegistration "A" "2026-01-01T00:00:00Z"

theorem exampleSource_outcome :
    letI := asciiRuntime
    SQLiteStore.outcome none exampleSource = .ok (exampleSource.record "A") := by
  let := asciiRuntime
  have hchecked : exampleSource.checked = .ok (exampleSource.record "A") := exampleCall_checked (by decide) _
  have hstrings : isStringMap (exampleSource.record "A").metadata = true := rfl
  rw [SQLiteStore.outcome, hchecked, ok_bind, hstrings]
  rfl

/-- The record of the example, with its hash values written out. -/
def exampleSourceRecord : SourceRecord where
  sourceId := "src_0de94fa0c4b9aa03dc6325c6258df5e0"
  versionId := "ver_559aead08264d5795d3909718cdd05abd49572e84fe55590eef31a88a08fdffd"
  projectId := "project"
  sourceName := "notes.md"
  contentFingerprint := "559aead08264d5795d3909718cdd05abd49572e84fe55590eef31a88a08fdffd"
  captureTime := "2026-01-01T00:00:00Z"
  content := "A"

theorem exampleSource_sourceId :
    letI := asciiRuntime
    sourceIdOf "project" "notes.md" = exampleSourceRecord.sourceId := by
  decide +kernel

theorem exampleSource_contentFingerprint :
    letI := asciiRuntime
    sha256Bytes "A".toUTF8 = exampleSourceRecord.contentFingerprint := by
  decide +kernel

theorem exampleSource_record :
    letI := asciiRuntime
    exampleSource.record "A" = exampleSourceRecord := by
  let := asciiRuntime
  have hname : normalizeName "notes.md" = "notes.md" := by decide
  simp only [RegisterCall.record, exampleSource, exampleRegistration, hname, exampleSource_sourceId, exampleSource_contentFingerprint]
  rfl

theorem exampleSource_fingerprint :
    letI := asciiRuntime
    Catalog.fingerprint [] ≠ Catalog.fingerprint [exampleSource.record "A"] := by
  let := asciiRuntime
  rw [exampleSource_record]
  refine sha256Hex_ne ?_
  decide +kernel

/-- A backup of an empty store that another writer adds a source to leaves a destination behind. -/
theorem disturbed_backup_leaves_destination :
    letI := asciiRuntime
    ¬ BackupState.AllOrNothing (.initial .backupTo none .absent "backup" false) (BackupState.disturbedBackup exampleSource) := by
  let := asciiRuntime
  exact BackupState.disturbedBackup_leaves exampleSource_outcome exampleSource_fingerprint

/-- A backup during which a source is registered that is there already. -/
theorem repeated_backup_allOrNothing :
    letI := asciiRuntime
    BackupState.AllOrNothing (.initial .backupTo none .absent "backup" false) (BackupState.repeatedBackup exampleSource) := by
  let := asciiRuntime
  have hr := exampleSource_outcome
  obtain ⟨report, hanswered⟩ := BackupState.repeatedBackup_run hr
  refine (BackupState.allOrNothing_iff hanswered ?_).mpr ?_
  · intro a b ha hb fingerprint hfa hfb
    have hne := exampleSource_fingerprint
    rcases BackupState.repeatedBackup_content hr ha with ⟨hf, hl⟩ | ⟨hf, hl⟩ <;>
      rcases BackupState.repeatedBackup_content hr hb with ⟨hf', hl'⟩ | ⟨hf', hl'⟩
    · rw [hl, hl']
    · exact absurd (Except.ok.inj ((hf.symm.trans hfa).trans (hfb.symm.trans hf'))) hne
    · exact absurd (Except.ok.inj ((hf'.symm.trans hfb).trans (hfa.symm.trans hf))) hne
    · rw [hl, hl']
  · exact BackupState.repeatedBackup_undisturbed hr

end Pmiri
