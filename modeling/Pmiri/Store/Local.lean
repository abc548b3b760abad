import Pmiri.Store.Catalog
import Pmiri.Runs

/-!
# The local store

`store.py`: `LocalStore`, a JSON index beside a directory of blobs that are
named by their fingerprints. Over any run of registrations it holds the
catalog of what it accepted.
-/

namespace Pmiri

open Py

/-- `index.json`: a file that is missing, one that cannot be read as JSON, one
with another format, or an index. -/
inductive IndexFile where
  | absent
  | unreadable
  | malformed
  | sources (entries : List SourceEntry)

/-- `_read_index` -/
def IndexFile.read : IndexFile → Except Exc (List SourceEntry)
  | .absent => .ok []
  | .unreadable => .error (valueError "store_index_invalid")
  | .malformed => .error (valueError "store_index_schema_invalid")
  | .sources entries => .ok entries

/-- An index file and the blobs with the fingerprints they are named by. -/
structure LocalStore where
  index : IndexFile := .absent
  blobs : List (String × ByteArray) := []

/-- What `get_source` finds in a listing. -/
def findSource (records : List SourceRecord) (sourceId : String) (versionId : Option String) : Except Exc SourceRecord :=
  match records.find? fun r => r.sourceId == sourceId && versionId.all (r.versionId == ·) with
  | some r => .ok r
  | none => .error (.keyError "source_not_found")

/-- `[f(x) for x in xs]`, where `f` may raise. -/
def traverse {α β : Type} (f : α → Except Exc β) : List α → Except Exc (List β)
  | [] => .ok []
  | x :: xs => do return (← f x) :: (← traverse f xs)

theorem traverse_ok {α β : Type} {f : α → Except Exc β} {xs : List α} (g : α → β) (h : ∀ x ∈ xs, f x = .ok (g x)) :
    traverse f xs = .ok (xs.map g) := by
  induction xs with
  | nil => rfl
  | cons x xs ih =>
    rw [List.forall_mem_cons] at h
    rw [traverse, h.1, ok_bind, ih h.2, ok_bind, List.map_cons]
    rfl

theorem traverse_error {α β : Type} {f : α → Except Exc β} {xs : List α} {e : Exc} (h : traverse f xs = .error e) :
    ∃ x ∈ xs, f x = .error e := by
  induction xs with
  | nil => cases h
  | cons x xs ih =>
    rcases bind_error.mp h with hx | ⟨y, -, h⟩
    · exact ⟨x, List.mem_cons_self, hx⟩
    · rcases bind_error.mp h with hxs | ⟨ys, -, h⟩
      · obtain ⟨x', hx', he⟩ := ih hxs
        exact ⟨x', List.mem_cons_of_mem _ hx', he⟩
      · cases h

theorem traverse_map {α β γ : Type} (f : β → Except Exc γ) (g : α → β) (xs : List α) :
    traverse f (xs.map g) = traverse (fun x => f (g x)) xs := by
  induction xs with
  | nil => rfl
  | cons x xs ih => rw [List.map_cons, traverse, ih, traverse]

namespace LocalStore

/-- `_initialize_unlocked` -/
def initialized (s : LocalStore) : LocalStore :=
  match s.index with
  | .absent => { s with index := .sources [] }
  | _ => s

section

variable [Runtime]

/-- `_write_blob`, where there is no blob with the content yet. -/
def writeBlob (blobs : List (String × ByteArray)) (fingerprint : String) (content : ByteArray) : List (String × ByteArray) :=
  match blobs.lookup fingerprint with
  | some raw => if sha256Bytes raw = fingerprint then blobs else (fingerprint, content) :: blobs
  | none => (fingerprint, content) :: blobs

def registerBytes (s : LocalStore) (c : RegisterCall) : Except Exc SourceRecord × LocalStore :=
  match c.checked with
  | .error e => (.error e, s)
  | .ok record =>
    let s := s.initialized
    match s.index.read with
    | .error e => (.error e, s)
    | .ok entries =>
      if entries.any fun e => decide (e.versionKey = record.versionKey) then (.ok record, s)
      else
        (.ok record, {
          index := .sources ((sortVersions SourceEntry.toSourceVersion (entries ++ [record.toSourceEntry])).map (·.stored))
          blobs := writeBlob s.blobs record.contentFingerprint record.content.toUTF8 })

/-- `_record_from_dict` -/
def recordFromDict (s : LocalStore) (e : SourceEntry) : Except Exc SourceRecord :=
  match s.blobs.lookup e.contentFingerprint with
  | none => .error (valueError "source_blob_missing_or_invalid")
  | some raw =>
    match String.fromUTF8? raw with
    | none => .error (valueError "source_blob_missing_or_invalid")
    | some content =>
      if sha256Bytes raw != e.contentFingerprint then .error (valueError "source_blob_fingerprint_mismatch")
      else .ok { e with content := content }

def listSources (s : LocalStore) (project : Option String) (includeHistory : Bool) : Except Exc (List SourceRecord) := do
  traverse s.recordFromDict (selectVersions SourceEntry.toSourceVersion project includeHistory (← s.index.read))

def getSource (s : LocalStore) (sourceId : String) (versionId : Option String) : Except Exc SourceRecord := do
  findSource (← s.listSources none true) sourceId versionId

def canonicalFingerprint (s : LocalStore) : Except Exc String := do
  return sha256Json (indexDict (← s.index.read)).toVal

theorem recordFromDict_error {s : LocalStore} {entry : SourceEntry} {e : Exc} (h : s.recordFromDict entry = .error e) :
    ∃ msg, e = valueError msg := by
  simp only [recordFromDict] at h
  split at h
  · exact ⟨_, (Except.error.inj h).symm⟩
  · split at h
    · exact ⟨_, (Except.error.inj h).symm⟩
    · split at h
      · exact ⟨_, (Except.error.inj h).symm⟩
      · cases h

theorem listSources_error {s : LocalStore} {project : Option String} {includeHistory : Bool} {e : Exc}
    (h : s.listSources project includeHistory = .error e) : ∃ msg, e = valueError msg := by
  rcases bind_error.mp h with h | ⟨entries, -, h⟩
  · rcases hi : s.index with _ | _ | _ | entries <;> rw [hi] at h
    · cases h
    · exact ⟨_, (Except.error.inj h).symm⟩
    · exact ⟨_, (Except.error.inj h).symm⟩
    · cases h
  · obtain ⟨entry, -, h⟩ := traverse_error h
    exact recordFromDict_error h

/-- The store after a call. -/
def step (s : LocalStore) (c : RegisterCall) : LocalStore := (s.registerBytes c).2

/-! ## What it holds -/

/-- The records of the calls that are accepted. -/
def accepted (calls : List RegisterCall) : List SourceRecord := calls.filterMap fun c => c.checked.toOption

/-- The store holds the catalog of the records. -/
structure Holds (s : LocalStore) (recs : List SourceRecord) : Prop where
  derived : ∀ r ∈ recs, r.Derived
  index : s.index.read = .ok (sortVersions SourceEntry.toSourceVersion (Catalog.kept recs))
  blobs : ∀ fingerprint, s.blobs.lookup fingerprint = (Catalog.contentOf recs fingerprint).map String.toUTF8

theorem holds_fresh : Holds {} [] := ⟨by simp, rfl, fun _ => rfl⟩

omit [Runtime] in
theorem read_initialized (s : LocalStore) : s.initialized.index.read = s.index.read ∧ s.initialized.blobs = s.blobs := by
  rcases s with ⟨_ | _ | _ | entries, blobs⟩ <;> exact ⟨rfl, rfl⟩

/-- The content under a fingerprint has that fingerprint. -/
theorem fingerprint_of_contentOf {recs : List SourceRecord} (hd : ∀ r ∈ recs, r.Derived) {fingerprint content : String}
    (h : Catalog.contentOf recs fingerprint = some content) :
    sha256Bytes content.toUTF8 = fingerprint ∧ normalizeText content.toUTF8 = .ok content := by
  obtain ⟨r, hr, rfl, rfl⟩ := Catalog.exists_of_contentOf h
  exact ⟨(hd r hr).fingerprint.symm, (hd r hr).text⟩

theorem lookup_writeBlob {blobs : List (String × ByteArray)} {recs : List SourceRecord} (hd : ∀ r ∈ recs, r.Derived)
    (h : ∀ fingerprint, blobs.lookup fingerprint = (Catalog.contentOf recs fingerprint).map String.toUTF8)
    (r : SourceRecord) (fingerprint : String) :
    (writeBlob blobs r.contentFingerprint r.content.toUTF8).lookup fingerprint =
      (Catalog.contentOf (recs ++ [r]) fingerprint).map String.toUTF8 := by
  have hown := h r.contentFingerprint
  rw [Catalog.contentOf_concat, writeBlob, hown]
  cases hc : Catalog.contentOf recs r.contentFingerprint with
  | some content =>
    rw [Option.map_some]
    simp only [(fingerprint_of_contentOf hd hc).1, ↓reduceIte, h fingerprint]
    split <;> rename_i hf
    · rw [← hf, hc, Option.some_or]
    · rw [Option.or_none]
  | none =>
    simp only [Option.map_none]
    rw [List.lookup_cons]
    split <;> rename_i hf
    · rw [beq_iff_eq] at hf
      subst hf
      rw [hc, Option.none_or, if_pos rfl, Option.map_some]
    · rw [if_neg fun e => by simp [e] at hf, Option.or_none, h fingerprint]

/-- A registration that is accepted is added to the catalog. -/
theorem Holds.register {s : LocalStore} {recs : List SourceRecord} (h : s.Holds recs) {c : RegisterCall} {r : SourceRecord}
    (hc : c.checked = .ok r) : (s.registerBytes c).1 = .ok r ∧ (s.step c).Holds (recs ++ [r]) := by
  have hd : ∀ r' ∈ recs ++ [r], r'.Derived := by
    intro r' hr'
    rcases List.mem_append.mp hr' with hr' | hr'
    · exact h.derived r' hr'
    · exact List.mem_singleton.mp hr' ▸ c.derived hc
  obtain ⟨hread, hblobs⟩ := read_initialized s
  rw [h.index] at hread
  simp only [step, registerBytes, hc, hread]
  split <;> rename_i hany
  · obtain ⟨e, he, hkey⟩ := List.any_eq_true.mp hany
    rw [sortVersions, Keyed.mem_sortBy] at he
    have hkey : e.versionKey = r.toSourceEntry.stored.versionKey := of_decide_eq_true hkey
    refine ⟨rfl, hd, ?_, fun fingerprint => ?_⟩
    · rw [hread, Catalog.kept_concat, Keyed.add_of_mem _ he hkey]
    · obtain ⟨r', hr', rfl⟩ := Catalog.exists_of_mem_kept he
      have hf : r'.contentFingerprint = r.contentFingerprint :=
        (h.derived r' hr').fingerprint_eq (c.derived hc) (congrArg Prod.snd hkey)
      rw [hblobs, h.blobs, Catalog.contentOf_concat]
      split <;> rename_i hfr
      · obtain ⟨content, hcontent⟩ := Option.isSome_iff_exists.mp (Catalog.contentOf_isSome hr')
        rw [← hfr, ← hf, hcontent, Option.some_or]
      · rw [Option.or_none]
  · refine ⟨rfl, hd, ?_, fun fingerprint => ?_⟩
    · have hnew : ∀ e ∈ Catalog.kept recs, e.versionKey ≠ r.toSourceEntry.stored.versionKey := fun e he hkey =>
        hany (List.any_eq_true.mpr ⟨e, by rwa [sortVersions, Keyed.mem_sortBy], decide_eq_true hkey⟩)
      have hkept := Catalog.kept_concat recs r
      rw [Keyed.add_of_new _ hnew] at hkept
      simp only [IndexFile.read, Except.ok.injEq]
      have hmap : ∀ entries, (sortVersions SourceEntry.toSourceVersion entries).map (·.stored) =
          sortVersions SourceEntry.toSourceVersion (entries.map (·.stored)) := map_sortVersions _ fun _ => rfl
      have hstored : (Catalog.kept recs).map (·.stored) = Catalog.kept recs := by
        rw [List.map_congr_left fun e he => Catalog.stored_of_mem_kept he, List.map_id']
      have hperm : ((sortVersions SourceEntry.toSourceVersion (Catalog.kept recs)).map (·.stored) ++
          [r.toSourceEntry.stored]).Perm (Catalog.kept (recs ++ [r])) := by
        rw [hmap, hstored, hkept]
        exact (Keyed.sortBy_perm _ _).append_right _
      rw [hmap, List.map_append, List.map_singleton]
      exact sortVersions_eq_of_perm ((Catalog.kept_distinct _).perm hperm.symm) hperm
    · rw [hblobs]
      exact lookup_writeBlob h.derived h.blobs r fingerprint

theorem registerBytes_error {s : LocalStore} {c : RegisterCall} {e : Exc} (hc : c.checked = .error e) :
    s.registerBytes c = (.error e, s) := by
  simp only [registerBytes, hc]

theorem accepted_cons (c : RegisterCall) (calls : List RegisterCall) :
    accepted (c :: calls) = c.checked.toOption.toList ++ accepted calls := by
  rw [accepted, List.filterMap_cons, accepted]
  cases c.checked <;> rfl

/-- The store of a run holds the catalog of the accepted records. -/
theorem Holds.run {s : LocalStore} {recs : List SourceRecord} (h : s.Holds recs) (calls : List RegisterCall) :
    (Machine.run step s calls).Holds (recs ++ accepted calls) := by
  induction calls generalizing s recs with
  | nil => simpa [accepted] using h
  | cons c calls ih =>
    rw [Machine.run_cons, accepted_cons, ← List.append_assoc]
    rcases hc : c.checked with e | r
    · rw [step, registerBytes_error hc]
      simpa [Except.toOption] using ih h
    · exact ih (h.register hc).2

/-- Each call answers what the checks say. -/
theorem Holds.registerBytes_fst {s : LocalStore} {recs : List SourceRecord} (h : s.Holds recs) (c : RegisterCall) :
    (s.registerBytes c).1 = c.checked := by
  rcases hc : c.checked with e | r
  · rw [registerBytes_error hc]
  · exact (h.register hc).1

theorem Holds.recordFromDict {s : LocalStore} {recs : List SourceRecord} (h : s.Holds recs) {e : SourceEntry}
    (he : e ∈ Catalog.kept recs) : s.recordFromDict e = .ok (Catalog.withContent recs e) := by
  obtain ⟨content, hcontent⟩ := Catalog.exists_contentOf he
  simp only [LocalStore.recordFromDict, h.blobs, hcontent, Option.map_some, fromUTF8?_toUTF8,
    (fingerprint_of_contentOf h.derived hcontent).1, bne_self_eq_false, Bool.false_eq_true, ↓reduceIte,
    Catalog.withContent, Option.getD_some]

/-- A store that holds a catalog lists it. -/
theorem Holds.listSources {s : LocalStore} {recs : List SourceRecord} (h : s.Holds recs) (project : Option String)
    (includeHistory : Bool) : s.listSources project includeHistory = .ok (Catalog.sources recs project includeHistory) := by
  have hperm : (sortVersions SourceEntry.toSourceVersion (Catalog.kept recs)).Perm (Catalog.kept recs) :=
    Keyed.sortBy_perm _ _
  rw [LocalStore.listSources, h.index, ok_bind,
    selectVersions_perm ((Catalog.kept_distinct recs).perm hperm.symm) hperm project includeHistory]
  exact traverse_ok _ fun e he => h.recordFromDict (mem_of_mem_selectVersions he)

theorem Holds.canonicalFingerprint {s : LocalStore} {recs : List SourceRecord} (h : s.Holds recs) :
    s.canonicalFingerprint = .ok (Catalog.fingerprint recs) := by
  rw [LocalStore.canonicalFingerprint, h.index]
  rfl

end

end LocalStore

end Pmiri
