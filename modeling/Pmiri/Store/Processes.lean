import Pmiri.Store.Local

/-!
# Processes on one local store

`register_bytes` of several processes, file access by file access, and
`list_sources` beside them without the lock. A process may stop at any point;
the system then takes the lock from it. What is on the disk is at any time what
the registrations that have replaced the index leave, one after the other. A
process that is left alone does what `LocalStore.registerBytes` does.
-/

namespace Pmiri

open Py

/-! ## The model -/

/-- How far a call of `register_bytes` is that has its record. A temporary
file is known only to the process that writes it. -/
inductive Writing
  | entered
  | locked
  | emptyIndexWritten
  | initialized
  | indexRead (entries : List SourceEntry)
  | blobWritten (entries : List SourceEntry)
  | blobPresent (entries : List SourceEntry)
  | indexWritten (entries : List SourceEntry)
  | finished (result : Except Exc SourceRecord)

/-- The process has the lock. -/
def Writing.Critical : Writing → Prop
  | .entered => False
  | _ => True

inductive Task
  | register (c : RegisterCall) (record : SourceRecord) (w : Writing)
  | registered (c : RegisterCall) (result : Except Exc SourceRecord)
  | list (project : Option String) (includeHistory : Bool)
  | listing (remaining : List SourceEntry) (found : List SourceRecord)
  | listed (result : Except Exc (List SourceRecord))
  | crashed

/-- The store, the process that has the lock, the calls that have replaced the
index or have found their version in it, and the processes. -/
structure Processes where
  disk : LocalStore
  holder : Option Nat := none
  committed : List RegisterCall := []
  tasks : List Task := []

/-- A call is made, a process takes its next step, or it stops. -/
inductive ProcessOp
  | register (c : RegisterCall)
  | list (project : Option String) (includeHistory : Bool)
  | proceed (n : Nat)
  | crash (n : Nat)

section

/-- The index with the record, as it is read back. -/
def LocalStore.indexed (entries : List SourceEntry) (r : SourceRecord) : List SourceEntry :=
  (sortVersions SourceEntry.toSourceVersion (entries ++ [r.toSourceEntry])).map (·.stored)

variable [Runtime]

/-- The blob of the fingerprint has it. -/
def LocalStore.Matches (s : LocalStore) (fingerprint : String) : Prop :=
  ∃ raw, s.blobs.lookup fingerprint = some raw ∧ sha256Bytes raw = fingerprint

instance (s : LocalStore) (fingerprint : String) : Decidable (s.Matches fingerprint) :=
  match h : s.blobs.lookup fingerprint with
  | some raw => decidable_of_iff (sha256Bytes raw = fingerprint) (by simp [LocalStore.Matches, h])
  | none => isFalse (by simp [LocalStore.Matches, h])

namespace Processes

/-- The process goes on as `t`. -/
def become (s : Processes) (n : Nat) (t : Task) : Processes := { s with tasks := s.tasks.set n t }

/-- The next step of a process that is registering the record. -/
def write (s : Processes) (n : Nat) (c : RegisterCall) (record : SourceRecord) : Writing → Processes
  | .entered => if s.holder.isSome then s else { s with holder := some n }.become n (.register c record .locked)
  | .locked => s.become n (.register c record (match s.disk.index with
    | .absent => .emptyIndexWritten
    | _ => .initialized))
  | .emptyIndexWritten =>
    { s with disk := { s.disk with index := .sources [] } }.become n (.register c record .initialized)
  | .initialized =>
    match s.disk.index.read with
    | .error e => s.become n (.register c record (.finished (.error e)))
    | .ok entries =>
      if entries.any fun e => decide (e.versionKey = record.versionKey) then
        { s with committed := s.committed ++ [c] }.become n (.register c record (.finished (.ok record)))
      else s.become n (.register c record (.indexRead entries))
  | .indexRead entries => s.become n (.register c record
      (if s.disk.Matches record.contentFingerprint then .blobPresent entries else .blobWritten entries))
  | .blobWritten entries =>
    { s with disk := { s.disk with blobs := (record.contentFingerprint, record.content.toUTF8) :: s.disk.blobs } }.become n
      (.register c record (.blobPresent entries))
  | .blobPresent entries => s.become n (.register c record (.indexWritten (LocalStore.indexed entries record)))
  | .indexWritten entries =>
    { s with disk := { s.disk with index := .sources entries }, committed := s.committed ++ [c] }.become n
      (.register c record (.finished (.ok record)))
  | .finished result => { s with holder := none }.become n (.registered c result)

/-- The next step of a process. -/
def proceed (s : Processes) (n : Nat) : Task → Processes
  | .register c record w => s.write n c record w
  | .list project includeHistory => s.become n (match s.disk.index.read with
    | .error e => .listed (.error e)
    | .ok entries => .listing (selectVersions SourceEntry.toSourceVersion project includeHistory entries) [])
  | .listing [] found => s.become n (.listed (.ok found))
  | .listing (e :: remaining) found => s.become n (match s.disk.recordFromDict e with
    | .error e => .listed (.error e)
    | .ok r => .listing remaining (found ++ [r]))
  | .registered _ _ | .listed _ | .crashed => s

def step (s : Processes) : ProcessOp → Processes
  | .register c => { s with tasks := s.tasks ++ [match c.checked with
    | .error e => .registered c (.error e)
    | .ok record => .register c record .entered] }
  | .list project includeHistory => { s with tasks := s.tasks ++ [.list project includeHistory] }
  | .proceed n =>
    match s.tasks[n]? with
    | some t => s.proceed n t
    | none => s
  | .crash n => { s with holder := if s.holder = some n then none else s.holder }.become n .crashed

end Processes

/-! ## Faults of the store that the processes find -/

namespace LocalStore

/-- The entry has been in the index of `s` without a blob that has its fingerprint. -/
def Blobless (s : LocalStore) (e : SourceEntry) : Prop :=
  ¬ s.Matches e.contentFingerprint ∧ ∃ entries, s.index.read = .ok entries ∧ ∃ e₀ ∈ entries, e₀.toSourceVersion = e.toSourceVersion

/-- The index cannot be read, an entry has no blob with its fingerprint, or a
blob with its fingerprint is not text. -/
inductive Faulty (s : LocalStore) : Prop
  | index (e : Exc) (h : s.index.read = .error e)
  | blob (e : SourceEntry) (h : s.Blobless e)
  | text (fingerprint : String) (raw : ByteArray) (h : s.blobs.lookup fingerprint = some raw)
      (hmatches : sha256Bytes raw = fingerprint) (htext : String.fromUTF8? raw = none)

/-- What a store may become: no version and no good blob is lost. -/
structure Later (a b : LocalStore) : Prop where
  versions : ∀ entries, a.index.read = .ok entries → ∃ entries', b.index.read = .ok entries' ∧
    ∀ e ∈ entries, ∃ e' ∈ entries', e'.versionKey = e.versionKey
  blobs : ∀ fingerprint, a.Matches fingerprint → b.Matches fingerprint

theorem Later.refl (a : LocalStore) : Later a a := ⟨fun entries h => ⟨entries, h, fun e he => ⟨e, he, rfl⟩⟩, fun _ h => h⟩

/-- The index has an entry of the record's version. -/
def Has (s : LocalStore) (r : SourceRecord) : Prop := ∃ entries, s.index.read = .ok entries ∧ ∃ e ∈ entries, e.versionKey = r.versionKey

theorem Has.later {a b : LocalStore} {r : SourceRecord} (h : a.Has r) (hab : Later a b) : b.Has r := by
  obtain ⟨entries, hread, e, he, hkey⟩ := h
  obtain ⟨entries', hread', hall⟩ := hab.versions entries hread
  obtain ⟨e', he', hkey'⟩ := hall e he
  exact ⟨entries', hread', e', he', hkey'.trans hkey⟩

omit [Runtime] in
theorem mem_indexed {entries : List SourceEntry} {r : SourceRecord} {e : SourceEntry} :
    e ∈ indexed entries r ↔ ∃ x, (x ∈ entries ∨ x = r.toSourceEntry) ∧ x.stored = e := by
  simp only [indexed, List.mem_map, sortVersions, Keyed.mem_sortBy, List.mem_append, List.mem_singleton]

/-- A registration that finds its version leaves the index, and another one adds it. -/
theorem read_step {s : LocalStore} {c : RegisterCall} {r : SourceRecord} (hc : c.checked = .ok r) {entries : List SourceEntry}
    (hread : s.index.read = .ok entries) :
    (s.step c).index.read = .ok (if entries.any fun e => decide (e.versionKey = r.versionKey) then entries else indexed entries r) := by
  obtain ⟨hinitialized, -⟩ := read_initialized s
  rw [hread] at hinitialized
  simp only [step, registerBytes, hc, hinitialized]
  split
  · exact hinitialized
  · rfl

/-- No registration makes an index that cannot be read, and none repairs one. -/
theorem read_step_error {s : LocalStore} {c : RegisterCall} {e : Exc} (hread : s.index.read = .error e) :
    (s.step c).index.read = .error e := by
  obtain ⟨hinitialized, -⟩ := read_initialized s
  rw [hread] at hinitialized
  simp only [step, registerBytes]
  split
  · exact hread
  · simp only [hinitialized]

/-- A version that the index has stays in it. -/
theorem Has.step {s : LocalStore} {r : SourceRecord} (h : s.Has r) (c : RegisterCall) : (s.step c).Has r := by
  obtain ⟨entries, hread, e, he, hkey⟩ := h
  rcases hc : c.checked with exc | r'
  · rw [LocalStore.step, registerBytes_error hc]
    exact ⟨entries, hread, e, he, hkey⟩
  · refine ⟨_, read_step hc hread, ?_⟩
    split
    · exact ⟨e, he, hkey⟩
    · exact ⟨e.stored, mem_indexed.mpr ⟨e, .inl he, rfl⟩, hkey⟩

/-- A registration that is made on a readable index is in it. -/
theorem has_step {s : LocalStore} {c : RegisterCall} {r : SourceRecord} (hc : c.checked = .ok r) {entries : List SourceEntry}
    (hread : s.index.read = .ok entries) : (s.step c).Has r := by
  refine ⟨_, read_step hc hread, ?_⟩
  split
  · rename_i hany
    obtain ⟨e, he, hkey⟩ := List.any_eq_true.mp hany
    exact ⟨e, he, of_decide_eq_true hkey⟩
  · exact ⟨r.toSourceEntry.stored, mem_indexed.mpr ⟨r.toSourceEntry, .inr rfl, rfl⟩, rfl⟩

theorem has_run {s : LocalStore} {calls : List RegisterCall} {c : RegisterCall} (hmem : c ∈ calls) {r : SourceRecord}
    (hc : c.checked = .ok r) {entries : List SourceEntry} (hread : (Machine.run LocalStore.step s calls).index.read = .ok entries) :
    (Machine.run LocalStore.step s calls).Has r := by
  induction calls using List.reverseRecOn generalizing entries with
  | nil => cases hmem
  | append_singleton calls c' ih =>
    rw [Machine.run_append, Machine.run_cons, Machine.run_nil] at hread ⊢
    rcases hbefore : (Machine.run LocalStore.step s calls).index.read with e | earlier
    · rw [read_step_error hbefore] at hread
      cases hread
    · rcases List.mem_append.mp hmem with hmem | hmem
      · exact (ih hmem hbefore).step c'
      · obtain rfl := List.mem_singleton.mp hmem
        exact has_step hc hbefore

theorem read_run_error {s : LocalStore} {calls : List RegisterCall} {e : Exc}
    (h : (Machine.run step s calls).index.read = .error e) : s.index.read = .error e := by
  induction calls generalizing s with
  | nil => exact h
  | cons c calls ih =>
    have hstep : (s.step c).index.read = .error e := ih h
    rcases hread : s.index.read with e' | entries
    · rw [read_step_error hread] at hstep
      rw [Except.error.inj hstep]
    · rcases hc : c.checked with e' | r
      · rw [step, registerBytes_error hc, hread] at hstep
        cases hstep
      · rw [read_step hc hread] at hstep
        cases hstep

theorem read_run_of_error {s : LocalStore} {e : Exc} (h : s.index.read = .error e) (calls : List RegisterCall) :
    (Machine.run step s calls).index.read = .error e := by
  induction calls generalizing s with
  | nil => exact h
  | cons c calls ih => exact ih (read_step_error h)

end LocalStore

/-! ## The invariant -/

namespace Processes

/-- What a process that is registering the record relies on. -/
def WritingHolds (s : Processes) (c : RegisterCall) (r : SourceRecord) : Writing → Prop
  | .entered | .locked | .initialized | .finished (.error _) => True
  | .emptyIndexWritten => s.disk.index.read = .ok []
  | .indexRead entries | .blobWritten entries =>
    s.disk.index.read = .ok entries ∧ (entries.any fun e => decide (e.versionKey = r.versionKey)) = false
  | .blobPresent entries =>
    (s.disk.index.read = .ok entries ∧ (entries.any fun e => decide (e.versionKey = r.versionKey)) = false) ∧
      s.disk.Matches r.contentFingerprint
  | .indexWritten written => ∃ entries,
    (s.disk.index.read = .ok entries ∧ (entries.any fun e => decide (e.versionKey = r.versionKey)) = false) ∧
      s.disk.Matches r.contentFingerprint ∧ written = LocalStore.indexed entries r
  | .finished (.ok r') => r' = r ∧ s.disk.Has r ∧ c ∈ s.committed

variable (start : LocalStore)

/-- What a process relies on. -/
def TaskHolds (s : Processes) (n : Nat) : Task → Prop
  | .register c r w => c.checked = .ok r ∧ (w.Critical → s.holder = some n) ∧ s.WritingHolds c r w
  | .registered c (.ok r) => c.checked = .ok r ∧ s.disk.Has r ∧ c ∈ s.committed
  | .listing remaining _ => ∀ e ∈ remaining, s.disk.Matches e.contentFingerprint ∨ start.Blobless e
  | .listed (.error _) => start.Faulty
  | _ => True

structure Invariant (s : Processes) : Prop where
  index : s.disk.index.read = (Machine.run LocalStore.step start s.committed).index.read
  blobs : ∀ entries, s.disk.index.read = .ok entries → ∀ e ∈ entries,
    s.disk.Matches e.contentFingerprint ∨ start.Blobless e
  text : ∀ fingerprint raw, s.disk.blobs.lookup fingerprint = some raw → sha256Bytes raw = fingerprint →
    String.fromUTF8? raw = none → start.blobs.lookup fingerprint = some raw
  tasks : ∀ n t, s.tasks[n]? = some t → s.TaskHolds start n t

variable {start} {s s' : Processes} {n : Nat}

/-- What another process relies on outlasts a step, if that one leaves the
disk and the lock to whoever has it. -/
theorem TaskHolds.later {t : Task} (h : s.TaskHolds start n t) (hlater : s.disk.Later s'.disk)
    (hcommitted : ∀ c ∈ s.committed, c ∈ s'.committed)
    (hheld : s.holder = some n → s'.holder = some n ∧ s'.disk = s.disk) : s'.TaskHolds start n t := by
  cases t with
  | register c r w =>
    obtain ⟨hc, hcritical, hw⟩ := h
    by_cases hw' : w.Critical
    · obtain ⟨hholder, hdisk⟩ := hheld (hcritical hw')
      refine ⟨hc, fun _ => hholder, ?_⟩
      cases w with
      | entered | locked | initialized => trivial
      | finished result =>
        rcases result with e | r'
        · trivial
        · exact ⟨hw.1, hdisk ▸ hw.2.1, hcommitted c hw.2.2⟩
      | _ => simpa only [WritingHolds, hdisk] using hw
    · cases w with
      | entered => exact ⟨hc, nofun, trivial⟩
      | _ => exact absurd trivial hw'
  | registered c result =>
    rcases result with e | r
    · trivial
    · exact ⟨h.1, h.2.1.later hlater, hcommitted c h.2.2⟩
  | listing remaining found => exact fun e he => (h e he).imp_left (hlater.blobs _)
  | listed result => rcases result <;> exact h
  | list project includeHistory => trivial
  | crashed => trivial

/-- A step of one process keeps the invariant, if what it leaves on the disk is
what the invariant says, and the process has what it relies on. -/
theorem Invariant.update {t : Task} (h : s.Invariant start) (htasks : s'.tasks = s.tasks.set n t)
    (hlater : s.disk.Later s'.disk) (hcommitted : ∀ c ∈ s.committed, c ∈ s'.committed)
    (hheld : ∀ m ≠ n, s.holder = some m → s'.holder = some m ∧ s'.disk = s.disk)
    (hindex : s'.disk.index.read = (Machine.run LocalStore.step start s'.committed).index.read)
    (hblobs : ∀ entries, s'.disk.index.read = .ok entries → ∀ e ∈ entries,
      s'.disk.Matches e.contentFingerprint ∨ start.Blobless e)
    (htext : ∀ fingerprint raw, s'.disk.blobs.lookup fingerprint = some raw → sha256Bytes raw = fingerprint →
      String.fromUTF8? raw = none → start.blobs.lookup fingerprint = some raw)
    (hown : s'.TaskHolds start n t) : s'.Invariant start := by
  refine ⟨hindex, hblobs, htext, fun m u hu => ?_⟩
  rw [htasks, List.getElem?_set] at hu
  split at hu
  · rename_i hnm
    subst hnm
    split at hu
    · obtain rfl := Option.some.inj hu
      exact hown
    · cases hu
  · rename_i hnm
    exact (h.tasks m u hu).later hlater hcommitted (hheld m fun e => hnm e.symm)

/-- A step that leaves the disk and the calls that are committed. -/
theorem Invariant.become {t : Task} (h : s.Invariant start) (htasks : s'.tasks = s.tasks.set n t) (hdisk : s'.disk = s.disk)
    (hcommitted : s'.committed = s.committed) (hheld : ∀ m ≠ n, s.holder = some m → s'.holder = some m)
    (hown : s'.TaskHolds start n t) : s'.Invariant start := by
  refine h.update htasks (hdisk ▸ .refl _) (fun c hc => hcommitted ▸ hc) (fun m hm hholder => ⟨hheld m hm hholder, hdisk⟩)
    ?_ ?_ ?_ hown
  · rw [hdisk, hcommitted]
    exact h.index
  · rw [hdisk]
    exact h.blobs
  · rw [hdisk]
    exact h.text

omit [Runtime] in
/-- Only the process that has the lock has it. -/
theorem held_of_holder {property : Nat → Prop} (hholder : s.holder = some n) :
    ∀ m ≠ n, s.holder = some m → property m := by
  intro m hm hm'
  rw [hholder, Option.some.injEq] at hm'
  exact absurd hm'.symm hm

/-! ## The steps -/

omit [Runtime] in
theorem mem_committed {c : RegisterCall} : ∀ c' ∈ s.committed, c' ∈ s.committed ++ [c] :=
  fun _ h => List.mem_append.mpr (.inl h)

theorem Invariant.writeIndex (h : s.Invariant start) {c : RegisterCall} {r : SourceRecord} {written : List SourceEntry}
    (ht : s.TaskHolds start n (.register c r (.indexWritten written))) :
    (s.write n c r (.indexWritten written)).Invariant start := by
  obtain ⟨hc, hholder, entries, ⟨hread, hnew⟩, hmatches, rfl⟩ := ht
  have hkey : ∀ e ∈ entries, ∃ e' ∈ LocalStore.indexed entries r, e'.versionKey = e.versionKey := fun e he =>
    ⟨e.stored, LocalStore.mem_indexed.mpr ⟨e, .inl he, rfl⟩, rfl⟩
  refine h.update rfl ⟨fun entries' hread' => ⟨_, rfl, ?_⟩, fun _ hf => hf⟩ mem_committed (held_of_holder (hholder trivial)) ?_ ?_
    h.text ⟨hc, fun _ => hholder trivial, rfl, ⟨_, rfl, r.toSourceEntry.stored, ?_, rfl⟩, List.mem_append.mpr (.inr ?_)⟩
  · obtain rfl := Except.ok.inj (hread.symm.trans hread')
    exact hkey
  · have hbefore := h.index
    rw [hread] at hbefore
    have hafter := LocalStore.read_step hc hbefore.symm
    rw [hnew, if_neg Bool.false_ne_true] at hafter
    show IndexFile.read (.sources (LocalStore.indexed entries r)) = _
    rw [show (s.write n c r (.indexWritten (LocalStore.indexed entries r))).committed = s.committed ++ [c] from rfl,
      Machine.run_append, Machine.run_cons, Machine.run_nil, hafter, IndexFile.read]
  · intro entries' hread' e he
    obtain rfl := Except.ok.inj hread'
    obtain ⟨x, hx | rfl, rfl⟩ := LocalStore.mem_indexed.mp he
    · exact (h.blobs entries hread x hx).imp id id
    · exact .inl hmatches
  · exact LocalStore.mem_indexed.mpr ⟨r.toSourceEntry, .inr rfl, rfl⟩
  · exact List.mem_singleton.mpr rfl

theorem Invariant.writeBlob (h : s.Invariant start) {c : RegisterCall} {r : SourceRecord} {entries : List SourceEntry}
    (ht : s.TaskHolds start n (.register c r (.blobWritten entries))) :
    (s.write n c r (.blobWritten entries)).Invariant start := by
  obtain ⟨hc, hholder, hread⟩ := ht
  have hfingerprint : sha256Bytes r.content.toUTF8 = r.contentFingerprint := (c.derived hc).fingerprint.symm
  have hlookup : ∀ fingerprint, (s.write n c r (.blobWritten entries)).disk.blobs.lookup fingerprint =
      if fingerprint = r.contentFingerprint then some r.content.toUTF8 else s.disk.blobs.lookup fingerprint := by
    intro fingerprint
    simp only [write, Processes.become, List.lookup_cons]
    by_cases hf : fingerprint = r.contentFingerprint
    · rw [beq_iff_eq.mpr hf, if_pos hf]
    · rw [beq_eq_false_iff_ne.mpr hf, if_neg hf]
  have hmatches : ∀ fingerprint, s.disk.Matches fingerprint →
      (s.write n c r (.blobWritten entries)).disk.Matches fingerprint := by
    rintro fingerprint ⟨raw, hraw, hsha⟩
    by_cases hf : fingerprint = r.contentFingerprint
    · exact ⟨r.content.toUTF8, by rw [hlookup, if_pos hf], hf ▸ hfingerprint⟩
    · exact ⟨raw, by rw [hlookup, if_neg hf, hraw], hsha⟩
  refine h.update rfl ⟨fun entries' hread' => ⟨entries', hread', fun e he => ⟨e, he, rfl⟩⟩, hmatches⟩ (fun _ h => h)
    (held_of_holder (hholder trivial)) h.index (fun entries' hread' e he => (h.blobs entries' hread' e he).imp_left (hmatches _)) ?_
    ⟨hc, fun _ => hholder trivial, hread, r.content.toUTF8, by rw [hlookup, if_pos rfl], hfingerprint⟩
  intro fingerprint raw hraw hsha htext
  rw [hlookup] at hraw
  split at hraw
  · obtain rfl := Option.some.inj hraw
    rw [fromUTF8?_toUTF8] at htext
    cases htext
  · exact h.text fingerprint raw hraw hsha htext

theorem Invariant.write (h : s.Invariant start) {c : RegisterCall} {r : SourceRecord} {w : Writing}
    (ht : s.TaskHolds start n (.register c r w)) : (s.write n c r w).Invariant start := by
  have hc := ht.1
  cases w with
  | entered =>
    simp only [Processes.write]
    split
    · exact h
    · rename_i hfree
      rw [Option.isSome_iff_ne_none, not_not] at hfree
      exact h.become rfl rfl rfl (fun m _ hm => by rw [hfree] at hm; cases hm) ⟨hc, fun _ => rfl, trivial⟩
  | locked =>
    have hholder := ht.2.1 trivial
    refine h.become rfl rfl rfl (fun _ _ hm => hm) ⟨hc, fun _ => hholder, ?_⟩
    rcases hindex : s.disk.index with _ | _ | _ | entries
    · show s.disk.index.read = .ok []
      rw [hindex]
      rfl
    all_goals trivial
  | emptyIndexWritten =>
    obtain ⟨-, hholder, hread⟩ := ht
    refine h.update rfl ⟨fun entries hentries => ⟨entries, ?_, fun e he => ⟨e, he, rfl⟩⟩, fun _ hf => hf⟩ (fun _ h => h)
      (held_of_holder (hholder trivial)) ?_ (fun entries hentries e he => ?_) h.text ⟨hc, fun _ => hholder trivial, trivial⟩
    · exact hentries ▸ hread ▸ rfl
    · exact h.index ▸ hread ▸ rfl
    · obtain rfl := Except.ok.inj hentries
      cases he
  | initialized =>
    have hholder := ht.2.1 trivial
    simp only [Processes.write]
    split
    · exact h.become rfl rfl rfl (fun _ _ hm => hm) ⟨hc, fun _ => hholder, trivial⟩
    · rename_i entries hread
      split
      · rename_i hany
        have hafter := LocalStore.read_step hc (h.index.symm.trans hread)
        rw [hany, if_pos rfl] at hafter
        obtain ⟨e, he, hkey⟩ := List.any_eq_true.mp hany
        refine h.update rfl (.refl _) mem_committed (held_of_holder hholder) ?_ h.blobs h.text
          ⟨hc, fun _ => hholder, rfl, ⟨entries, hread, e, he, of_decide_eq_true hkey⟩, List.mem_append.mpr (.inr ?_)⟩
        · show s.disk.index.read = _
          rw [show (Processes.become _ n _).committed = s.committed ++ [c] from rfl, Machine.run_append, Machine.run_cons,
            Machine.run_nil, hafter, hread]
        · exact List.mem_singleton.mpr rfl
      · rename_i hnew
        exact h.become rfl rfl rfl (fun _ _ hm => hm) ⟨hc, fun _ => hholder, hread, Bool.eq_false_iff.mpr hnew⟩
  | indexRead entries =>
    obtain ⟨-, hholder, hread⟩ := ht
    refine h.become rfl rfl rfl (fun _ _ hm => hm) ?_
    split
    · rename_i hmatches
      exact ⟨hc, fun _ => hholder trivial, hread, hmatches⟩
    · exact ⟨hc, fun _ => hholder trivial, hread⟩
  | blobWritten entries => exact h.writeBlob ht
  | blobPresent entries =>
    obtain ⟨-, hholder, hread, hmatches⟩ := ht
    exact h.become rfl rfl rfl (fun _ _ hm => hm) ⟨hc, fun _ => hholder trivial, entries, hread, hmatches, rfl⟩
  | indexWritten entries => exact h.writeIndex ht
  | finished result =>
    obtain ⟨-, hholder, hresult⟩ := ht
    refine h.become rfl rfl rfl (held_of_holder (hholder trivial)) ?_
    rcases result with e | r'
    · trivial
    · obtain ⟨rfl, hhas, hmem⟩ := hresult
      exact ⟨hc, hhas, hmem⟩

/-- A reader that fails has found a fault that the store had. -/
theorem Invariant.faulty (h : s.Invariant start) {e : SourceEntry} (he : s.disk.Matches e.contentFingerprint ∨ start.Blobless e)
    {exc : Exc} (hread : s.disk.recordFromDict e = .error exc) : start.Faulty := by
  rcases he with ⟨raw, hraw, hsha⟩ | he
  · rcases htext : String.fromUTF8? raw with _ | content
    · exact .text e.contentFingerprint raw (h.text _ _ hraw hsha htext) hsha htext
    · simp only [LocalStore.recordFromDict, hraw, htext, hsha, bne_self_eq_false, Bool.false_eq_true, ↓reduceIte] at hread
      cases hread
  · exact .blob e he

theorem Invariant.unreadable (h : s.Invariant start) {exc : Exc} (hread : s.disk.index.read = .error exc) : start.Faulty :=
  .index exc (LocalStore.read_run_error (h.index.symm.trans hread))

theorem Invariant.proceed (h : s.Invariant start) {t : Task} (ht : s.TaskHolds start n t) : (s.proceed n t).Invariant start := by
  cases t with
  | register c r w => exact h.write ht
  | list project includeHistory =>
    refine h.become rfl rfl rfl (fun _ _ hm => hm) ?_
    split
    · rename_i e hread
      exact h.unreadable hread
    · rename_i entries hread
      exact fun e he => h.blobs entries hread e (mem_of_mem_selectVersions he)
  | listing remaining found =>
    cases remaining with
    | nil => exact h.become rfl rfl rfl (fun _ _ hm => hm) trivial
    | cons e remaining =>
      have hremaining : ∀ e' ∈ e :: remaining, s.disk.Matches e'.contentFingerprint ∨ start.Blobless e' := ht
      rw [List.forall_mem_cons] at hremaining
      refine h.become rfl rfl rfl (fun _ _ hm => hm) ?_
      split
      · rename_i exc hread
        exact h.faulty hremaining.1 hread
      · exact hremaining.2
  | registered c result => exact h
  | listed result => exact h
  | crashed => exact h

theorem Invariant.start_task (h : s.Invariant start) {t : Task} (ht : ∀ n, s.TaskHolds start n t) :
    ({ s with tasks := s.tasks ++ [t] } : Processes).Invariant start := by
  refine ⟨h.index, h.blobs, h.text, fun n u hu => ?_⟩
  have hkept : ∀ v, s.TaskHolds start n v → ({ s with tasks := s.tasks ++ [t] } : Processes).TaskHolds start n v :=
    fun v hv => hv.later (.refl _) (fun _ h => h) (fun hm => ⟨hm, rfl⟩)
  by_cases hn : n < s.tasks.length
  · rw [List.getElem?_append_left hn] at hu
    exact hkept u (h.tasks n u hu)
  · rw [List.getElem?_append_right (not_lt.mp hn)] at hu
    obtain rfl := List.mem_singleton.mp (List.mem_of_getElem? hu)
    exact hkept u (ht n)

theorem Invariant.step (h : s.Invariant start) (op : ProcessOp) : (s.step op).Invariant start := by
  cases op with
  | register c =>
    refine h.start_task fun n => ?_
    split
    · trivial
    · rename_i r hc
      exact ⟨hc, nofun, trivial⟩
  | list project includeHistory => exact h.start_task fun n => trivial
  | proceed n =>
    simp only [Processes.step]
    split
    · rename_i t ht
      exact h.proceed (h.tasks n t ht)
    · exact h
  | crash n =>
    refine h.become rfl rfl rfl (fun m hm hholder => ?_) trivial
    have hne : s.holder ≠ some n := fun e => hm (Option.some.inj (hholder.symm.trans e))
    exact (if_neg hne).trans hholder

/-! ## Runs -/

/-- The processes on a store before any has started. -/
def fresh (start : LocalStore) : Processes := { disk := start }

theorem invariant_fresh (start : LocalStore) : (fresh start).Invariant start := by
  refine ⟨rfl, fun entries hread e he => ?_, fun _ _ h _ _ => h, fun n t ht => by simp [fresh] at ht⟩
  by_cases hmatches : start.Matches e.contentFingerprint
  · exact .inl hmatches
  · exact .inr ⟨hmatches, entries, hread, e, he, rfl⟩

theorem invariant_run (start : LocalStore) (ops : List ProcessOp) :
    (Machine.run Processes.step (fresh start) ops).Invariant start :=
  have halong : Machine.Along Processes.step (fun _ _ => True) (fresh start) ops := Machine.along_of_forall _ fun _ _ => trivial
  Machine.run_invariant Processes.step (Invariant start) (fun _ op h _ => h.step op) (invariant_fresh start) halong

/-- The calls that are committed and those that are under way have the property. -/
structure Calls (property : RegisterCall → Prop) (s : Processes) : Prop where
  committed : ∀ c ∈ s.committed, property c
  tasks : ∀ c r w, Task.register c r w ∈ s.tasks → property c

variable {property : RegisterCall → Prop}

omit [Runtime] in
theorem Calls.become (h : s.Calls property) {t : Task} (ht : ∀ c r w, t = .register c r w → property c)
    (hcommitted : ∀ c ∈ s'.committed, property c) (htasks : s'.tasks = s.tasks.set n t) : s'.Calls property := by
  refine ⟨hcommitted, fun c r w hmem => ?_⟩
  rw [htasks] at hmem
  rcases List.mem_or_eq_of_mem_set hmem with hmem | rfl
  exacts [h.tasks c r w hmem, ht c r w rfl]

theorem Calls.write (h : s.Calls property) {c : RegisterCall} (hc : property c) (r : SourceRecord) (w : Writing) :
    (s.write n c r w).Calls property := by
  have hown : ∀ w' c' r' w'', Task.register c r w' = .register c' r' w'' → property c' := by
    rintro w' c' r' w'' ⟨⟩
    exact hc
  have hcommit : ∀ c' ∈ s.committed ++ [c], property c' :=
    List.forall_mem_append.mpr ⟨h.committed, List.forall_mem_singleton.mpr hc⟩
  cases w with
  | entered =>
    simp only [Processes.write]
    split
    · exact h
    · exact h.become (hown _) h.committed rfl
  | initialized =>
    simp only [Processes.write]
    split
    · exact h.become (hown _) h.committed rfl
    · split
      · exact h.become (hown _) hcommit rfl
      · exact h.become (hown _) h.committed rfl
  | indexWritten entries => exact h.become (hown _) hcommit rfl
  | finished result => exact h.become (by rintro c' r' w' ⟨⟩) h.committed rfl
  | _ => exact h.become (hown _) h.committed rfl

theorem Calls.step (h : s.Calls property) (op : ProcessOp) (hop : ∀ c, op = .register c → property c) : (s.step op).Calls property := by
  cases op with
  | register c =>
    refine ⟨h.committed, fun c' r w hmem => ?_⟩
    rcases List.mem_append.mp hmem with hmem | hmem
    · exact h.tasks c' r w hmem
    · have hown := List.mem_singleton.mp hmem
      split at hown
      · cases hown
      · obtain ⟨rfl, -⟩ := Task.register.inj hown
        exact hop c' rfl
  | list project includeHistory =>
    refine ⟨h.committed, fun c r w hmem => h.tasks c r w ?_⟩
    rcases List.mem_append.mp hmem with hmem | hmem
    · exact hmem
    · cases List.mem_singleton.mp hmem
  | proceed n =>
    simp only [Processes.step]
    split
    · rename_i t ht
      cases t with
      | register c r w => exact h.write (h.tasks c r w (List.mem_of_getElem? ht)) r w
      | list project includeHistory => exact h.become (by intro c r w; split <;> rintro ⟨⟩) h.committed rfl
      | listing remaining found =>
        cases remaining with
        | nil => exact h.become (by rintro c r w ⟨⟩) h.committed rfl
        | cons e remaining => exact h.become (by intro c r w; split <;> rintro ⟨⟩) h.committed rfl
      | _ => exact h
    · exact h
  | crash n => exact h.become (by rintro c' r' w' ⟨⟩) h.committed rfl

/-- Every call that is committed has been made. -/
theorem calls_run (start : LocalStore) (ops : List ProcessOp) :
    (Machine.run Processes.step (fresh start) ops).Calls fun c => .register c ∈ ops := by
  have halong : Machine.Along Processes.step (fun _ op => op ∈ ops) (fresh start) ops := Machine.along_of_forall _ fun _ hop => hop
  refine Machine.run_invariant Processes.step (Calls fun c => .register c ∈ ops) ?_ ⟨?_, ?_⟩ halong
  · exact fun s op h hop => h.step op fun c e => e ▸ hop
  · exact fun c hc => nomatch hc
  · exact fun c r w hmem => nomatch hmem

theorem committed_write (s : Processes) (n : Nat) (c : RegisterCall) (r : SourceRecord) (w : Writing) :
    s.committed <+: (s.write n c r w).committed := by
  cases w with
  | entered =>
    simp only [Processes.write]
    split
    exacts [List.prefix_rfl, List.prefix_rfl]
  | initialized =>
    simp only [Processes.write]
    split
    · exact List.prefix_rfl
    · split
      exacts [List.prefix_append _ _, List.prefix_rfl]
  | indexWritten entries => exact List.prefix_append _ _
  | _ => exact List.prefix_rfl

/-- What is committed stays so, in its place. -/
theorem committed_run (s : Processes) (ops : List ProcessOp) : s.committed <+: (Machine.run Processes.step s ops).committed := by
  have hstep : ∀ (s : Processes) (op : ProcessOp), s.committed <+: (s.step op).committed := by
    intro s op
    cases op with
    | proceed n =>
      simp only [Processes.step]
      split
      · rename_i t ht
        cases t with
        | register c r w => exact committed_write s n c r w
        | listing remaining found => cases remaining <;> exact List.prefix_rfl
        | _ => exact List.prefix_rfl
      · exact List.prefix_rfl
    | _ => exact List.prefix_rfl
  induction ops generalizing s with
  | nil => exact List.prefix_rfl
  | cons op ops ih => exact (hstep s op).trans (ih _)

/-! ## A process left alone -/

/-- If only process `n` goes on, it comes to return the result, and leaves the disk so and the lock free. -/
def Leaves (s : Processes) (n : Nat) (c : RegisterCall) (disk : LocalStore) (result : Except Exc SourceRecord) : Prop :=
  ∃ k, (Machine.run Processes.step s (List.replicate k (.proceed n))).disk = disk ∧
    (Machine.run Processes.step s (List.replicate k (.proceed n))).holder = none ∧
    (Machine.run Processes.step s (List.replicate k (.proceed n))).tasks[n]? = some (.registered c result)

variable {c : RegisterCall} {r : SourceRecord} {disk : LocalStore} {result : Except Exc SourceRecord}

theorem Leaves.of_write {w : Writing} (ht : s.tasks[n]? = some (.register c r w)) (h : (s.write n c r w).Leaves n c disk result) :
    s.Leaves n c disk result := by
  obtain ⟨k, h⟩ := h
  have hstep : s.step (.proceed n) = s.write n c r w := by simp only [Processes.step, ht, Processes.proceed]
  exact ⟨k + 1, by rwa [List.replicate_succ, Machine.run_cons, hstep]⟩

omit [Runtime] in
theorem tasks_become {t : Task} (ht : s.tasks[n]? = some t) (htasks : s'.tasks = s.tasks) (t' : Task) :
    (s'.become n t').tasks[n]? = some t' := by
  obtain ⟨hn, -⟩ := List.getElem?_eq_some_iff.mp ht
  rw [Processes.become, htasks, List.getElem?_set_self hn]

theorem leaves_finished (ht : s.tasks[n]? = some (.register c r (.finished result))) : s.Leaves n c s.disk result :=
  .of_write ht ⟨0, rfl, rfl, tasks_become ht rfl _⟩

theorem leaves_blobPresent {entries : List SourceEntry} (ht : s.tasks[n]? = some (.register c r (.blobPresent entries))) :
    s.Leaves n c { s.disk with index := .sources (LocalStore.indexed entries r) } (.ok r) := by
  have hwritten := tasks_become ht (Eq.refl s.tasks) (.register c r (.indexWritten (LocalStore.indexed entries r)))
  exact .of_write ht (.of_write hwritten (leaves_finished (tasks_become hwritten rfl _)))

theorem writeBlob_eq (disk : LocalStore) (fingerprint : String) (content : ByteArray) :
    LocalStore.writeBlob disk.blobs fingerprint content =
      if disk.Matches fingerprint then disk.blobs else (fingerprint, content) :: disk.blobs := by
  rw [LocalStore.writeBlob]
  cases hraw : disk.blobs.lookup fingerprint with
  | some raw => simp [LocalStore.Matches, hraw]
  | none => simp [LocalStore.Matches, hraw]

theorem leaves_indexRead {entries : List SourceEntry} (ht : s.tasks[n]? = some (.register c r (.indexRead entries))) :
    s.Leaves n c { index := .sources (LocalStore.indexed entries r),
                   blobs := LocalStore.writeBlob s.disk.blobs r.contentFingerprint r.content.toUTF8 } (.ok r) := by
  refine .of_write ht ?_
  rw [writeBlob_eq, Processes.write]
  split
  · exact leaves_blobPresent (tasks_become ht rfl _)
  · have hwritten := tasks_become ht (Eq.refl s.tasks) (.register c r (.blobWritten entries))
    exact .of_write hwritten (leaves_blobPresent (tasks_become hwritten rfl _))

/-- From the initialized index on, the process does what `register_bytes` does. -/
theorem leaves_initialized (hc : c.checked = .ok r) (hinitialized : s.disk.initialized = s.disk)
    (ht : s.tasks[n]? = some (.register c r .initialized)) :
    s.Leaves n c (s.disk.step c) (s.disk.registerBytes c).1 := by
  refine .of_write ht ?_
  cases hread : s.disk.index.read with
  | error e =>
    simp only [LocalStore.step, LocalStore.registerBytes, hc, hinitialized, Processes.write, hread]
    exact leaves_finished (tasks_become ht rfl _)
  | ok entries =>
    cases hany : entries.any fun e => decide (e.versionKey = r.versionKey) with
    | true =>
      simp only [LocalStore.step, LocalStore.registerBytes, hc, hinitialized, Processes.write, hread, hany, ↓reduceIte]
      exact leaves_finished (tasks_become ht rfl _)
    | false =>
      simp only [LocalStore.step, LocalStore.registerBytes, hc, hinitialized, Processes.write, hread, hany, Bool.false_eq_true,
        ↓reduceIte]
      exact leaves_indexRead (tasks_become ht rfl _)

theorem registerBytes_initialized (hc : c.checked = .ok r) (disk : LocalStore) :
    disk.initialized.initialized = disk.initialized ∧ disk.initialized.registerBytes c = disk.registerBytes c := by
  have hinitialized : disk.initialized.initialized = disk.initialized := by
    rcases disk with ⟨_ | _ | _ | entries, blobs⟩ <;> rfl
  exact ⟨hinitialized, by simp only [LocalStore.registerBytes, hc, hinitialized]⟩

theorem leaves_locked (hc : c.checked = .ok r) (ht : s.tasks[n]? = some (.register c r .locked)) :
    s.Leaves n c (s.disk.step c) (s.disk.registerBytes c).1 := by
  obtain ⟨hinitialized, hregister⟩ := registerBytes_initialized hc s.disk
  refine .of_write ht ?_
  rw [LocalStore.step, ← hregister]
  cases hindex : s.disk.index with
  | absent =>
    have habsent : s.disk.initialized = { s.disk with index := .sources [] } := by rw [LocalStore.initialized, hindex]
    rw [habsent] at hinitialized ⊢
    have hempty := tasks_become ht (Eq.refl s.tasks) (.register c r .emptyIndexWritten)
    simp only [Processes.write, hindex]
    exact .of_write hempty (leaves_initialized hc hinitialized (tasks_become hempty rfl _))
  | _ =>
    have hpresent : s.disk.initialized = s.disk := by rw [LocalStore.initialized, hindex]
    rw [hpresent] at hinitialized ⊢
    simp only [Processes.write, hindex]
    exact leaves_initialized hc hinitialized (tasks_become ht rfl _)

end Processes

/-- A process that is left alone on a store that nobody has locked returns what
`register_bytes` returns on that store, and leaves the store that it leaves. -/
theorem registers_alone {s : Processes} {n : Nat} {c : RegisterCall} {r : SourceRecord} (hfree : s.holder = none)
    (hc : c.checked = .ok r) (ht : s.tasks[n]? = some (.register c r .entered)) :
    s.Leaves n c (s.disk.step c) (s.disk.registerBytes c).1 := by
  refine .of_write ht ?_
  simp only [Processes.write, hfree]
  exact Processes.leaves_locked hc (Processes.tasks_become ht rfl _)

/-- Whatever the processes do and wherever they stop: the index is the one that
the registrations that have come to replace it leave, one after the other; its
entries have their blobs, but for entries that the store had without; a
registration that has returned is in it, and stays in it; and listing the
sources fails, at once or beside the others, only on a fault that the store
had. -/
theorem registration_atomic (start : LocalStore) (ops : List ProcessOp) :
    let s := Machine.run Processes.step (Processes.fresh start) ops
    s.disk.index.read = (Machine.run LocalStore.step start s.committed).index.read ∧
    (∀ c ∈ s.committed, .register c ∈ ops) ∧
    (∀ entries, s.disk.index.read = .ok entries → ∀ e ∈ entries,
      s.disk.Matches e.contentFingerprint ∨ start.Blobless e) ∧
    (∀ (n : Nat) c r, s.tasks[n]? = some (Task.registered c (.ok r)) → c ∈ s.committed ∧
      ∀ more, (Machine.run Processes.step s more).disk.Has r) ∧
    (∀ (n : Nat) e, s.tasks[n]? = some (Task.listed (.error e)) → start.Faulty) ∧
    ∀ project includeHistory e, s.disk.listSources project includeHistory = .error e → start.Faulty := by
  intro s
  have h := Processes.invariant_run start ops
  refine ⟨h.index, ?_, h.blobs, fun n c r ht => ?_, fun n e ht => h.tasks n _ ht, fun project includeHistory e hlist => ?_⟩
  · exact (Processes.calls_run start ops).committed
  · obtain ⟨hc, ⟨entries, hread, -⟩, hmem⟩ := h.tasks n _ ht
    refine ⟨hmem, fun more => ?_⟩
    have hlater := Processes.invariant_run start (ops ++ more)
    rw [Machine.run_append] at hlater
    have hcommitted := (Processes.committed_run s more).subset hmem
    rcases hreadable : (Machine.run LocalStore.step start (Machine.run Processes.step s more).committed).index.read with e | later
    · have hunreadable := LocalStore.read_run_of_error (LocalStore.read_run_error hreadable) s.committed
      rw [← h.index, hread] at hunreadable
      cases hunreadable
    · obtain ⟨entries', hread', hentry⟩ := LocalStore.has_run hcommitted hc hreadable
      exact ⟨entries', hlater.index.trans hread', hentry⟩
  · rcases bind_error.mp hlist with hread | ⟨entries, hread, hlist⟩
    · exact h.unreadable hread
    · obtain ⟨entry, hentry, hrecord⟩ := traverse_error hlist
      exact h.faulty (h.blobs entries hread entry (mem_of_mem_selectVersions hentry)) hrecord

end

end Pmiri
