import Pmiri.Expiry
import Pmiri.Privacy.Tampering

/-!
# Retention of traces

`EncryptedTraceStore.purge`: the files of the directory whose record has
expired are removed. A purge is not seen by any read at its time or later,
whatever others have written into the directory; and if nobody does, a trace
has a file until the first purge at its expiry or after it.
-/

namespace Pmiri

open Py

/-- What the `except` clause of the loop of `purge` catches. -/
def TraceError.skipped : TraceError → Bool
  | .permissionError _ => true
  | .keyManagementError _ => false
  | .raised e =>
    match e with
    | .osError _ | .keyError _ | .typeError _ | .valueError .. => true
    | _ => false

namespace EncryptedTraceStore

section

variable [FloatText]

/-- Whether a file has expired: the body of the `try` of `purge` up to the removal. -/
def fileExpired (file : Option TraceFile) (current : Int) : Except TraceError Bool :=
  match file with
  | none => .error (.raised (.osError "FileNotFoundError"))
  | some (.unreadable e) => .error e
  | some (.holds v _) =>
    match v.asDict with
    | none => .error (.raised (.typeError "object is not subscriptable"))
    | some record => (raising (timeField record "expires_at")).map fun expires => decide (expires ≤ current)

/-- The `continue` of the loop. -/
def skipOr (e : TraceError) : Except TraceError Bool := if e.skipped then .ok false else .error e

/-- A pass of the loop, which says whether a file is removed; `unlink` is how the removal of each file ends. -/
def purgeFile (files : String → Option TraceFile) (current : Int) (unlink : String → Except Exc Unit) (name : String) :
    Except TraceError Bool :=
  match fileExpired (files name) current with
  | .error e => skipOr e
  | .ok expired =>
    if expired then
      match unlink name with
      | .error e => skipOr (.raised e)
      | .ok () => .ok true
    else .ok false

def purgeFiles (current : Int) (unlink : String → Except Exc Unit) :
    List String → (String → Option TraceFile) → Nat → Except TraceError Nat × (String → Option TraceFile)
  | [], files, removed => (.ok removed, files)
  | name :: names, files, removed =>
    match purgeFile files current unlink name with
    | .error e => (.error e, files)
    | .ok gone =>
      if gone then purgeFiles current unlink names (Function.update files name none) (removed + 1)
      else purgeFiles current unlink names files removed

end

section

variable [CharacterCases] [AesGcm] [FloatText]

/-- `purge`, and the directory after it; `names` are the trace ids that the names `trace_*.json` of the directory have. -/
def purge (store : EncryptedTraceStore) (root : TraceRoot store) (now : Option String) (clock : Instant) (names : List String)
    (unlink : String → Except Exc Unit) : Except TraceError Nat × TraceRoot store :=
  match parseTime (orNow now clock) with
  | .error e => (.error (.raised e), root)
  | .ok current => ((purgeFiles current unlink names root.files 0).1,
      { root with files := (purgeFiles current unlink names root.files 0).2 })

end

/-! ## What a purge removes -/

section

variable [FloatText]

/-- A file whose record has expired. -/
def Expired (current : Int) (file : TraceFile) : Prop := fileExpired (some file) current = .ok true

theorem expired_iff {current : Int} {file : TraceFile} :
    Expired current file ↔ ∃ v hv record expires, file = .holds v hv ∧ v.asDict = some record ∧
      timeField record "expires_at" = .ok expires ∧ expires ≤ current := by
  rw [Expired]
  cases file with
  | unreadable e => simp [fileExpired]
  | holds v hv =>
    rw [fileExpired]
    cases hrecord : v.asDict with
    | none => simp [hrecord]
    | some record =>
      cases htime : timeField record "expires_at" with
      | error e => simp [raising, Except.map, hrecord, htime]
      | ok expires =>
        simp [raising, Except.map, hrecord, htime]
        exact fun _ => hv

/-- What has expired stays so. -/
theorem Expired.mono {current later : Int} {file : TraceFile} (h : Expired current file) (hle : current ≤ later) :
    Expired later file := by
  obtain ⟨v, hv, record, expires, hfile, hrecord, htime, hexpires⟩ := expired_iff.mp h
  exact expired_iff.mpr ⟨v, hv, record, expires, hfile, hrecord, htime, hexpires.trans hle⟩

/-- A pass of the loop that removes a file. -/
theorem purgeFile_true {files : String → Option TraceFile} {current : Int} {unlink : String → Except Exc Unit} {name : String} :
    purgeFile files current unlink name = .ok true ↔
      (∃ file, files name = some file ∧ Expired current file) ∧ unlink name = .ok () := by
  have hskip (e : TraceError) : skipOr e ≠ .ok true := by
    rw [skipOr]
    split <;> simp
  rw [purgeFile]
  cases hfile : files name with
  | none => simp [fileExpired, hskip]
  | some file =>
    cases hexpired : fileExpired (some file) current with
    | error e => simp [Expired, hexpired, hskip]
    | ok expired =>
      cases expired with
      | false => simp [Expired, hexpired]
      | true => cases hunlink : unlink name <;> simp [Expired, hexpired, hskip]

/-- The loop removes nothing that has not expired. -/
theorem trails_purgeFiles (current : Int) (unlink : String → Except Exc Unit) (names : List String)
    (files : String → Option TraceFile) (removed : Nat) :
    Expiry.Trails (Expired current) (purgeFiles current unlink names files removed).2 files := by
  induction names generalizing files removed with
  | nil => exact Expiry.Trails.refl files
  | cons name names ih =>
    rw [purgeFiles]
    split
    · exact Expiry.Trails.refl files
    · rename_i gone hgone
      split
      · rename_i htrue
        obtain ⟨⟨file, hfile, hexpired⟩, -⟩ := purgeFile_true.mp (htrue ▸ hgone)
        exact (ih _ _).trans (Expiry.trails_erase hfile hexpired)
      · exact ih _ _

end

/-! ## Purges and reads -/

section

variable [CharacterCases] [AesGcm] [FloatText] [Runtime] {store : EncryptedTraceStore}

/-- What is opened has not expired. -/
theorem not_expired_of_readFile {file : TraceFile} {traceId now : String} {t : Int} {payload : Dict}
    (hnow : parseTime now = .ok t) (h : store.readFile file traceId now = .ok payload) : ¬ Expired t file := by
  intro hexpired
  obtain ⟨v, hv, record, expires, rfl, hrecord, htime, hexpires⟩ := expired_iff.mp hexpired
  simp only [readFile, hrecord] at h
  obtain ⟨-, h⟩ := seq_ok.mp h
  obtain ⟨current, hcurrent, h⟩ := bind_ok.mp h
  obtain ⟨expires', hexpires', h⟩ := bind_ok.mp h
  obtain ⟨hfuture, -⟩ := seq_ok.mp h
  simp only [raising_ok, raiseTraceIf_ok, decide_eq_false_iff_not] at hcurrent hexpires' hfuture
  cases hcurrent.symm.trans hnow
  cases hexpires'.symm.trans htime
  exact hfuture hexpires

/-- What a read returns is opened from the file of the trace id. -/
theorem read_ok {root : TraceRoot store} {traceId actorRole : String} {now : Option String} {clock : Instant} {payload : Dict} :
    store.read root traceId actorRole now clock = .ok payload ↔
      actorRole ∈ store.policy.allowedAccessRoles ∧ isTraceId traceId = true ∧
        ∃ file, root.files traceId = some file ∧ store.readFile file traceId (orNow now clock) = .ok payload := by
  rw [read]
  split
  · rename_i hrole
    simp only [Bool.not_eq_true', List.contains_eq_mem, decide_eq_false_iff_not] at hrole
    simp [hrole]
  · rename_i hrole
    simp only [Bool.not_eq_true', List.contains_eq_mem, Bool.not_eq_false, decide_eq_true_eq] at hrole
    split
    · rename_i hid
      simp only [Bool.not_eq_true'] at hid
      simp [hid]
    · rename_i hid
      simp only [Bool.not_eq_true', Bool.not_eq_false] at hid
      cases hfile : root.files traceId with
      | none => simp
      | some file =>
        simp only [hrole, hid, true_and, Option.some.injEq, exists_eq_left']
        cases store.readFile file traceId (orNow now clock) <;> simp

/-- Directories of which one trails the other as to what expires by a time, are read alike from then on. -/
theorem read_of_trails {root root' : TraceRoot store} {traceId actorRole : String} {now : Option String} {clock : Instant}
    {t : Int} (hnow : parseTime (orNow now clock) = .ok t) (h : Expiry.Trails (Expired t) root.files root'.files) (payload : Dict) :
    store.read root traceId actorRole now clock = .ok payload ↔ store.read root' traceId actorRole now clock = .ok payload := by
  rw [read_ok, read_ok]
  refine and_congr_right fun _ => and_congr_right fun _ => exists_congr fun file => ?_
  exact and_congr_left fun hread => h.alive (not_expired_of_readFile hnow hread)

/-! ## Runs -/

/-- What happens to the directory, purges included. -/
inductive Upkeep where
  | event (event : Event)
  | purge (now : Option String) (clock : Instant) (names : List String) (unlink : String → Except Exc Unit)

def Upkeep.event? : Upkeep → Option Event
  | .event e => some e
  | .purge .. => none

def upkeep (root : TraceRoot store) : Upkeep → TraceRoot store
  | .event event => step root event
  | .purge now clock names unlink => (store.purge root now clock names unlink).2

/-- A purge is at the time or before it. -/
def Upkeep.PurgesBy (t : Int) : Upkeep → Prop
  | .event _ => True
  | .purge now clock _ _ => ∀ current, parseTime (orNow now clock) = .ok current → current ≤ t

/-- What a capture writes does not depend on the directory. -/
theorem trails_step {t : Int} {root root' : TraceRoot store} (h : Expiry.Trails (Expired t) root.files root'.files) (event : Event) :
    Expiry.Trails (Expired t) (step root event).files (step root' event).files := by
  cases event with
  | tamper traceId file => exact h.update traceId file
  | capture payload actorRole capturedAt clock nonce token written =>
    simp only [step, capture]
    split
    · exact h
    · split
      · exact h
      · split
        · exact h
        · split
          · exact h
          · exact h.update _ _

omit [Runtime] in
theorem trails_purge {t : Int} {root : TraceRoot store} {now : Option String} {clock : Instant} {names : List String}
    {unlink : String → Except Exc Unit} (h : (Upkeep.purge now clock names unlink).PurgesBy t) :
    Expiry.Trails (Expired t) (store.purge root now clock names unlink).2.files root.files := by
  rw [purge]
  split
  · exact Expiry.Trails.refl _
  · rename_i current hcurrent
    intro traceId
    rcases trails_purgeFiles current unlink names root.files 0 traceId with hsame | ⟨hnone, file, hfile, hexpired⟩
    · exact .inl hsame
    · exact .inr ⟨hnone, file, hfile, hexpired.mono (h current hcurrent)⟩

/-- The directory of a run trails that of the run without its purges. -/
theorem trails_run {t : Int} {events : List Upkeep} (h : ∀ u ∈ events, u.PurgesBy t) {root root' : TraceRoot store}
    (hroot : Expiry.Trails (Expired t) root.files root'.files) :
    Expiry.Trails (Expired t) (Machine.run upkeep root events).files
      (Machine.run step root' (events.filterMap Upkeep.event?)).files := by
  induction events generalizing root root' with
  | nil => exact hroot
  | cons u events ih =>
    have htail : ∀ u' ∈ events, u'.PurgesBy t := fun u' hu' => h u' (List.mem_cons_of_mem _ hu')
    cases u with
    | event event => exact ih htail (trails_step hroot event)
    | purge now clock names unlink => exact ih htail ((trails_purge (h _ List.mem_cons_self)).trans hroot)

/-- Purges are not seen by reads: after any captures, any tampering and any purges, a read that is not before one of the
purges returns what it returns when none of them is made. -/
theorem read_run_purged {events : List Upkeep} {now : Option String} {clock : Instant} {t : Int}
    (hnow : parseTime (orNow now clock) = .ok t) (h : ∀ u ∈ events, u.PurgesBy t) (traceId actorRole : String) (payload : Dict) :
    store.read (Machine.run upkeep (emptyRoot store) events) traceId actorRole now clock = .ok payload ↔
      store.read (Machine.run step (emptyRoot store) (events.filterMap Upkeep.event?)) traceId actorRole now clock =
        .ok payload :=
  read_of_trails hnow (trails_run h (Expiry.Trails.refl _)) payload

/-! ## What is retained -/

/-- The trace that a capture writes a file of. -/
def Event.trace? (store : EncryptedTraceStore) : Event → Option (SealedTrace store)
  | .capture payload actorRole capturedAt clock nonce token written =>
    if store.policy.captureEnabled && store.policy.allowedAccessRoles.contains actorRole && written.toBool then
      (store.sealTrace payload (orNow capturedAt clock) nonce token).toOption
    else none
  | .tamper .. => none

theorem files_step (root : TraceRoot store) {event : Event} (h : event.IsCapture) :
    (step root event).files =
      (event.trace? store).elim root.files fun c => Function.update root.files c.traceId (some (fileOf c)) := by
  cases event with
  | tamper traceId file => exact h.elim
  | capture payload actorRole capturedAt clock nonce token written =>
    simp only [step, capture, Event.trace?]
    cases store.policy.captureEnabled with
    | false => rfl
    | true =>
      cases store.policy.allowedAccessRoles.contains actorRole with
      | false => rfl
      | true =>
        cases store.sealTrace payload (orNow capturedAt clock) nonce token <;> cases written <;> rfl

/-- The names that `glob("trace_*.json")` finds: those of all the files. -/
structure Lists (root : TraceRoot store) (names : List String) : Prop where
  nodup : names.Nodup
  mem : ∀ traceId, traceId ∈ names ↔ "trace_".toList <+: traceId.toList ∧ (root.files traceId).isSome

/-- Nobody else writes into the directory, and a purge finds all the files and can remove them. -/
def Undisturbed (root : TraceRoot store) : Upkeep → Prop
  | .event event => event.IsCapture
  | .purge _ _ names unlink => Lists root names ∧ ∀ traceId, unlink traceId = .ok ()

/-- A trace is not written over, and not purged at its expiry or after it. -/
def Upkeep.Keeps (c : SealedTrace store) : Upkeep → Prop
  | .event e => ∀ c', e.trace? store = some c' → c'.traceId ≠ c.traceId
  | .purge now clock _ _ => ∀ current, parseTime (orNow now clock) = .ok current → current < c.expires

/-- A capture has written the trace under the id, and everything since keeps it. -/
def Retained (events : List Upkeep) (traceId : String) (c : SealedTrace store) : Prop :=
  ∃ before event after, events = before ++ .event event :: after ∧ event.trace? store = some c ∧ c.traceId = traceId ∧
    ∀ u ∈ after, u.Keeps c

omit [Runtime] in
theorem retained_concat {events : List Upkeep} {u : Upkeep} {traceId : String} {c : SealedTrace store} :
    Retained (events ++ [u]) traceId c ↔
      (∃ event, u = .event event ∧ event.trace? store = some c ∧ c.traceId = traceId) ∨
        Retained events traceId c ∧ u.Keeps c := by
  constructor
  · intro h
    obtain ⟨before, event, after, hevents, htrace, hid, hkeeps⟩ := h
    rcases List.eq_nil_or_concat after with rfl | ⟨after, u', rfl⟩
    · obtain ⟨-, hu⟩ := List.append_inj' hevents rfl
      exact .inl ⟨event, List.singleton_inj.mp hu, htrace, hid⟩
    · rw [List.concat_eq_append] at hevents hkeeps
      rw [← List.cons_append, ← List.append_assoc] at hevents
      obtain ⟨hinit, hu⟩ := List.append_inj' hevents rfl
      obtain rfl := List.singleton_inj.mp hu
      refine .inr ⟨⟨before, event, after, hinit, htrace, hid, fun u' hu' => ?_⟩, ?_⟩
      · exact hkeeps u' (List.mem_append_left _ hu')
      · exact hkeeps u (List.mem_append_right _ List.mem_cons_self)
  · intro h
    rcases h with ⟨event, rfl, htrace, hid⟩ | ⟨⟨before, event, after, rfl, htrace, hid, hkeeps⟩, hu⟩
    · exact ⟨events, event, [], rfl, htrace, hid, by simp⟩
    · refine ⟨before, event, after ++ [u], by simp, htrace, hid, fun u' hu' => ?_⟩
      rcases List.mem_append.mp hu' with hu' | hu'
      · exact hkeeps u' hu'
      · exact List.mem_singleton.mp hu' ▸ hu

/-- A trace's own file has expired when the trace has. -/
theorem fileExpired_fileOf (c : SealedTrace store) (current : Int) :
    fileExpired (some (fileOf c)) current = .ok (decide (c.expires ≤ current)) := by
  have htime := timeField_expires (presents_record c)
  simp only [fileOf, fileExpired, Val.asDict_toVal, htime, raising, Except.map]

end

/-! ## The loop -/

section

variable [FloatText]

/-- The file is there, it has expired, and it can be removed. -/
def Gone (files : String → Option TraceFile) (current : Int) (unlink : String → Except Exc Unit) (name : String) : Prop :=
  purgeFile files current unlink name = .ok true

instance (files : String → Option TraceFile) (current : Int) (unlink : String → Except Exc Unit) (name : String) :
    Decidable (Gone files current unlink name) := by
  unfold Gone
  infer_instance

theorem purgeFile_update_ne {files : String → Option TraceFile} {current : Int} {unlink : String → Except Exc Unit}
    {name name' : String} (h : name' ≠ name) :
    purgeFile (Function.update files name none) current unlink name' = purgeFile files current unlink name' := by
  rw [purgeFile, purgeFile, Function.update_apply, if_neg h]

/-- A loop that ends has removed the files that were gone, and counted them. -/
theorem purgeFiles_ok {current : Int} {unlink : String → Except Exc Unit} {names : List String} (hnames : names.Nodup)
    {files files' : String → Option TraceFile} {removed n : Nat}
    (h : purgeFiles current unlink names files removed = (.ok n, files')) :
    n = removed + (names.filter fun name => Gone files current unlink name).length ∧
      ∀ name, files' name = if name ∈ names ∧ Gone files current unlink name then none else files name := by
  induction names generalizing files removed with
  | nil =>
    cases h
    simp
  | cons name names ih =>
    obtain ⟨hname, hnames⟩ := List.nodup_cons.mp hnames
    rw [purgeFiles] at h
    split at h
    · cases h
    · rename_i gone hgone
      cases gone with
      | true =>
        rw [if_pos rfl] at h
        obtain ⟨hn, hfiles⟩ := ih hnames h
        have hsame (name' : String) (hmem : name' ∈ names) :
            Gone (Function.update files name none) current unlink name' ↔ Gone files current unlink name' := by
          have hne : name' ≠ name := fun e => hname (e ▸ hmem)
          rw [Gone, purgeFile_update_ne hne, Gone]
        have hfilter : (names.filter fun name' => Gone (Function.update files name none) current unlink name') =
            names.filter fun name' => Gone files current unlink name' :=
          List.filter_congr fun name' hmem => decide_eq_decide.mpr (hsame name' hmem)
        have hgone : Gone files current unlink name := hgone
        constructor
        · rw [hn, hfilter, List.filter_cons_of_pos (by simpa using hgone), List.length_cons]
          omega
        · intro name'
          rw [hfiles name', Function.update_apply]
          by_cases hsame' : name' = name
          · subst hsame'
            simp [hgone]
          · simp only [List.mem_cons, hsame', false_or, if_false]
            by_cases hmem : name' ∈ names
            · simp only [hmem, hsame name' hmem]
            · simp only [hmem, false_and]
      | false =>
        rw [if_neg (by simp)] at h
        obtain ⟨hn, hfiles⟩ := ih hnames h
        have hgone : ¬ Gone files current unlink name := by
          rw [Gone, hgone]
          simp
        constructor
        · rw [hn, List.filter_cons_of_neg (by simpa using hgone)]
        · intro name'
          rw [hfiles name']
          by_cases hsame' : name' = name
          · subst hsame'
            simp [hgone]
          · simp only [List.mem_cons, hsame', false_or]

/-- The loop ends if no file stops it. -/
theorem purgeFiles_ends {current : Int} {unlink : String → Except Exc Unit} {names : List String} (hnames : names.Nodup)
    {files : String → Option TraceFile} (h : ∀ name ∈ names, ∃ gone, purgeFile files current unlink name = .ok gone) (removed : Nat) :
    ∃ n, (purgeFiles current unlink names files removed).1 = .ok n := by
  induction names generalizing files removed with
  | nil => exact ⟨removed, rfl⟩
  | cons name names ih =>
    obtain ⟨hname, hnames⟩ := List.nodup_cons.mp hnames
    obtain ⟨gone, hgone⟩ := h name List.mem_cons_self
    have htail := fun name' hmem => h name' (List.mem_cons_of_mem _ hmem)
    rw [purgeFiles, hgone]
    cases gone with
    | false => exact ih hnames htail removed
    | true =>
      refine ih hnames (fun name' hmem => ?_) (removed + 1)
      have hne : name' ≠ name := fun e => hname (e ▸ hmem)
      rw [purgeFile_update_ne hne]
      exact htail name' hmem

end

/-! ## Undisturbed runs -/

section

variable [CharacterCases] [AesGcm] [FloatText] [Runtime] {store : EncryptedTraceStore}

/-- The files of the directory are those of the traces that are retained. -/
def Holds (root : TraceRoot store) (events : List Upkeep) : Prop :=
  ∀ traceId file, root.files traceId = some file ↔ ∃ c : SealedTrace store, Retained events traceId c ∧ file = fileOf c

omit [Runtime] in
theorem isTraceId_of_retained {events : List Upkeep} {traceId : String} {c : SealedTrace store} (h : Retained events traceId c) :
    isTraceId traceId = true := by
  obtain ⟨-, -, -, -, -, rfl, -⟩ := h
  exact c.token.isTraceId

theorem gone_iff {root : TraceRoot store} {events : List Upkeep} (h : Holds root events) {current : Int}
    {unlink : String → Except Exc Unit} (hunlink : ∀ traceId, unlink traceId = .ok ()) (name : String) :
    Gone root.files current unlink name ↔ ∃ c : SealedTrace store, Retained events name c ∧ c.expires ≤ current := by
  rw [Gone, purgeFile_true, and_iff_left (hunlink name)]
  constructor
  · intro hgone
    obtain ⟨file, hfile, hexpired⟩ := hgone
    obtain ⟨c, hc, rfl⟩ := (h name file).mp hfile
    rw [Expired, fileExpired_fileOf, Except.ok.injEq, decide_eq_true_eq] at hexpired
    exact ⟨c, hc, hexpired⟩
  · intro hgone
    obtain ⟨c, hc, hexpired⟩ := hgone
    refine ⟨fileOf c, (h name _).mpr ⟨c, hc, rfl⟩, ?_⟩
    rw [Expired, fileExpired_fileOf, decide_eq_true hexpired]

theorem purgeFile_returns {root : TraceRoot store} {events : List Upkeep} (h : Holds root events) (current : Int)
    {unlink : String → Except Exc Unit} (hunlink : ∀ traceId, unlink traceId = .ok ()) (name : String) :
    ∃ gone, purgeFile root.files current unlink name = .ok gone := by
  rw [purgeFile]
  cases hfile : root.files name with
  | none => exact ⟨false, rfl⟩
  | some file =>
    obtain ⟨c, -, rfl⟩ := (h name file).mp hfile
    rw [fileExpired_fileOf, hunlink]
    dsimp only
    split <;> exact ⟨_, rfl⟩

/-- A purge of a directory that nobody else writes into: how it ends, and what is left. -/
theorem purge_of_holds {root : TraceRoot store} {events : List Upkeep} (h : Holds root events) {now : Option String}
    {clock : Instant} {current : Int} (hnow : parseTime (orNow now clock) = .ok current) {names : List String}
    (hnames : Lists root names) {unlink : String → Except Exc Unit} (hunlink : ∀ traceId, unlink traceId = .ok ()) :
    (store.purge root now clock names unlink).1 =
        .ok (names.filter fun name => Gone root.files current unlink name).length ∧
      ∀ name, (store.purge root now clock names unlink).2.files name =
        if Gone root.files current unlink name then none else root.files name := by
  obtain ⟨n, hn⟩ := purgeFiles_ends hnames.nodup (fun name _ => purgeFile_returns h current hunlink name) 0
  have hends : purgeFiles current unlink names root.files 0 =
      (.ok n, (purgeFiles current unlink names root.files 0).2) := Prod.ext hn rfl
  obtain ⟨hcount, hfiles⟩ := purgeFiles_ok hnames.nodup hends
  simp only [purge, hnow]
  refine ⟨by rw [hn, hcount, Nat.zero_add], fun name => ?_⟩
  rw [hfiles name]
  by_cases hgone : Gone root.files current unlink name
  · obtain ⟨c, hc, -⟩ := (gone_iff h hunlink name).mp hgone
    have hmem : name ∈ names := by
      refine (hnames.mem name).mpr ⟨?_, ?_⟩
      · have hid := isTraceId_of_retained hc
        rw [isTraceId, Bool.and_eq_true, List.isPrefixOf_iff_prefix] at hid
        exact hid.1
      · rw [(h name (fileOf c)).mpr ⟨c, hc, rfl⟩]
        rfl
    simp only [hmem, hgone, true_and]
  · simp only [hgone, and_false]

theorem holds_upkeep {root : TraceRoot store} {events : List Upkeep} (h : Holds root events) {u : Upkeep} (hu : Undisturbed root u) :
    Holds (upkeep root u) (events ++ [u]) := by
  intro traceId file
  simp only [retained_concat]
  cases u with
  | event event =>
    rw [upkeep, files_step root hu]
    cases htrace : event.trace? store with
    | none => simp [h traceId file, htrace, Upkeep.Keeps]
    | some c =>
      rw [Option.elim, Function.update_apply]
      by_cases hid : traceId = c.traceId
      · subst hid
        rw [if_pos rfl, Option.some.injEq]
        constructor
        · intro hfile
          exact ⟨c, .inl ⟨event, rfl, htrace, rfl⟩, hfile.symm⟩
        · intro hfile
          obtain ⟨c', ⟨event', hevent, htrace', -⟩ | ⟨⟨-, -, -, -, -, hid', -⟩, hkeeps⟩, rfl⟩ := hfile
          · obtain rfl := Upkeep.event.inj hevent
            rw [Option.some.inj (htrace.symm.trans htrace')]
          · exact absurd hid'.symm (hkeeps c htrace)
      · rw [if_neg hid, h traceId file]
        refine exists_congr fun c' => and_congr_left fun _ => ?_
        constructor
        · intro hc'
          refine .inr ⟨hc', fun c'' hc'' => ?_⟩
          obtain rfl := Option.some.inj (htrace.symm.trans hc'')
          obtain ⟨-, -, -, -, -, rfl, -⟩ := hc'
          exact fun e => hid e.symm
        · intro hc'
          rcases hc' with ⟨event', hevent, htrace', hid'⟩ | ⟨hc', -⟩
          · obtain rfl := Upkeep.event.inj hevent
            obtain rfl := Option.some.inj (htrace.symm.trans htrace')
            exact absurd hid'.symm hid
          · exact hc'
  | purge now clock names unlink =>
    obtain ⟨hnames, hunlink⟩ := hu
    have hno (c : SealedTrace store) : ¬ ∃ event, Upkeep.purge now clock names unlink = .event event ∧
        event.trace? store = some c ∧ c.traceId = traceId := by
      intro hevent
      obtain ⟨event, hevent, -⟩ := hevent
      cases hevent
    simp only [hno, false_or]
    cases hnow : parseTime (orNow now clock) with
    | error e =>
      have hsame : upkeep root (.purge now clock names unlink) = root := by
        simp only [upkeep, purge, hnow]
      simp [hsame, h traceId file, Upkeep.Keeps, hnow]
    | ok current =>
      obtain ⟨-, hfiles⟩ := purge_of_holds h hnow hnames hunlink
      rw [upkeep, hfiles traceId]
      split
      · rename_i hgone
        obtain ⟨c, hc, hexpired⟩ := (gone_iff h hunlink traceId).mp hgone
        refine iff_of_false (by simp) ?_
        intro hfile
        obtain ⟨c', ⟨hc', hkeeps⟩, -⟩ := hfile
        have hsame : fileOf c' = fileOf c := by
          have h₁ := (h traceId _).mpr ⟨c, hc, rfl⟩
          have h₂ := (h traceId _).mpr ⟨c', hc', rfl⟩
          exact Option.some.inj (h₂.symm.trans h₁)
        have hexpires : decide (c'.expires ≤ current) = decide (c.expires ≤ current) := by
          have := fileExpired_fileOf c' current
          rw [hsame, fileExpired_fileOf] at this
          exact (Except.ok.inj this).symm
        have := hkeeps current hnow
        rw [decide_eq_decide] at hexpires
        omega
      · rename_i hgone
        rw [h traceId file]
        refine exists_congr fun c => and_congr_left fun _ => ?_
        refine (and_iff_left_of_imp fun hc current' hcurrent => ?_).symm
        obtain rfl := Except.ok.inj (hnow.symm.trans hcurrent)
        by_contra hexpired
        exact hgone ((gone_iff h hunlink traceId).mpr ⟨c, hc, by omega⟩)

/-- After captures and purges that nobody disturbs, the directory holds what is retained. -/
theorem holds_run {events : List Upkeep} (h : Machine.Along upkeep Undisturbed (emptyRoot store) events) :
    Holds (Machine.run upkeep (emptyRoot store) events) events := by
  induction events using List.reverseRecOn with
  | nil => simp [Holds, Machine.run, emptyRoot, Retained]
  | append_singleton events u ih =>
    obtain ⟨h, hu⟩ := (Machine.along_append upkeep).mp h
    rw [Machine.run_append]
    exact holds_upkeep (ih h) hu.1

theorem readFile_fileOf {c : SealedTrace store} {now : String} {t : Int} (hnow : parseTime now = .ok t) (payload : Dict) :
    store.readFile (fileOf c) c.traceId now = .ok payload ↔ payload = c.payload.dict.sortKeys ∧ t < c.expires := by
  constructor
  · intro h
    have hfuture := not_expired_of_readFile hnow h
    rw [Expired, fileExpired_fileOf, Except.ok.injEq, decide_eq_true_eq, not_le] at hfuture
    rw [fileOf, readFile, Val.asDict_toVal] at h
    have hopen := openRecord_of_presents (presents_record c) hnow hfuture
    exact ⟨Except.ok.inj (h.symm.trans hopen), hfuture⟩
  · intro h
    obtain ⟨rfl, hfuture⟩ := h
    rw [fileOf, readFile, Val.asDict_toVal]
    exact openRecord_of_presents (presents_record c) hnow hfuture

/-- After any undisturbed captures and purges, a read returns the payload last captured under the trace id, as long as it
has not expired and was not purged. -/
theorem read_run_retained {events : List Upkeep} (h : Machine.Along upkeep Undisturbed (emptyRoot store) events)
    {actorRole : String} (hrole : actorRole ∈ store.policy.allowedAccessRoles) {now : Option String} {clock : Instant} {t : Int}
    (hnow : parseTime (orNow now clock) = .ok t) (traceId : String) (payload : Dict) :
    store.read (Machine.run upkeep (emptyRoot store) events) traceId actorRole now clock = .ok payload ↔
      ∃ c : SealedTrace store, Retained events traceId c ∧ payload = c.payload.dict.sortKeys ∧ t < c.expires := by
  have hholds := holds_run h
  rw [read_ok]
  constructor
  · intro hread
    obtain ⟨-, -, file, hfile, hread⟩ := hread
    obtain ⟨c, hc, rfl⟩ := (hholds traceId file).mp hfile
    obtain ⟨-, -, -, -, -, rfl, -⟩ := id hc
    exact ⟨c, hc, (readFile_fileOf hnow payload).mp hread⟩
  · intro hretained
    obtain ⟨c, hc, hpayload⟩ := hretained
    refine ⟨hrole, isTraceId_of_retained hc, fileOf c, (hholds traceId _).mpr ⟨c, hc, rfl⟩, ?_⟩
    obtain ⟨-, -, -, -, -, rfl, -⟩ := hc
    exact (readFile_fileOf hnow payload).mpr hpayload

/-- A purge then raises nothing; it leaves the traces that have not expired, and returns how many fewer they are. -/
theorem purge_run_counts {events : List Upkeep} (h : Machine.Along upkeep Undisturbed (emptyRoot store) events)
    {now : Option String} {clock : Instant} {t : Int} (hnow : parseTime (orNow now clock) = .ok t) {names : List String}
    {unlink : String → Except Exc Unit} (hundisturbed : Undisturbed (Machine.run upkeep (emptyRoot store) events)
      (.purge now clock names unlink)) :
    let purged := store.purge (Machine.run upkeep (emptyRoot store) events) now clock names unlink
    (∀ traceId file, purged.2.files traceId = some file ↔
      ∃ c : SealedTrace store, Retained events traceId c ∧ file = fileOf c ∧ t < c.expires) ∧
    ∃ n, purged.1 = .ok n ∧ ∀ names', Lists purged.2 names' → names'.length + n = names.length := by
  have hholds := holds_run h
  obtain ⟨hnames, hunlink⟩ := hundisturbed
  obtain ⟨hcount, hfiles⟩ := purge_of_holds hholds hnow hnames hunlink
  dsimp only
  constructor
  · intro traceId file
    rw [hfiles traceId]
    constructor
    · intro hfile
      split at hfile
      · cases hfile
      · rename_i hgone
        obtain ⟨c, hc, rfl⟩ := (hholds traceId file).mp hfile
        refine ⟨c, hc, rfl, ?_⟩
        by_contra hexpired
        exact hgone ((gone_iff hholds hunlink traceId).mpr ⟨c, hc, by omega⟩)
    · intro hfile
      obtain ⟨c, hc, rfl, hfuture⟩ := hfile
      have hfile := (hholds traceId _).mpr ⟨c, hc, rfl⟩
      rw [if_neg, hfile]
      intro hgone
      rw [Gone, purgeFile_true] at hgone
      obtain ⟨⟨file, hfile', hexpired⟩, -⟩ := hgone
      obtain rfl := Option.some.inj (hfile.symm.trans hfile')
      rw [Expired, fileExpired_fileOf, Except.ok.injEq, decide_eq_true_eq] at hexpired
      omega
  · refine ⟨_, hcount, fun names' hnames' => ?_⟩
    have hleft : names'.Perm (names.filter fun name =>
        !decide (Gone (Machine.run upkeep (emptyRoot store) events).files t unlink name)) := by
      refine (List.perm_ext_iff_of_nodup hnames'.nodup (hnames.nodup.filter _)).mpr fun name => ?_
      rw [hnames'.mem, List.mem_filter, hnames.mem, hfiles name]
      split
      · rename_i hgone
        simp [hgone]
      · rename_i hgone
        simp [hgone]
    rw [hleft.length_eq, Nat.add_comm]
    exact (List.length_eq_length_filter_add _).symm

end

/-! Two traces that expire after a minute, and a purge when the first has. -/

section

variable [CharacterCases] [AesGcm] [FloatText] [Runtime] {store : EncryptedTraceStore}

/-- Two captures. -/
def captures (a b : SealedTrace store) (actorRole : String) : List Upkeep :=
  [.event (captureOf a actorRole exampleClock), .event (captureOf b actorRole exampleClock)]

theorem undisturbed_captures (a b : SealedTrace store) (actorRole : String) :
    Machine.Along upkeep Undisturbed (emptyRoot store) (captures a b actorRole) := ⟨trivial, trivial, trivial⟩

omit [Runtime] in
theorem trace?_captureOf (henabled : store.policy.captureEnabled = true) {actorRole : String}
    (hrole : actorRole ∈ store.policy.allowedAccessRoles) (c : SealedTrace store) :
    (captureOf c actorRole exampleClock).trace? store = some c := by
  have hallowed : store.policy.allowedAccessRoles.contains actorRole = true := by
    simpa using hrole
  have hnow : orNow (some c.capturedAt) exampleClock = c.capturedAt := by
    refine nowOr_some (fun hempty => ?_) _
    have hdeadline := c.deadline
    rw [hempty, deadline, show parseTime "" = .error (valueError "Invalid isoformat string") from rfl] at hdeadline
    cases hdeadline
  simp only [Event.trace?, captureOf, henabled, hallowed, hnow, sealTrace_eq, Bool.and_self, Except.toBool, Except.toOption,
    ↓reduceIte]

omit [Runtime] in
theorem retained_captures (henabled : store.policy.captureEnabled = true) {actorRole : String}
    (hrole : actorRole ∈ store.policy.allowedAccessRoles) {a b : SealedTrace store} (hne : b.traceId ≠ a.traceId)
    {traceId : String} {c : SealedTrace store} :
    Retained (captures a b actorRole) traceId c ↔ (c = a ∨ c = b) ∧ c.traceId = traceId := by
  have hnone : ¬ Retained [] traceId c := by
    rintro ⟨before, event, after, hevents, -⟩
    simp at hevents
  have hsplit : captures a b actorRole = ([] ++ [.event (captureOf a actorRole exampleClock)]) ++
      [.event (captureOf b actorRole exampleClock)] := rfl
  rw [hsplit, retained_concat, retained_concat]
  simp only [Upkeep.event.injEq, exists_eq_left', trace?_captureOf henabled hrole, Option.some.injEq, hnone, false_and, or_false,
    Upkeep.Keeps, forall_eq']
  constructor
  · rintro (⟨rfl, hid⟩ | ⟨⟨rfl, hid⟩, -⟩)
    · exact ⟨.inr rfl, hid⟩
    · exact ⟨.inl rfl, hid⟩
  · rintro ⟨rfl | rfl, hid⟩
    · exact .inr ⟨⟨rfl, hid⟩, hne⟩
    · exact .inl ⟨rfl, hid⟩

theorem lists_captures (henabled : store.policy.captureEnabled = true) {actorRole : String}
    (hrole : actorRole ∈ store.policy.allowedAccessRoles) {a b : SealedTrace store} (hne : b.traceId ≠ a.traceId) :
    Lists (Machine.run upkeep (emptyRoot store) (captures a b actorRole)) [a.traceId, b.traceId] := by
  have hholds := holds_run (undisturbed_captures a b actorRole)
  have hstart (c : SealedTrace store) : "trace_".toList <+: c.traceId.toList := by
    have hid := c.token.isTraceId
    rw [isTraceId, Bool.and_eq_true, List.isPrefixOf_iff_prefix] at hid
    exact hid.1
  have hsome {c : SealedTrace store} (hc : c = a ∨ c = b) :
      ((Machine.run upkeep (emptyRoot store) (captures a b actorRole)).files c.traceId).isSome := by
    rw [(hholds c.traceId _).mpr ⟨c, (retained_captures henabled hrole hne).mpr ⟨hc, rfl⟩, rfl⟩]
    rfl
  refine ⟨List.nodup_cons.mpr ⟨fun hmem => hne (List.mem_singleton.mp hmem).symm, List.nodup_singleton _⟩, fun traceId => ?_⟩
  constructor
  · intro hmem
    rcases List.mem_pair.mp hmem with rfl | rfl
    · exact ⟨hstart a, hsome (.inl rfl)⟩
    · exact ⟨hstart b, hsome (.inr rfl)⟩
  · rintro ⟨-, hfile⟩
    obtain ⟨file, hfile⟩ := Option.isSome_iff_exists.mp hfile
    obtain ⟨c, hc, -⟩ := (hholds traceId file).mp hfile
    obtain ⟨rfl | rfl, rfl⟩ := (retained_captures henabled hrole hne).mp hc
    · exact List.mem_cons_self
    · exact List.mem_cons_of_mem _ List.mem_cons_self

/-- A purge that finds both files and can remove them. -/
def purgeOf (a b : SealedTrace store) (now : String) : Upkeep :=
  .purge (some now) exampleClock [a.traceId, b.traceId] fun _ => .ok ()

theorem undisturbed_purged (henabled : store.policy.captureEnabled = true) {actorRole : String}
    (hrole : actorRole ∈ store.policy.allowedAccessRoles) {a b : SealedTrace store} (hne : b.traceId ≠ a.traceId) (now : String) :
    Machine.Along upkeep Undisturbed (emptyRoot store) (captures a b actorRole ++ [purgeOf a b now]) :=
  (Machine.along_append upkeep).mpr ⟨undisturbed_captures a b actorRole, ⟨lists_captures henabled hrole hne, fun _ => rfl⟩, trivial⟩

end

/-- A trace captured three quarters of a minute after the first. -/
def laterTrace : @SealedTrace asciiCases aes256Gcm withoutFloats (@exampleTraceStore asciiCases) :=
  letI := withoutFloats
  exampleTrace ⟨String.ofList (List.replicate 32 '2'), rfl⟩ (exampleTracePayload "later") "2026-01-01T00:00:45Z" 63902822505000000 rfl
    (by decide +kernel)

theorem laterTrace_ne : @SealedTrace.traceId asciiCases aes256Gcm withoutFloats _ laterTrace ≠
    @SealedTrace.traceId asciiCases aes256Gcm withoutFloats _ firstTrace := by decide

/-- The time of the purge: the first trace has expired, the other has not. -/
theorem parseTime_examplePurge : parseTime (orNow (some "2026-01-01T00:01:30Z") exampleClock) = .ok 63902822490000000 :=
  (congrArg parseTime (nowOr_some (by decide) _)).trans rfl

theorem parseTime_exampleRead : parseTime (orNow (some "2026-01-01T00:01:35Z") exampleClock) = .ok 63902822495000000 :=
  (congrArg parseTime (nowOr_some (by decide) _)).trans rfl

theorem read_run_purged_example :
    letI := asciiRuntime
    letI := asciiCases
    letI := aes256Gcm
    letI := withoutFloats
    let events := captures firstTrace laterTrace "independent_reviewer" ++ [purgeOf firstTrace laterTrace "2026-01-01T00:01:30Z"]
    exampleTraceStore.read (Machine.run upkeep (emptyRoot exampleTraceStore) events) laterTrace.traceId "independent_reviewer"
      (some "2026-01-01T00:01:35Z") exampleClock = .ok laterTrace.payload.dict.sortKeys := by
  let := asciiRuntime
  let := asciiCases
  let := aes256Gcm
  let := withoutFloats
  intro events
  have hrole : "independent_reviewer" ∈ exampleTraceStore.policy.allowedAccessRoles := List.mem_cons_self
  have hlater : (63902822495000000 : Int) < laterTrace.expires := show (63902822495000000 : Int) < 63902822505000000 by decide
  have hpurges : ∀ u ∈ events, u.PurgesBy 63902822495000000 := by
    intro u hu
    rcases List.mem_append.mp hu with hu | hu
    · rcases List.mem_pair.mp hu with rfl | rfl <;> trivial
    · obtain rfl := List.mem_singleton.mp hu
      intro current hcurrent
      obtain rfl := Except.ok.inj (hcurrent.symm.trans parseTime_examplePurge)
      decide
  refine (read_run_purged parseTime_exampleRead hpurges _ _ _).mpr ?_
  refine read_ok.mpr ⟨hrole, laterTrace.token.isTraceId, fileOf laterTrace, ?_, (readFile_fileOf parseTime_exampleRead _).mpr ⟨rfl, hlater⟩⟩
  show (step (step (emptyRoot exampleTraceStore) (captureOf firstTrace _ exampleClock)) (captureOf laterTrace _ exampleClock)).files _ = _
  rw [step_captureOf rfl hrole, files_withFile, if_pos rfl]

theorem read_run_retained_example :
    letI := asciiRuntime
    letI := asciiCases
    letI := aes256Gcm
    letI := withoutFloats
    let events := captures firstTrace laterTrace "independent_reviewer" ++ [purgeOf firstTrace laterTrace "2026-01-01T00:01:30Z"]
    exampleTraceStore.read (Machine.run upkeep (emptyRoot exampleTraceStore) events) laterTrace.traceId "independent_reviewer"
        (some "2026-01-01T00:01:35Z") exampleClock = .ok laterTrace.payload.dict.sortKeys ∧
      ∀ payload, exampleTraceStore.read (Machine.run upkeep (emptyRoot exampleTraceStore) events) firstTrace.traceId
        "independent_reviewer" (some "2026-01-01T00:01:35Z") exampleClock ≠ .ok payload := by
  let := asciiRuntime
  let := asciiCases
  let := aes256Gcm
  let := withoutFloats
  intro events
  have hrole : "independent_reviewer" ∈ exampleTraceStore.policy.allowedAccessRoles := List.mem_cons_self
  have hlater : (63902822495000000 : Int) < laterTrace.expires := show (63902822495000000 : Int) < 63902822505000000 by decide
  have hretained (traceId payload) :=
    read_run_retained (undisturbed_purged rfl hrole laterTrace_ne "2026-01-01T00:01:30Z") hrole parseTime_exampleRead traceId payload
  refine ⟨(hretained _ _).mpr ⟨laterTrace, ?_, rfl, hlater⟩, fun payload hread => ?_⟩
  · refine retained_concat.mpr (.inr ⟨(retained_captures rfl hrole laterTrace_ne).mpr ⟨.inr rfl, rfl⟩, fun current hcurrent => ?_⟩)
    obtain rfl := Except.ok.inj (hcurrent.symm.trans parseTime_examplePurge)
    exact show (63902822490000000 : Int) < 63902822505000000 by decide
  · obtain ⟨c, hc, -, hfuture⟩ := (hretained _ _).mp hread
    rcases retained_concat.mp hc with ⟨event, hevent, -⟩ | ⟨hc, -⟩
    · cases hevent
    · obtain ⟨rfl | rfl, hid⟩ := (retained_captures rfl hrole laterTrace_ne).mp hc
      · exact absurd hfuture (show ¬ (63902822495000000 : Int) < 63902822460000000 by decide)
      · exact laterTrace_ne hid

theorem purge_run_counts_example :
    letI := asciiRuntime
    letI := asciiCases
    letI := aes256Gcm
    letI := withoutFloats
    let root := Machine.run upkeep (emptyRoot exampleTraceStore) (captures firstTrace laterTrace "independent_reviewer")
    let purged := exampleTraceStore.purge root (some "2026-01-01T00:01:30Z") exampleClock [firstTrace.traceId, laterTrace.traceId]
      fun _ => .ok ()
    purged.1 = .ok 1 ∧ purged.2.files firstTrace.traceId = none ∧
      purged.2.files laterTrace.traceId = some (fileOf laterTrace) := by
  let := asciiRuntime
  let := asciiCases
  let := aes256Gcm
  let := withoutFloats
  intro root purged
  have hrole : "independent_reviewer" ∈ exampleTraceStore.policy.allowedAccessRoles := List.mem_cons_self
  obtain ⟨hfiles, n, hn, hcount⟩ := purge_run_counts (undisturbed_captures firstTrace laterTrace "independent_reviewer")
    parseTime_examplePurge ⟨lists_captures rfl hrole laterTrace_ne, fun _ => rfl⟩
  have hleft : ∀ traceId file, purged.2.files traceId = some file ↔ traceId = laterTrace.traceId ∧ file = fileOf laterTrace := by
    intro traceId file
    rw [hfiles traceId file]
    constructor
    · rintro ⟨c, hc, rfl, hfuture⟩
      obtain ⟨rfl | rfl, rfl⟩ := (retained_captures rfl hrole laterTrace_ne).mp hc
      · exact absurd hfuture (show ¬ (63902822490000000 : Int) < 63902822460000000 by decide)
      · exact ⟨rfl, rfl⟩
    · rintro ⟨rfl, rfl⟩
      exact ⟨laterTrace, (retained_captures rfl hrole laterTrace_ne).mpr ⟨.inr rfl, rfl⟩, rfl,
        show (63902822490000000 : Int) < 63902822505000000 by decide⟩
  have hlists : Lists purged.2 [laterTrace.traceId] := by
    refine ⟨List.nodup_singleton _, fun traceId => ?_⟩
    rw [List.mem_singleton, Option.isSome_iff_exists]
    constructor
    · rintro rfl
      exact ⟨((lists_captures rfl hrole laterTrace_ne).mem _).mp (List.mem_cons_of_mem _ List.mem_cons_self) |>.1,
        _, (hleft _ _).mpr ⟨rfl, rfl⟩⟩
    · rintro ⟨-, file, hfile⟩
      exact ((hleft _ _).mp hfile).1
  have hone := hcount _ hlists
  obtain rfl : n = 1 := Nat.add_left_cancel hone
  refine ⟨hn, ?_, (hleft _ _).mpr ⟨rfl, rfl⟩⟩
  cases hfile : purged.2.files firstTrace.traceId with
  | none => rfl
  | some file => exact absurd ((hleft _ _).mp hfile).1.symm laterTrace_ne

end EncryptedTraceStore

end Pmiri
