import Pmiri.Audit.Events
import Pmiri.Python.JsonRead
import Pmiri.Python.Lines
import Pmiri.Python.Sha256
import Pmiri.Runs

/-!
# The audit log

`JsonlAuditSink`: one event on a line. The writer leaves what is not ASCII as it
is and the reader splits at every line break that `splitlines` knows, so that an
event is read back if its time has none of U+0085, U+2028 and U+2029.
-/

namespace Pmiri

open Py

namespace JsonlAuditSink

section

variable [Runtime]

/-- The line of an event, without the line feed. -/
def line (event : ReadAuditEvent) : String := event.structured.toVal.json

/-- `append`, and the file after it; there is none at first. -/
def append (file : Option String) (event : ReadAuditEvent) : Except Exc Unit × Option String :=
  match validateAuditEvent event.structured with
  | .error e => (.error e, file)
  | .ok (error :: _) => (.error (auditError ("audit_event_invalid:" ++ error)), file)
  | .ok [] => (.ok (), some (file.getD "" ++ (line event ++ "\n")))

/-- Whether `append` writes an event. -/
def accepts (event : ReadAuditEvent) : Bool :=
  match validateAuditEvent event.structured with
  | .ok [] => true
  | _ => false

def step (file : Option String) (event : ReadAuditEvent) : Option String := (append file event).2

variable [FloatText]

/-- One line, the `lineNumber`th. -/
def readLine (lineNumber : Nat) (line : List Char) : Except Exc Dict :=
  match jsonLoads (String.ofList line) with
  | .error (.valueError "JSONDecodeError" _) => .error (auditError ("audit_line_invalid:" ++ toString lineNumber))
  | .error e => .error e
  | .ok v => do
    let event ← dictOr v (auditError ("audit_line_shape_invalid:" ++ toString lineNumber))
    match ← validateAuditEvent event with
    | [] => return event
    | error :: _ => .error (auditError ("audit_line_invalid:" ++ toString lineNumber ++ ":" ++ error))

/-- The lines from the `lineNumber`th on. -/
def readLines (lineNumber : Nat) : List (List Char) → Except Exc (List Dict)
  | [] => .ok []
  | line :: lines => do
    let event ← readLine lineNumber line
    let events ← readLines (lineNumber + 1) lines
    return event :: events

/-- `read_verified`; reading a text turns `\r\n` and `\r` into `\n`. -/
def readVerified (file : Option String) : Except Exc (List Dict) :=
  match file with
  | none => .ok []
  | some text => readLines 1 (splitlines (unifyFrom false text.toList))

end

/-! ## Accepted events -/

/-- No line break in the text of the value. -/
def plain : Val → Bool
  | .str s => s.toList.all fun c => !isRawBreak c
  | .int _ | .none => true
  | _ => false

theorem not_break_of_plain {v : Val} (h : plain v = true) {c : Char} (hc : isLineBreak c = true) : c ∉ v.json.toList := by
  cases v with
  | str s =>
    rw [Val.json, break_jsonStr hc]
    rintro ⟨hmem, hraw⟩
    have := List.all_eq_true.mp h c hmem
    simp [hraw] at this
  | int i => exact break_int hc i
  | none =>
    intro hmem
    have hall : "null".toList.all (fun d => !isLineBreak d) = true := by decide
    have := List.all_eq_true.mp hall c (by simpa [Val.json] using hmem)
    simp [hc] at this
  | _ => cases h

theorem plain_of_isHex {n : Nat} {s : String} (h : isHex n s = true) : plain (.str s) = true := by
  rw [isHex, Bool.and_eq_true, List.all_eq_true] at h
  refine List.all_eq_true.mpr fun c hc => ?_
  have hdigits : "0123456789abcdef".toList.all (fun d => !isRawBreak d) = true := by decide
  exact List.all_eq_true.mp hdigits c (List.contains_iff_mem.mp (h.2 c hc))

theorem plain_idOf {s : String} (h : isHex 64 s = true) : plain (.str (ReadAuditEvent.idOf s)) = true := by
  have hplain := plain_of_isHex h
  simp only [plain, ReadAuditEvent.idOf, String.toList_append, String.toList_ofList, List.all_append, Bool.and_eq_true] at hplain ⊢
  exact ⟨by decide, List.all_eq_true.mpr fun c hc => List.all_eq_true.mp hplain c (List.mem_of_mem_take hc)⟩

theorem plain_of_mem {v : Val} {l : List String} (h : v.isIn l = .ok true)
    (hl : l.all (fun s => plain (.str s)) = true) : plain v = true := by
  obtain ⟨s, hs, rfl⟩ := Val.isIn_true.mp h
  exact List.all_eq_true.mp hl s hs

theorem accepts_iff [Runtime] {e : ReadAuditEvent} : accepts e = true ↔ validateAuditEvent e.structured = .ok [] := by
  rw [accepts]
  split
  · rename_i h
    exact ⟨fun _ => h, fun _ => rfl⟩
  · rename_i h
    exact ⟨nofun, fun heq => absurd heq h⟩

theorem plain_of_isNone {v : Val} (h : v.isNone = true) : plain v = true := by
  cases v with
  | none => rfl
  | _ => cases h

theorem plain_of_isSha256 {v : Val} (h : isSha256 v = true) : plain v = true := by
  obtain ⟨s, rfl, hs⟩ := isSha256_str h
  exact plain_of_isHex hs

theorem plain_of_fingerprintErrors {event : Dict} {field : String} (h : auditFingerprintErrors event field = []) :
    plain (event.get field) = true := by
  rw [auditFingerprintErrors, errorIf_nil, Bool.and_eq_false_iff, Bool.not_eq_false', Bool.not_eq_false'] at h
  exact h.elim plain_of_isNone plain_of_isSha256

theorem plain_of_outcomeErrors {event : Dict} (hknown : (event.get "outcome").isIn auditOutcomes = .ok true)
    (h : auditOutcomeErrors event = []) : plain (event.get "error_code") = true := by
  obtain ⟨outcome, hmem, houtcome⟩ := Val.isIn_true.mp hknown
  rw [auditOutcomeErrors] at h
  split at h
  · rw [List.append_eq_nil_iff, errorIf_nil, errorIf_nil, Bool.not_eq_false'] at h
    exact plain_of_isNone h.2
  · rename_i hemitted
    split at h
    · rw [List.append_eq_nil_iff, errorIf_nil, errorIf_nil, differs_false] at h
      rw [h.2]
      decide
    · rename_i hrejected
      simp only [Bool.not_eq_true', Bool.not_eq_false, differs_true] at hemitted hrejected
      simp only [auditOutcomes, List.mem_cons, List.not_mem_nil, or_false] at hmem
      rcases hmem with rfl | rfl
      · exact absurd houtcome hemitted
      · exact absurd houtcome hrejected

theorem plain_of_identityErrors [Runtime] {event : Dict} (h : auditIdentityErrors event = []) (hid : (event.get "event_id").isStr = true) :
    plain (event.get "event_id") = true ∧ plain (event.get "event_fingerprint") = true := by
  simp only [auditIdentityErrors, List.append_eq_nil_iff, errorIf_nil, Bool.or_eq_false_iff, Bool.not_eq_false'] at h
  obtain ⟨⟨-, hclaimed, -⟩, hidOf⟩ := h
  obtain ⟨s, hs, hhex⟩ := isSha256_str hclaimed
  rw [hid, hclaimed, Bool.true_and, Bool.true_and, differs_false, hs, Val.strText] at hidOf
  exact ⟨hidOf ▸ plain_idOf hhex, plain_of_isSha256 hclaimed⟩

/-- What is checked of an event leaves nothing but its time free. -/
theorem plain_of_accepts [Runtime] {e : ReadAuditEvent} (h : accepts e = true) :
    ∀ kv ∈ e.structured.items, kv.1 ≠ "captured_at" → plain kv.2 = true := by
  obtain ⟨transportKnown, htransport, h⟩ := bind_ok.mp (accepts_iff.mp h)
  obtain ⟨outcomeKnown, houtcome, h⟩ := bind_ok.mp h
  have h := Except.ok.inj h
  simp only [List.append_eq_nil_iff, errorIf_nil, Bool.not_eq_false'] at h
  obtain ⟨⟨⟨⟨⟨⟨⟨⟨⟨⟨-, -⟩, -⟩, rfl⟩, hoperation⟩, rfl⟩, -⟩, hprojection⟩, htyped⟩, hcode⟩, hidentity⟩ := h
  have hget {k : String} {v : Val}
      (hmem : (k, v) ∈ e.payloadItems ++ [("event_id", .str e.eventId), ("event_fingerprint", .str e.eventFingerprint)]) :
      e.structured.get k = v := ReadAuditEvent.get_structured hmem
  have hid : e.structured.get "event_id" = .str e.eventId := hget (by simp)
  obtain ⟨hidPlain, hfingerprint⟩ := plain_of_identityErrors hidentity (by rw [hid]; rfl)
  obtain ⟨operation, hmem, heq⟩ := List.any_eq_true.mp hoperation
  have hoperations : (READ_OPERATIONS ++ ["unknown"]).all (fun s => plain (.str s)) = true := by decide
  intro kv hkv hne
  rw [ReadAuditEvent.items_structured] at hkv
  have hvalue := hget hkv
  simp only [ReadAuditEvent.payloadItems, List.cons_append, List.nil_append, List.mem_cons, List.not_mem_nil, or_false] at hkv
  rcases hkv with rfl | rfl | rfl | rfl | rfl | rfl | rfl | rfl | rfl | rfl | rfl | rfl
  · decide
  · decide
  · exact absurd rfl hne
  · exact hvalue ▸ plain_of_mem htransport (by decide)
  · rw [← hvalue, Val.eq_str.mp heq]
    exact List.all_eq_true.mp hoperations operation hmem
  · exact hvalue ▸ plain_of_mem houtcome (by decide)
  · rfl
  · exact hvalue ▸ plain_of_fingerprintErrors hprojection
  · exact hvalue ▸ plain_of_fingerprintErrors htyped
  · exact hvalue ▸ plain_of_outcomeErrors houtcome hcode
  · exact hvalue ▸ hidPlain
  · exact hvalue ▸ hfingerprint

theorem get_capturedAt (e : ReadAuditEvent) : e.structured.get "captured_at" = .str e.capturedAt :=
  ReadAuditEvent.get_structured (by simp [ReadAuditEvent.payloadItems])

theorem plain_key {e : ReadAuditEvent} {kv : String × Val} (h : kv ∈ e.structured.items) : plain (.str kv.1) = true := by
  have hkeys : auditEventFields.all (fun s => plain (.str s)) = true := by decide
  refine List.all_eq_true.mp hkeys kv.1 ?_
  rw [ReadAuditEvent.items_structured] at h
  exact List.mem_map_of_mem h

/-- The line breaks of an accepted event's line are those in its time that JSON does not escape. -/
theorem break_line [Runtime] {e : ReadAuditEvent} (h : accepts e = true) {c : Char} (hc : isLineBreak c = true) :
    c ∈ (line e).toList ↔ c ∈ e.capturedAt.toList ∧ isRawBreak c = true := by
  rw [line, Dict.toVal, break_dict hc]
  constructor
  · rintro ⟨kv, hkv, hkey | hvalue⟩
    · exact absurd hkey (not_break_of_plain (plain_key hkv) hc)
    · by_cases hname : kv.1 = "captured_at"
      · have hget : e.structured.get "captured_at" = kv.2 := by
          rw [Dict.get, ← hname, Dict.mem_items_iff.mp hkv, Option.getD_some]
        rw [get_capturedAt] at hget
        rw [← hget] at hvalue
        exact (break_jsonStr hc).mp hvalue
      · exact absurd hvalue (not_break_of_plain (plain_of_accepts h kv hkv hname) hc)
  · intro htime
    refine ⟨("captured_at", .str e.capturedAt), ?_, .inr ((break_jsonStr hc).mpr htime)⟩
    rw [ReadAuditEvent.items_structured]
    simp [ReadAuditEvent.payloadItems]

/-- The fields of an accepted event are strings, numbers and `null`. -/
theorem scalar_of_accepts [Runtime] {e : ReadAuditEvent} (h : accepts e = true) {kv : String × Val} (hkv : kv ∈ e.structured.items) :
    (∃ s, kv.2 = .str s) ∨ (∃ i, kv.2 = .int i) ∨ kv.2 = .none := by
  by_cases hname : kv.1 = "captured_at"
  · have hget : e.structured.get "captured_at" = kv.2 := by
      rw [Dict.get, ← hname, Dict.mem_items_iff.mp hkv, Option.getD_some]
    exact .inl ⟨e.capturedAt, by rw [← hget, get_capturedAt]⟩
  · have hplain := plain_of_accepts h kv hkv hname
    cases hv : kv.2 with
    | str s => exact .inl ⟨s, rfl⟩
    | int i => exact .inr (.inl ⟨i, rfl⟩)
    | none => exact .inr (.inr rfl)
    | _ => rw [hv] at hplain; cases hplain

theorem sortKeys_get_structured [Runtime] {e : ReadAuditEvent} (h : accepts e = true) (k : String) :
    (e.structured.get k).sortKeys = e.structured.get k := by
  rw [Dict.get]
  cases hk : e.structured.get? k with
  | none => rfl
  | some v =>
    rcases scalar_of_accepts h (Dict.mem_items_iff.mpr hk) with ⟨s, rfl⟩ | ⟨i, rfl⟩ | rfl <;> rfl

theorem readable_structured [Runtime] [FloatText] {e : ReadAuditEvent} (h : accepts e = true) : e.structured.toVal.Readable := by
  refine Val.readable_toVal.mpr fun kv hkv => ?_
  rcases scalar_of_accepts h hkv with ⟨s, hs⟩ | ⟨i, hi⟩ | hnone
  · rw [hs]
    trivial
  · rw [hi]
    trivial
  · rw [hnone]
    trivial

/-- Validation looks at the values of the fields, in whatever order. -/
theorem validateAuditEvent_congr [Runtime] {d d' : Dict} (hget : ∀ k, d.get k = d'.get k) (hkeys : ∀ k, k ∈ d.keys ↔ k ∈ d'.keys) :
    validateAuditEvent d = validateAuditEvent d' := by
  have hkeysAre : d.keysAre auditEventFields = d'.keysAre auditEventFields := by
    rw [Bool.eq_iff_iff, Dict.keysAre_iff, Dict.keysAre_iff]
    simp only [hkeys]
  simp only [validateAuditEvent, auditFingerprintErrors, auditOutcomeErrors, auditIdentityErrors, differs, hget, hkeysAre]
  rfl

/-- The event is read of its line. -/
theorem readLine_line [Runtime] [FloatText] {e : ReadAuditEvent} (h : accepts e = true) (lineNumber : Nat) :
    readLine lineNumber (line e).toList = .ok e.structured.sortKeys := by
  have hvalid : validateAuditEvent e.structured.sortKeys = .ok [] := by
    rw [← accepts_iff.mp h]
    refine validateAuditEvent_congr (fun k => ?_) fun k => ?_
    · rw [Dict.get_sortKeys, sortKeys_get_structured h]
    · exact Dict.mem_keys_sortKeys
  have hloads : jsonLoads (String.ofList (line e).toList) = .ok e.structured.sortKeys.toVal := by
    rw [String.ofList_toList, line, jsonLoads_json (readable_structured h), Dict.toVal_sortKeys]
  have hdict (error : Exc) : dictOr e.structured.sortKeys.toVal error = .ok e.structured.sortKeys :=
    dictOr_ok.mpr (Val.asDict_toVal _)
  simp only [readLine, hloads, hdict, hvalid, ok_bind]
  rfl

theorem readLines_lines [Runtime] [FloatText] {events : List ReadAuditEvent} (h : ∀ e ∈ events, accepts e = true) (lineNumber : Nat) :
    readLines lineNumber (events.map fun e => (line e).toList) = .ok (events.map fun e => e.structured.sortKeys) := by
  induction events generalizing lineNumber with
  | nil => rfl
  | cons e events ih =>
    rw [List.map_cons, readLines, readLine_line (h e List.mem_cons_self), ok_bind,
      ih (fun e' he' => h e' (List.mem_cons_of_mem _ he')), ok_bind]
    rfl

/-- As many events are read as there are lines. -/
theorem length_readLines [Runtime] [FloatText] {lines : List (List Char)} {lineNumber : Nat} {events : List Dict}
    (h : readLines lineNumber lines = .ok events) : events.length = lines.length := by
  induction lines generalizing lineNumber events with
  | nil =>
    obtain rfl := Except.ok.inj h
    rfl
  | cons line lines ih =>
    obtain ⟨event, -, h⟩ := bind_ok.mp h
    obtain ⟨rest, hrest, h⟩ := bind_ok.mp h
    obtain rfl := Except.ok.inj h
    rw [List.length_cons, List.length_cons, ih hrest]

/-! ## Runs -/

section

variable [Runtime]

/-- The lines of the events that are accepted. -/
def linesOf (events : List ReadAuditEvent) : List (List Char) := (events.filter accepts).map fun e => (line e).toList

/-- What a run of appends leaves in the file. -/
theorem file_run (file : Option String) (events : List ReadAuditEvent) :
    ((Machine.run step file events).getD "").toList = (file.getD "").toList ++ terminated (linesOf events) := by
  induction events generalizing file with
  | nil => simp [Machine.run, linesOf, terminated]
  | cons e events ih =>
    have hstep : ((step file e).getD "").toList =
        (file.getD "").toList ++ (if accepts e then (line e).toList ++ ['\n'] else []) := by
      rw [step, append, accepts]
      split <;> rename_i h <;> simp [h]
    rw [Machine.run, List.foldl_cons, ← Machine.run, ih, hstep, List.append_assoc]
    cases haccepts : accepts e with
    | true => simp [linesOf, haccepts]
    | false => simp [linesOf, haccepts]

theorem no_return_linesOf (events : List ReadAuditEvent) : ∀ text ∈ linesOf events, '\r' ∉ text := by
  intro text htext
  obtain ⟨e, he, rfl⟩ := List.mem_map.mp htext
  rw [break_line (List.mem_filter.mp he).2 (by decide)]
  rintro ⟨-, hraw⟩
  exact absurd hraw (by decide)

variable [FloatText]

theorem readVerified_eq (file : Option String) : readVerified file = readLines 1 (splitlines (unifyFrom false (file.getD "").toList)) := by
  cases file with
  | none => rfl
  | some text => rfl

/-- A log is read line by line. -/
theorem readVerified_run (events : List ReadAuditEvent) :
    readVerified (Machine.run step none events) = readLines 1 (splitlines (terminated (linesOf events))) := by
  have hreturn : '\r' ∉ terminated (linesOf events) := by
    intro h
    rcases mem_terminated h with h | ⟨text, htext, h⟩
    · exact absurd h (by decide)
    · exact no_return_linesOf events text htext h
  rw [readVerified_eq, file_run]
  simp only [Option.getD_none, String.toList_empty, List.nil_append]
  rw [unifyFrom_of_not_mem hreturn]

/-- Where as many events are read as were accepted, no time of an accepted event has a line break in it. -/
theorem plain_of_length_read {events : List ReadAuditEvent} {read : List Dict}
    (hread : readVerified (Machine.run step none events) = .ok read) (hlength : read.length = (events.filter accepts).length) :
    ∀ e ∈ events, accepts e = true → ∀ c ∈ e.capturedAt.toList, isRawBreak c = false := by
  intro e he haccepts c hc
  rw [readVerified_run] at hread
  have hlines := length_readLines hread
  rw [length_splitlines_terminated (no_return_linesOf events), hlength, linesOf, List.length_map] at hlines
  have hzero : ((linesOf events).map (List.countP isLineBreak)).sum = 0 := by
    rw [linesOf]
    omega
  have hmem : (line e).toList ∈ linesOf events := List.mem_map_of_mem (List.mem_filter.mpr ⟨he, haccepts⟩)
  have hline := List.sum_eq_zero_iff_forall_eq_nat.mp hzero _ (List.mem_map_of_mem hmem)
  by_contra hraw
  rw [Bool.not_eq_false] at hraw
  have hbreak := isLineBreak_of_isRawBreak hraw
  exact List.countP_eq_zero.mp hline c ((break_line haccepts hbreak).mpr ⟨hc, hraw⟩) hbreak

/-- What was appended is read back exactly when no accepted event's time has U+0085, U+2028 or U+2029 in it. -/
theorem reads_back_iff (events : List ReadAuditEvent) :
    readVerified (Machine.run step none events) = .ok ((events.filter accepts).map fun e => e.structured.sortKeys) ↔
      ∀ e ∈ events, accepts e = true → ∀ c ∈ e.capturedAt.toList, isRawBreak c = false := by
  constructor
  · intro hread
    exact plain_of_length_read hread (List.length_map _)
  · intro hplain
    rw [readVerified_run, splitlines_terminated]
    · exact readLines_lines (fun e he => (List.mem_filter.mp he).2) 1
    · intro text htext c hc
      obtain ⟨e, he, rfl⟩ := List.mem_map.mp htext
      obtain ⟨he, haccepts⟩ := List.mem_filter.mp he
      by_contra hbreak
      rw [Bool.not_eq_false] at hbreak
      obtain ⟨htime, hraw⟩ := (break_line haccepts hbreak).mp hc
      rw [hplain e he haccepts c htime] at hraw
      cases hraw

end

/-! An event whose time has a line separator in it. -/

section

variable [Runtime]

def exampleEvent : ReadAuditEvent :=
  ReadAuditEvent.create "LOCAL" (some "search") "REJECTED" 401 .none .none (.str "REQUEST_REJECTED")
    (some "2026-01-01\u2028T00:00:00Z") .first

theorem accepts_exampleEvent : accepts exampleEvent = true :=
  accepts_iff.mpr (validateAuditEvent_rejected (by decide) _ (by decide) _ _)

theorem append_exampleEvent [FloatText] : (append none exampleEvent).1 = .ok () ∧
    readVerified (append none exampleEvent).2 ≠ .ok [exampleEvent.structured.sortKeys] := by
  constructor
  · rw [append, accepts_iff.mp accepts_exampleEvent]
  · intro hread
    have hlength : [exampleEvent.structured.sortKeys].length = ([exampleEvent].filter accepts).length := by
      rw [List.filter_cons_of_pos accepts_exampleEvent]
      rfl
    have htime : exampleEvent.capturedAt = "2026-01-01\u2028T00:00:00Z" := rfl
    have hplain := plain_of_length_read (show readVerified (Machine.run step none [exampleEvent]) = _ from hread) hlength exampleEvent
      List.mem_cons_self accepts_exampleEvent '\u2028' (by rw [htime]; decide)
    exact absurd hplain (by decide)

end

theorem log_not_read_back :
    letI := asciiRuntime
    letI := withoutFloats
    (append none exampleEvent).1 = .ok () ∧
      readVerified (append none exampleEvent).2 ≠ .ok [exampleEvent.structured.sortKeys] := by
  let := asciiRuntime
  let := withoutFloats
  exact append_exampleEvent

end JsonlAuditSink

end Pmiri
