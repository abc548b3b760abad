import Pmiri.Network.Builder
import Pmiri.Python.Sha256
import Pmiri.Python.Datetime
import Mathlib.Tactic.NormNum

/-!
# The history of a connection binding

The revalidation events of an accepted binding, as a chain: what
`validateConnectionBinding` says of it, and what it leaves out.
-/

namespace Pmiri

open Py

/-- The revalidation events of a record. -/
def revalidationEvents (record : Dict) : List Dict :=
  match record.get "revalidation_events" with
  | .list events => events.filterMap Val.asDict
  | _ => []

/-- The types of the events after the first. -/
def laterEventTypes : List String :=
  ["REDIRECT", "RETRY", "CONNECTION_REUSE", "AUTHORITY_CHANGE", "POLICY_EPOCH_CHANGE"]

/-- The instant of an event's time stamp. -/
def eventInstant (e : Dict) : Option Int :=
  match e.get "observed_at" with
  | .str s => (fromisoformat (expandZ s)).bind DateTime.instant?
  | _ => none

/-- The second event starts from the epochs that the first has reached. -/
def Continues (e e' : Dict) : Prop :=
  e'.agrees "prior_connection_epoch" e "connection_epoch" = true ∧
    e'.agrees "prior_invalidation_epoch" e "invalidation_epoch" = true

/-- The first event is not after the second. -/
def NotAfter (e e' : Dict) : Prop := ∃ t t', eventInstant e = some t ∧ eventInstant e' = some t' ∧ t ≤ t'

/-- An event that went wrong. -/
def Failed (e : Dict) : Prop := e.get "result" = .str "MISMATCHED" ∨ e.get "result" = .str "DENIED"

/-- The history is a chain of epochs from a matched first resolution to the
epochs of the binding. -/
structure EpochChain (record : Dict) : Prop where
  initial : ∃ e, (revalidationEvents record).head? = some e ∧ e.get "event_type" = .str "INITIAL_RESOLUTION" ∧
    e.get "result" = .str "MATCHED"
  later : ∀ e ∈ (revalidationEvents record).tail, ∃ x ∈ laterEventTypes, e.get "event_type" = .str x
  connected : (revalidationEvents record).IsChain Continues
  clean : ∀ e ∈ revalidationEvents record, ¬ Failed e
  timed : (∀ e ∈ revalidationEvents record, (eventInstant e).isSome = true) ∧
    (revalidationEvents record).IsChain NotAfter
  reached : ∃ e, (revalidationEvents record).getLast? = some e ∧
    record.agrees "connection_epoch" e "connection_epoch" = true ∧
    record.agrees "invalidation_epoch" e "invalidation_epoch" = true

/-- What the validator does not ask of a history: it looks at the result of
the last event only, takes every type that it does not know for one that opens
a new connection, compares an event's epochs with each other but not with
those before it, and compares time stamps as texts. -/
structure EpochChainUnchecked (record : Dict) : Prop where
  initial : ∀ e, (revalidationEvents record).dropLast.head? = some e → e.get "result" = .str "MATCHED"
  later : ∀ e ∈ (revalidationEvents record).tail, ∃ x ∈ laterEventTypes, e.get "event_type" = .str x
  connected : (revalidationEvents record).IsChain Continues
  clean : ∀ e ∈ (revalidationEvents record).dropLast, ¬ Failed e
  timed : (∀ e ∈ revalidationEvents record, (eventInstant e).isSome = true) ∧
    (revalidationEvents record).IsChain NotAfter

/-! ## What the validator accepts -/

theorem checkEvent_ok {index : Nat} {previousTime event : Val} {e : Dict} (h : checkEvent index previousTime event = .ok e) :
    event.asDict = some e ∧ (index = 0 → e.get "event_type" = .str "INITIAL_RESOLUTION") := by
  unfold checkEvent at h
  split at h
  · cases h
  · rename_i e' he
    simp only [seq_ok, raiseIf_ok] at h
    obtain ⟨-, -, -, hinitial, -, -, h⟩ := h
    obtain rfl : e' = e := Except.ok.inj h
    refine ⟨he, fun hi => ?_⟩
    simpa [hi] using hinitial

/-- The events that the loop returns are those of the list. -/
theorem checkEvents_ok {index : Nat} {previousTime : Val} {events : List Val} {es : List Dict}
    (h : checkEvents index previousTime events = .ok es) :
    events.filterMap Val.asDict = es ∧
      (index = 0 → ∀ e, es.head? = some e → e.get "event_type" = .str "INITIAL_RESOLUTION") := by
  induction events generalizing index previousTime es with
  | nil =>
    obtain rfl : [] = es := Except.ok.inj h
    exact ⟨rfl, fun _ _ he => by cases he⟩
  | cons event rest ih =>
    obtain ⟨e, he, h⟩ := bind_ok.mp h
    obtain ⟨es', hes, h⟩ := bind_ok.mp h
    obtain rfl : e :: es' = es := Except.ok.inj h
    obtain ⟨hdict, hinitial⟩ := checkEvent_ok he
    refine ⟨by rw [List.filterMap_cons_some hdict, (ih hes).1], fun hi e' he' => ?_⟩
    obtain rfl : e = e' := Option.some.inj he'
    exact hinitial hi

section

variable [Runtime]

/-- What an accepted binding says of its history. -/
theorem history_of_accepted {record : Dict} (h : validateConnectionBinding record = .ok ()) :
    ∃ first last, (revalidationEvents record).head? = some first ∧ (revalidationEvents record).getLast? = some last ∧
      first.get "event_type" = .str "INITIAL_RESOLUTION" ∧
      record.agrees "connection_epoch" last "connection_epoch" = true ∧
      record.agrees "invalidation_epoch" last "invalidation_epoch" = true ∧
      (record.get "binding_status" = .str "VALIDATED" → last.get "result" = .str "MATCHED") := by
  obtain ⟨-, h⟩ := seq_ok.mp h
  obtain ⟨addresses, -, h⟩ := bind_ok.mp h
  obtain ⟨entries, -, h⟩ := bind_ok.mp h
  simp only [seq_ok, raiseIf_ok] at h
  obtain ⟨-, -, -, -, h⟩ := h
  obtain ⟨vs, hvs, h⟩ := bind_ok.mp h
  obtain ⟨es, hes, h⟩ := bind_ok.mp h
  simp only [seq_ok, raiseIf_ok, Bool.or_eq_false_iff, Bool.not_eq_false', Bool.and_eq_false_imp, Bool.not_eq_true',
    differs_false] at h
  obtain ⟨⟨hconnection, hinvalidation⟩, hvalidated⟩ := h
  obtain ⟨hevents, hinitial⟩ := checkEvents_ok hes
  obtain ⟨v, rest, rfl, hlist⟩ : ∃ v rest, v :: rest = vs ∧ record.get "revalidation_events" = .list (v :: rest) := by
    unfold nonemptyList at hvs
    split at hvs
    · rename_i v rest hr
      exact ⟨v, rest, Except.ok.inj hvs, hr⟩
    · cases hvs
  have hrecord : revalidationEvents record = es := by
    rw [revalidationEvents, hlist]
    exact hevents
  have hne : es ≠ [] := by
    obtain ⟨e, he, h⟩ := bind_ok.mp hes
    obtain ⟨es', -, h⟩ := bind_ok.mp h
    obtain rfl : e :: es' = es := Except.ok.inj h
    exact List.cons_ne_nil _ _
  rw [hrecord]
  have hlast : es.getLastD .empty = es.getLast hne := List.getLastD_eq_getLast? .. ▸ by simp [List.getLast?_eq_some_getLast hne]
  rw [hlast] at hconnection hinvalidation hvalidated
  exact ⟨es.head hne, es.getLast hne, List.head?_eq_some_head hne, List.getLast?_eq_some_getLast hne,
    hinitial rfl _ (List.head?_eq_some_head hne), hconnection, hinvalidation, fun hv => (hvalidated hv).2⟩

/-- The history of an accepted and validated binding is a chain of epochs
exactly if it is one on what the validator leaves out. -/
theorem epochChain_iff {record : Dict} (h : validateConnectionBinding record = .ok ())
    (hv : record.get "binding_status" = .str "VALIDATED") : EpochChain record ↔ EpochChainUnchecked record := by
  obtain ⟨first, last, hfirst, hlast, htype, hconnection, hinvalidation, hresult⟩ := history_of_accepted h
  have hmatched := hresult hv
  have hsplit : (revalidationEvents record).dropLast ++ [last] = revalidationEvents record :=
    List.dropLast_append_getLast? _ hlast
  constructor
  · intro hc
    refine ⟨fun e he => ?_, hc.later, hc.connected, fun e he => hc.clean e (List.dropLast_subset _ he), hc.timed⟩
    obtain ⟨e', he', -, hm⟩ := hc.initial
    rw [← hsplit, List.head?_append, he, Option.some_or, Option.some.injEq] at he'
    rwa [he']
  · intro hc
    refine ⟨⟨first, hfirst, htype, ?_⟩, hc.later, hc.connected, fun e he => ?_, hc.timed, last, hlast, hconnection,
      hinvalidation⟩
    · rw [← hsplit, List.head?_append] at hfirst
      cases hd : (revalidationEvents record).dropLast.head? with
      | none =>
        rw [hd, Option.none_or, List.head?_cons, Option.some.injEq] at hfirst
        rwa [← hfirst]
      | some e =>
        rw [hd, Option.some_or, Option.some.injEq] at hfirst
        exact hc.initial first (hfirst ▸ hd)
    · rw [← hsplit, List.mem_append, List.mem_singleton] at he
      rcases he with he | rfl
      · exact hc.clean e he
      · rintro (hf | hf) <;> rw [hmatched] at hf <;> exact absurd hf (by simp)

/-! ## Records sealed again -/

/-- The record with another value under a key, sealed again. -/
def resealed (record : Dict) (key : String) (v : Val) : Dict :=
  let record := record.insert key v
  record.insert "binding_fingerprint" (.str (sha256Json (record.without "binding_fingerprint").toVal))

/-- The parts of a record that its header does not look at. -/
def listedFields : List String := ["resolved_addresses", "selected_target", "revalidation_events"]

theorem get_resealed {record : Dict} {key k : String} {v : Val} (h : k ≠ key) (h' : k ≠ "binding_fingerprint") :
    (resealed record key v).get k = record.get k := by
  rw [resealed, Dict.get_insert, if_neg h', Dict.get_insert, if_neg h]

theorem get_resealed_self {record : Dict} {key : String} {v : Val} (h : key ≠ "binding_fingerprint") :
    (resealed record key v).get key = v := by
  rw [resealed, Dict.get_insert, if_neg h, Dict.get_insert_self]

theorem keysAre_resealed {record : Dict} {key : String} {v : Val} (hkey : key ∈ bindingFields)
    (h : record.keysAre bindingFields = true) : (resealed record key v).keysAre bindingFields = true := by
  refine Dict.keysAre_iff.mpr fun k => ?_
  rw [resealed, Dict.mem_keys_insert, Dict.mem_keys_insert, Dict.keysAre_iff.mp h]
  constructor
  · rintro ((h | rfl) | rfl)
    · exact h
    · exact hkey
    · decide
  · exact fun h => .inl (.inl h)

theorem fingerprint_resealed (record : Dict) (key : String) (v : Val) :
    (resealed record key v).get "binding_fingerprint" =
      .str (sha256Json ((resealed record key v).without "binding_fingerprint").toVal) := by
  have hwithout : (resealed record key v).without "binding_fingerprint" =
      (record.insert key v).without "binding_fingerprint" := Dict.filterKeys_insert (by simp)
  rw [hwithout, resealed, Dict.get_insert_self]

theorem checkHeader_resealed {record : Dict} {key : String} (hkey : key ∈ listedFields) (v : Val)
    (h : checkHeader record = .ok ()) : checkHeader (resealed record key v) = .ok () := by
  simp only [checkHeader, seq_ok, raiseIf_ok, raiseIfM_ok, Bool.or_eq_false_iff, Bool.not_eq_false', differs_false,
    List.any_cons, List.any_nil, Bool.or_false] at h ⊢
  obtain ⟨-, htype, ⟨hkeys, hdest⟩, hprofile, -, hset, hstatus, hepochs⟩ := h
  have hmem : key ∈ bindingFields := by
    revert key
    decide
  have hkeys' : (resealed record key v).keysAre bindingFields = true := keysAre_resealed hmem hkeys
  have hfingerprint := fingerprint_resealed record key v
  have hget : ∀ k, k ∉ listedFields → k ≠ "binding_fingerprint" → (resealed record key v).get k = record.get k :=
    fun k hk h' => get_resealed (fun he => hk (he ▸ hkey)) h'
  simp (disch := decide) only [hget]
  exact ⟨(Bool.and_eq_true_iff.mp hkeys').2, htype, ⟨hkeys', hdest⟩, hprofile,
    ⟨by rw [hfingerprint]; exact isSha256_sha256Json _, hfingerprint⟩, hset, hstatus, hepochs⟩

/-! ## Other histories -/

/-- The record with another history. -/
def reseal (record : Dict) (events : List Dict) : Dict :=
  resealed record "revalidation_events" (.list (events.map Dict.toVal))

theorem get_reseal {record : Dict} {events : List Dict} {key : String} (h : key ≠ "revalidation_events")
    (h' : key ≠ "binding_fingerprint") : (reseal record events).get key = record.get key := get_resealed h h'

theorem get_reseal_events (record : Dict) (events : List Dict) :
    (reseal record events).get "revalidation_events" = .list (events.map Dict.toVal) := get_resealed_self (by decide)

/-- An accepted record is accepted with every history that the loop over the
events accepts and that ends as the record does. -/
theorem validate_reseal {record : Dict} {events : List Dict} {last : Dict} (h : validateConnectionBinding record = .ok ())
    (hevents : checkEvents 0 .none (events.map Dict.toVal) = .ok events) (hlast : events.getLast? = some last)
    (hconnection : record.agrees "connection_epoch" last "connection_epoch" = true)
    (hinvalidation : record.agrees "invalidation_epoch" last "invalidation_epoch" = true)
    (hresult : last.get "result" = .str "MATCHED") : validateConnectionBinding (reseal record events) = .ok () := by
  have htls : checkTls (reseal record events) = checkTls record := by
    simp (disch := decide) only [checkTls, Dict.agrees, get_reseal]
  have hlist : nonemptyList ((reseal record events).get "revalidation_events") "CONNECTION_REVALIDATION_EMPTY" =
      .ok (events.map Dict.toVal) := by
    obtain ⟨e, rest, rfl⟩ := List.exists_cons_of_ne_nil (List.ne_nil_of_mem (List.mem_of_getLast? hlast))
    rw [get_reseal_events]
    rfl
  have hlastD : events.getLastD .empty = last := by rw [List.getLastD_eq_getLast?, hlast, Option.getD_some]
  obtain ⟨hheader, h⟩ := seq_ok.mp h
  have hheader' : checkHeader (reseal record events) = .ok () := checkHeader_resealed (by decide) _ hheader
  obtain ⟨addresses, haddresses, h⟩ := bind_ok.mp h
  obtain ⟨entries, hentries, h⟩ := bind_ok.mp h
  simp only [seq_ok, raiseIf_ok] at h
  obtain ⟨hset, hselection, hproxy, htls', h⟩ := h
  obtain ⟨_, -, h⟩ := bind_ok.mp h
  obtain ⟨_, -, h⟩ := bind_ok.mp h
  simp only [seq_ok, raiseIf_ok] at h
  simp only [Dict.agrees] at hconnection hinvalidation
  simp (disch := decide) only [validateConnectionBinding, seq_ok, raiseIf_ok, hheader', get_reseal,
    haddresses, hentries, ok_bind, differs, Dict.agrees] at hset h ⊢
  simp only [hset, hselection, hproxy, htls, htls', hlist, ok_bind, hevents, hlastD, seq_ok, raiseIf_ok, hconnection, hinvalidation,
    hresult]
  obtain ⟨-, hvalidated⟩ := h
  refine ⟨trivial, trivial, trivial, trivial, rfl, ?_⟩
  rw [Bool.and_eq_false_imp] at hvalidated ⊢
  intro hv
  have hstate := hvalidated hv
  simp only [Bool.or_eq_false_iff] at hstate ⊢
  exact ⟨hstate.1, by simp⟩

/-- The input of a binding to `https://example.com/` at two epochs. -/
def exampleBindingInput (connectionEpoch : Int) : BindingInput where
  endpoint := "https://example.com/"
  addresses := ["93.184.216.34"]
  observedAt := "2026-01-01T00:00:00Z"
  connectionEpoch := connectionEpoch
  invalidationEpoch := 0

/-- The first event of a history, and a retry that claims to have come from
connection epoch 5. -/
def exampleInitial : Dict := (exampleBindingInput 0).event

def exampleRetry : Dict :=
  .ofItems [
    ("sequence", .int 1),
    ("event_type", .str "RETRY"),
    ("observed_at", .str "2026-01-01T00:00:01Z"),
    ("result", .str "MATCHED"),
    ("prior_connection_epoch", .int 5),
    ("connection_epoch", .int 6),
    ("prior_invalidation_epoch", .int 0),
    ("invalidation_epoch", .int 0)]

theorem exampleBinding_accepted {connectionEpoch : Int} (h : 0 ≤ connectionEpoch) :
    validateConnectionBinding ((exampleBindingInput connectionEpoch).record exampleTarget) = .ok () ∧
      ((exampleBindingInput connectionEpoch).record exampleTarget).get "binding_status" = .str "VALIDATED" := by
  have hpublic : (exampleBindingInput connectionEpoch).allPublic = true := by
    show (!(["93.184.216.34"].isEmpty) && (["93.184.216.34"].map resolutionEntry).all
      (·.policyStatus == "ALLOWLISTED_PUBLIC")) = true
    decide
  have hdest : (exampleBindingInput connectionEpoch).destination exampleTarget ≠ "" := by
    simp [BindingInput.destination, exampleBindingInput]
  refine ⟨(exampleBindingInput connectionEpoch).validate_record exampleTarget (List.cons_ne_nil _ _) (fun a ha => ?_) ?_ rfl h le_rfl hdest
    (.inl rfl), ?_⟩
  · rw [List.mem_singleton.mp ha]
    exact readsBack_example
  · rw [authority_example]
    rfl
  · rw [((exampleBindingInput connectionEpoch).record_fields exampleTarget).2.2.2.2.2.2.2.2.2.2]
    simp only [BindingInput.verdict, BindingInput.resolutionSetStatus, hpublic, ↓reduceIte]
    rfl

omit [Runtime] in
theorem exampleHistory_accepted :
    checkEvents 0 .none ([exampleInitial, exampleRetry].map Dict.toVal) = .ok [exampleInitial, exampleRetry] := by
  have hinitial : checkEvent 0 .none exampleInitial.toVal = .ok exampleInitial := by
    obtain ⟨e, he, h⟩ := bind_ok.mp (exampleBindingInput 0).checkEvents_event
    obtain ⟨es, -, h⟩ := bind_ok.mp h
    obtain ⟨rfl, -⟩ := List.cons.inj (Except.ok.inj h)
    exact he
  have htime : exampleInitial.get "observed_at" = .str "2026-01-01T00:00:00Z" := by
    simp [exampleInitial, BindingInput.event, exampleBindingInput, Dict.get_insert, Dict.ofItems]
  have hretry : checkEvent 1 (.str "2026-01-01T00:00:00Z") exampleRetry.toVal = .ok exampleRetry := by
    have hfields : (!exampleRetry.keysWithin (eventFields ++ ["reason_class"]) ||
        !eventFields.all exampleRetry.contains) = false := by decide
    have hreason : exampleRetry.contains "reason_class" = false := by decide
    have hsequence : exampleRetry.get "sequence" = .int 1 := by simp [exampleRetry, Dict.get_insert, Dict.ofItems]
    have hlater : ¬ "2026-01-01T00:00:01Z" < "2026-01-01T00:00:00Z" := by
      rw [String.lt_iff_toList_lt]
      decide
    have hlt : (exampleRetry.get "observed_at").lt (.str "2026-01-01T00:00:00Z") = .ok false := by
      simpa [exampleRetry, Dict.get_insert, Dict.ofItems] using hlater
    have hnext : (6 : Rat) = 5 + 1 := by norm_num
    have hepochs : checkEventEpochs exampleRetry = .ok () := by
      simp [← hnext, checkEventEpochs, differs, exampleRetry, Dict.agrees, Dict.get_insert, Dict.ofItems, pyOr, Except.bind,
        Val.plusOne, Val.isNumber, Except.map, raiseIfM, raiseIf, Val.num?]
    simp [checkEvent, Val.asDict_toVal, hfields, hreason, hsequence, hlt, hepochs, pyAnd, Except.bind, raiseIfM, raiseIf,
      Val.isNone]
  rw [List.map_cons, checkEvents, hinitial, ok_bind, htime, List.map_cons, checkEvents, hretry]
  rfl

/-- A binding that validates over a history with a gap in it. -/
theorem gap_accepted :
    validateConnectionBinding (reseal ((exampleBindingInput 6).record exampleTarget) [exampleInitial, exampleRetry]) =
      .ok () := by
  obtain ⟨haccepted, -⟩ := exampleBinding_accepted (show (0 : Int) ≤ 6 by decide)
  obtain ⟨-, -, -, -, -, -, -, -, hconnection, hinvalidation, -⟩ :=
    (exampleBindingInput 6).record_fields exampleTarget
  refine validate_reseal haccepted exampleHistory_accepted rfl ?_ ?_ ?_
  · rw [Dict.agrees, hconnection]
    simp [exampleBindingInput, exampleRetry, Dict.get_insert, Dict.ofItems]
  · rw [Dict.agrees, hinvalidation]
    simp [exampleBindingInput, exampleRetry, Dict.ofItems]
  · simp [exampleRetry, Dict.get_insert, Dict.ofItems]

end

/-- A validated binding whose history is not a chain of epochs: its retry
starts from connection epoch 5, its first resolution ended at 0. -/
theorem accepted_with_gap :
    letI := asciiRuntime
    ∃ record, validateConnectionBinding record = .ok () ∧ record.get "binding_status" = .str "VALIDATED" ∧
      revalidationEvents record = [exampleInitial, exampleRetry] ∧ ¬ EpochChain record := by
  let := asciiRuntime
  have hevents : revalidationEvents
      (reseal ((exampleBindingInput 6).record exampleTarget) [exampleInitial, exampleRetry]) =
      [exampleInitial, exampleRetry] := by
    rw [revalidationEvents, get_reseal_events]
    simp [Val.asDict_toVal]
  refine ⟨_, gap_accepted, ?_, hevents, fun hc => ?_⟩
  · rw [get_reseal (by decide) (by decide)]
    exact (exampleBinding_accepted (by decide)).2
  · have hconnected := hc.connected
    rw [hevents, List.isChain_cons_cons] at hconnected
    have hepoch := hconnected.1.1
    simp [Dict.agrees, exampleInitial, exampleRetry, BindingInput.event, exampleBindingInput, Dict.get_insert,
      Dict.ofItems] at hepoch

theorem epochChain_iff_example :
    letI := asciiRuntime
    EpochChain ((exampleBindingInput 0).record exampleTarget) ↔
      EpochChainUnchecked ((exampleBindingInput 0).record exampleTarget) :=
  let := asciiRuntime
  epochChain_iff (exampleBinding_accepted le_rfl).1 (exampleBinding_accepted le_rfl).2

end Pmiri
