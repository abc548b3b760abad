import Pmiri.GateD.FailClosed
import Pmiri.GateD.Transport
import Pmiri.Python.AnyValue
import Pmiri.Python.Sha256

/-!
# Emissions with any records

The records that a caller presents to the runtime may hold values of every kind
that JSON has, also values that cannot be written. Each record is serialized
for its fingerprint before its vocabularies are looked up, except for the
envelope, whose vocabularies come first, and the outbound decision, which is
serialized last. The runtime turns a `ContractViolation` of the fence into a
receipt, for which it prints the envelope's action, and nothing else.
-/

namespace Pmiri

open Py

/-! ## Records -/

/-- A dictionary with string keys. -/
structure AnyRecord extends AnyObject where
  nodup : (items.map Prod.fst).Nodup

namespace AnyRecord

/-- The record as lookups and comparisons see it. -/
def seen (d : AnyRecord) : Dict := .ofItems (d.items.map fun kv => (kv.1.text, kv.2.seen))

/-- `{key: value for key, value in record.items() if key not in keys}` -/
def without (d : AnyRecord) (keys : List String) : AnyVal :=
  .dict (d.items.filter fun kv => keys.all fun key => decide (kv.1 ≠ .ofString key))

theorem serialized_uncaught {v : AnyVal} {e : Exc} (h : (serialized v).map (fun _ => ()) = .error e) :
    isContractViolation e = false := by
  unfold serialized at h
  split at h
  · cases h
    rfl
  · split at h
    · cases h
      rfl
    · cases h

/-- What `sha256_json` does with the fields apart from `keys`. -/
def serialization (d : AnyRecord) (keys : List String) : Serialization where
  outcome := (serialized (d.without keys)).map fun _ => ()
  uncaught _ h := serialized_uncaught h

theorem outcome_serialization (d : AnyRecord) (keys : List String) :
    (d.serialization keys).outcome = (serialized (d.without keys)).map fun _ => () := rfl

theorem serialization_passes {d : AnyRecord} {keys : List String} :
    (d.serialization keys).Passes ↔ (d.without keys).Writable := by
  rw [Serialization.Passes, outcome_serialization]
  constructor
  · intro h
    by_contra hnot
    obtain ⟨e, he⟩ := serialized_of_not_writable hnot
    rw [he] at h
    cases h
  · intro h
    rw [serialized_of_writable h]
    rfl

/-- A dictionary that is built of the fields has under a key of the code what the record has there. -/
theorem get?_foldl_insert {f : AnyVal → Val} {items : List (Str × AnyVal)} (hnodup : (items.map Prod.fst).Nodup) {key : String}
    (hkey : Char.ofNat 0 ∉ key.toList) (d : Dict) :
    ((items.map fun kv => (kv.1.text, f kv.2)).foldl (fun d p => d.insert p.1 p.2) d).get? key =
      ((items.lookup (.ofString key)).map f).or (d.get? key) := by
  induction items generalizing d with
  | nil => rfl
  | cons kv items ih =>
    obtain ⟨k, v⟩ := kv
    rw [List.map_cons, List.nodup_cons] at hnodup
    rw [List.map_cons, List.foldl_cons, ih hnodup.2, Dict.get?_insert, List.lookup_cons]
    have hsame : key = k.text ↔ Str.ofString key = k := by
      rw [eq_comm, Str.text_eq_iff hkey, eq_comm]
    by_cases h : Str.ofString key = k
    · have hnone : items.lookup (Str.ofString key) = none := by
        refine List.lookup_eq_none_iff.mpr fun p hp => bne_iff_ne.mpr fun e => hnodup.1 ?_
        exact List.mem_map.mpr ⟨p, hp, e.symm.trans h⟩
      rw [hnone, if_pos (hsame.mpr h), beq_iff_eq.mpr h]
      rfl
    · rw [if_neg (mt hsame.mp h), beq_eq_false_iff_ne.mpr h]

theorem get?_seen {d : AnyRecord} {key : String} (hkey : Char.ofNat 0 ∉ key.toList) :
    d.seen.get? key = (d.get? key).map AnyVal.seen := by
  rw [seen, Dict.ofItems, get?_foldl_insert d.nodup hkey, Dict.empty]
  exact Option.or_none

/-- `str(record.get(key, default))` does not raise, for a text `default`. -/
def prints (d : AnyRecord) (key : String) : Bool := (d.get? key).all AnyVal.prints

/-- A field that is found in a vocabulary can be printed. -/
theorem prints_of_vocabulary {d : AnyRecord} {key : String} (hkey : Char.ofNat 0 ∉ key.toList) {s : List String}
    (h : ∃ x ∈ s, d.seen.get key = .str x) : d.prints key = true := by
  obtain ⟨x, -, hx⟩ := h
  rw [Dict.get, get?_seen hkey] at hx
  rw [prints]
  cases hv : d.get? key with
  | none => rfl
  | some v =>
    rw [hv] at hx
    rw [AnyVal.eq_lit_of_seen hx]
    rfl

end AnyRecord

/-! ## Executions -/

/-- What a caller presents to the runtime. -/
structure AnyEmissionInput where
  envelope : AnyRecord
  trustDecision : AnyRecord
  capabilityDecision : AnyRecord
  networkDecision : Option AnyRecord
  lifecycle : Option AnyRecord := none
  authorizationBinding : Option RequestAuthorizationBinding := none
  authorizationRequest : AuthorizationRequest := .absent
  authorizationRevalidator : Option Revalidator := none

namespace AnyEmissionInput

/-- The records as the fence sees them. Envelope and network decision are compared with each other; of the other records it asks,
before they are serialized, only whether fields are texts of the code, fingerprints, lists or not empty. -/
def seen (i : AnyEmissionInput) : EmissionInput where
  envelope := i.envelope.seen
  trustDecision := i.trustDecision.written
  capabilityDecision := i.capabilityDecision.written
  networkDecision := i.networkDecision.map AnyRecord.seen
  lifecycle := i.lifecycle.map (·.written)
  authorizationBinding := i.authorizationBinding
  authorizationRequest := i.authorizationRequest
  authorizationRevalidator := i.authorizationRevalidator

/-- The fields that the fingerprints cover, as they are serialized. -/
def serializations (i : AnyEmissionInput) : EmissionSerializations where
  envelope := i.envelope.serialization ["decision_fingerprint", "captured_at"]
  trust := i.trustDecision.serialization ["decision_fingerprint"]
  capability := i.capabilityDecision.serialization ["decision_fingerprint"]
  network := i.networkDecision.elim .written fun n => n.serialization ["decision_fingerprint", "captured_at"]
  lifecycle := i.lifecycle.elim .written fun l => l.serialization ["lifecycle_fingerprint"]

end AnyEmissionInput

/-- `str(…)` of an integer that is too long, or of a value that holds one. -/
def unprintable : Exc := .valueError "ValueError" "Exceeds the limit for integer string conversion"

/-- An execution that does not execute says so in a receipt and calls no
transport; it raises only what the transport raises. -/
structure Execution.Closed {α : Type} (x : Execution α) (transport : Option (Transport α)) (payload : α) : Prop where
  refused : ∀ r, x.outcome = .ok r → r.status ≠ "EXECUTED" →
    (r.status = "DENIED" ∨ r.status = "BLOCKED") ∧ r.transportCalled = false ∧ x.calls = []
  raised : ∀ e, x.outcome = .error e → ∃ t, transport = some t ∧ x.calls = [payload] ∧ t.call payload = .error e

section

variable [Runtime]

namespace EnforcedTransportRuntime

/-- What `execute_provider` and `execute_connector` have in common. -/
def executeAny {α : Type} (r : EnforcedTransportRuntime) (g : GateDDecisionEngine) (transport : Option (Transport α)) (kind : String)
    (i : AnyEmissionInput) (payload : α) : Execution α :=
  match g.fence i.serializations i.seen with
  | .error e =>
    if isContractViolation e then
      if i.envelope.prints "action_result" then
        ⟨.ok ⟨"DENIED", (i.envelope.written.getD "action_result" (.str "DENY")).toStr, e.message, false, none⟩, []⟩
      else ⟨.error unprintable, []⟩
    else ⟨.error e, []⟩
  | .ok () => r.release transport kind ((i.networkDecision.map AnyRecord.seen).getD .empty) payload

/-- `execute_provider` passes no lifecycle to the fence. -/
def executeAnyProvider (r : EnforcedTransportRuntime) (g : GateDDecisionEngine) (i : AnyEmissionInput) (payload : Dict) :
    Execution Dict :=
  r.executeAny g r.provider "PROVIDER" { i with lifecycle := none } payload

def executeAnyConnector (r : EnforcedTransportRuntime) (g : GateDDecisionEngine) (i : AnyEmissionInput) (target : String) :
    Execution String :=
  r.executeAny g r.connector "CONNECTOR" i target

omit [Runtime] in
theorem closed_receipt {α : Type} {transport : Option (Transport α)} {payload : α} {r : ExecutionReceipt}
    (hstatus : r.status = "DENIED" ∨ r.status = "BLOCKED") (hcalled : r.transportCalled = false) :
    (⟨.ok r, []⟩ : Execution α).Closed transport payload := by
  refine ⟨fun r' hr _ => ?_, fun e he => ?_⟩
  · obtain rfl : r = r' := Except.ok.inj hr
    exact ⟨hstatus, hcalled, rfl⟩
  · cases he

omit [Runtime] in
/-- What is raised without a call to the transport is not its own. -/
theorem not_closed_error {α : Type} {transport : Option (Transport α)} {payload : α} {e : Exc} :
    ¬ (⟨.error e, []⟩ : Execution α).Closed transport payload := by
  intro h
  obtain ⟨-, -, hcalls, -⟩ := h.raised e rfl
  cases hcalls

omit [Runtime] in
theorem release_closed {α : Type} (r : EnforcedTransportRuntime) (transport : Option (Transport α)) (kind : String)
    (networkDecision : Dict) (payload : α) : (r.release transport kind networkDecision payload).Closed transport payload := by
  unfold release
  split
  · exact closed_receipt (.inr rfl) rfl
  · rename_i t
    split
    · exact closed_receipt (.inr rfl) rfl
    · split
      · exact closed_receipt (.inl rfl) rfl
      · refine ⟨fun r' hr hne => ?_, fun e he => ⟨t, rfl, rfl, ?_⟩⟩
        · rcases hcall : t.call payload with e | output
          · simp [hcall, Except.map] at hr
          · simp only [hcall, Except.map, Except.ok.injEq] at hr
            exact absurd (hr ▸ rfl) hne
        · rcases hcall : t.call payload with e' | output
          · simpa [hcall, Except.map] using he
          · simp [hcall, Except.map] at he

/-- The fence can look up and serialize the records, as far as it gets to that, and the envelope's action can be printed. -/
structure Answerable (g : GateDDecisionEngine) (i : AnyEmissionInput) : Prop where
  fence : g.FenceTestable i.serializations i.seen
  action : i.envelope.prints "action_result" = true

theorem executeAny_closed_iff {α : Type} (r : EnforcedTransportRuntime) (g : GateDDecisionEngine) (transport : Option (Transport α))
    (kind : String) (i : AnyEmissionInput) (payload : α) :
    (r.executeAny g transport kind i payload).Closed transport payload ↔ Answerable g i := by
  have hfence : Answerable g i ↔ FailsClosed (g.fence i.serializations i.seen) ∧ i.envelope.prints "action_result" = true := by
    rw [g.fence_failsClosed]
    exact ⟨fun h => ⟨h.fence, h.action⟩, fun h => ⟨h.1, h.2⟩⟩
  rw [hfence]
  unfold executeAny
  rcases hf : g.fence i.serializations i.seen with e | _
  · have hraised : FailsClosed (.error e : Except Exc Unit) ↔ isContractViolation e = true := onlyRaises_error
    rw [hraised]
    dsimp only
    split
    · rename_i hc
      split
      · rename_i hp
        exact iff_of_true (closed_receipt (.inl rfl) rfl) ⟨hc, hp⟩
      · rename_i hp
        exact iff_of_false not_closed_error fun h => hp h.2
    · rename_i hc
      exact iff_of_false not_closed_error fun h => hc h.1
  · -- an action that the fence accepts is a text of its vocabulary
    obtain ⟨⟨-, henvelope, -⟩, -⟩ : (_ ∧ IntegratedEnvelope i.seen.envelope ∧ _) ∧ _ := by
      rw [GateDDecisionEngine.fence, seq_ok, g.checkEnvelope_ok] at hf
      exact hf
    have hprints : i.envelope.prints "action_result" = true := AnyRecord.prints_of_vocabulary (by decide) henvelope.action
    exact iff_of_true (release_closed ..) ⟨onlyRaises_ok (), hprints⟩

/-- The runtime fails closed exactly if everything that the fence gets to look up is no list or dictionary, everything that it
gets to serialize can be written, the binding and the revalidator answer, and the envelope's action can be printed. -/
theorem closed_iff (r : EnforcedTransportRuntime) (g : GateDDecisionEngine) (i : AnyEmissionInput) (payload : Dict) (target : String) :
    ((r.executeAnyProvider g i payload).Closed r.provider payload ↔ Answerable g { i with lifecycle := none }) ∧
      ((r.executeAnyConnector g i target).Closed r.connector target ↔ Answerable g i) :=
  ⟨r.executeAny_closed_iff g r.provider "PROVIDER" _ payload, r.executeAny_closed_iff g r.connector "CONNECTOR" i target⟩

end EnforcedTransportRuntime

end

/-- An envelope whose operation is a list. -/
def exampleListEnvelope : AnyRecord where
  items := [
    (.ofString "operation", .list []),
    (.ofString "purpose", .lit "provider_call"),
    (.ofString "action_result", .lit "DENY"),
    (.ofString "authority_manifest_fingerprint", .lit "")]
  nodup := by decide

def emptyRecord : AnyRecord where
  items := []
  nodup := List.nodup_nil

/-- The runtime raises `TypeError` on it, with no transport configured. -/
theorem list_operation_raises :
    letI := asciiRuntime
    ∃ g : GateDDecisionEngine, ∃ i : AnyEmissionInput, i.envelope = exampleListEnvelope ∧
      (EnforcedTransportRuntime.executeAnyProvider {} g i .empty).outcome = .error (.typeError "unhashable type: 'list'") := by
  let := asciiRuntime
  let g : GateDDecisionEngine := {
    authorityManifestFingerprint := "0000000000000000000000000000000000000000000000000000000000000000"
    authority_valid := by decide
    now := "2026-01-01T00:00:00Z" }
  let i : AnyEmissionInput := {
    envelope := exampleListEnvelope
    trustDecision := emptyRecord
    capabilityDecision := emptyRecord
    networkDecision := none }
  have hseen : exampleListEnvelope.seen = .ofItems [("operation", .list []), ("purpose", .str "provider_call"),
      ("action_result", .str "DENY"), ("authority_manifest_fingerprint", .str "")] := by
    simp [AnyRecord.seen, exampleListEnvelope, AnyVal.seen, AnyVal.Writable, AnyVal.dumps, AnyVal.dumpsList, AnyVal.encodes,
      AnyVal.encodesList, AnyVal.toVal, AnyVal.toVals]
  have hvalidate : validateIntegratedEnvelope exampleListEnvelope.seen = .error (.typeError "unhashable type: 'list'") := by
    rw [hseen]
    rfl
  have hfence : ∀ s, g.fence s { i with lifecycle := none }.seen = .error (.typeError "unhashable type: 'list'") := by
    intro s
    rw [GateDDecisionEngine.fence, GateDDecisionEngine.checkEnvelope, AnyEmissionInput.seen,
      show i.envelope = exampleListEnvelope from rfl, hvalidate]
    rfl
  refine ⟨g, i, rfl, ?_⟩
  rw [EnforcedTransportRuntime.executeAnyProvider, EnforcedTransportRuntime.executeAny, hfence]
  rfl

end Pmiri
