import Pmiri.GateD.Fence

/-!
# The enforced transport runtime

`gate_d.py`: injected transports run only behind the fence. An execution
returns a receipt, or raises what the fence or the transport raises; with it
come the calls that reached the transport.
-/

namespace Pmiri

open Py

structure ExecutionReceipt where
  status : String
  actionResult : String
  reasonClass : String
  transportCalled : Bool
  output : Option Dict := none

/-- A transport: whether it is the in-memory test double, the network decision
it was built for, and what a call of it does. -/
structure Transport (α : Type) where
  inMemory : Bool
  networkDecision : Val := .none
  call : α → Except Exc Dict

/-- The outcome of an execution and the calls made by it. -/
structure Execution (α : Type) where
  outcome : Except Exc ExecutionReceipt
  calls : List α

namespace Execution

/-- `status == "EXECUTED"` -/
def executed {α : Type} (x : Execution α) : Prop := ∃ r, x.outcome = .ok r ∧ r.status = "EXECUTED"

/-- `executed`, as a test. -/
def isExecuted {α : Type} (x : Execution α) : Bool :=
  match x.outcome with
  | .ok r => r.status == "EXECUTED"
  | .error _ => false

theorem isExecuted_iff {α : Type} {x : Execution α} : x.isExecuted = true ↔ x.executed := by
  rw [isExecuted, executed]
  rcases x.outcome with e | r <;> simp

end Execution

structure EnforcedTransportRuntime where
  provider : Option (Transport Dict) := none
  connector : Option (Transport String) := none
  externalExecutionAuthorized : Bool := false

/-- The fields in which a transport's own decision has to agree. -/
def transportBindingFields : List String := [
  "operation", "normalized_target", "connection_binding_ref", "connection_binding_fingerprint", "connection_epoch",
  "invalidation_epoch"]

/-- `_transport_binding_matches` -/
def transportBindingMatches {α : Type} (t : Transport α) (networkDecision : Dict) : Bool :=
  match t.networkDecision.asDict with
  | none => true
  | some bound => transportBindingFields.all fun field => bound.agrees field networkDecision field

/-- The digits of the bytes of `b`, as `b.hex()` gives them. -/
def hexOfBytes (b : List UInt8) : String := String.join (b.map fun x => hexText 2 x.toNat)

/-- A connector whose `fetch` returns bytes, as the runtime uses it: the
output of the receipt is the digest of the response. -/
def connectorTransport [Runtime] (inMemory : Bool) (networkDecision : Val) (fetch : String → Except Exc (List UInt8)) :
    Transport String where
  inMemory := inMemory
  networkDecision := networkDecision
  call target := (fetch target).map fun response => .ofItems [
    ("response_fingerprint", .str (sha256Json (Dict.ofItems [("bytes", .str (hexOfBytes response))]).toVal))]

section

variable [Runtime] {α : Type}

namespace EnforcedTransportRuntime

/-- What follows on a fence that accepts; `kind` stands in the reasons of a
blocked execution. -/
def release (r : EnforcedTransportRuntime) (transport : Option (Transport α)) (kind : String) (networkDecision : Dict) (payload : α) :
    Execution α :=
  match transport with
  | none => ⟨.ok ⟨"BLOCKED", "DENY", kind ++ "_TRANSPORT_NOT_CONFIGURED", false, none⟩, []⟩
  | some t =>
    if !t.inMemory && !r.externalExecutionAuthorized then
      ⟨.ok ⟨"BLOCKED", "DENY", "EXTERNAL_" ++ kind ++ "_NOT_AUTHORIZED", false, none⟩, []⟩
    else if !transportBindingMatches t networkDecision then
      ⟨.ok ⟨"DENIED", "DENY", "TRANSPORT_DECISION_BINDING_MISMATCH", false, none⟩, []⟩
    else
      ⟨(t.call payload).map fun output => ⟨"EXECUTED", "ALLOW", "NONE", true, some output⟩, [payload]⟩

/-- What `execute_provider` and `execute_connector` have in common. -/
def execute (r : EnforcedTransportRuntime) (g : GateDDecisionEngine) (transport : Option (Transport α)) (kind : String)
    (i : EmissionInput) (payload : α) : Execution α :=
  match g.authorizeEmission i with
  | .error e =>
    if isContractViolation e then
      ⟨.ok ⟨"DENIED", (i.envelope.getD "action_result" (.str "DENY")).toStr, e.message, false, none⟩, []⟩
    else ⟨.error e, []⟩
  | .ok () => r.release transport kind (i.networkDecision.getD .empty) payload

/-- `execute_provider` passes no lifecycle to the fence. -/
def executeProvider (r : EnforcedTransportRuntime) (g : GateDDecisionEngine) (i : EmissionInput) (payload : Dict) :
    Execution Dict :=
  r.execute g r.provider "PROVIDER" { i with lifecycle := none } payload

def executeConnector (r : EnforcedTransportRuntime) (g : GateDDecisionEngine) (i : EmissionInput) (target : String) :
    Execution String :=
  r.execute g r.connector "CONNECTOR" i target

variable {r : EnforcedTransportRuntime} {g : GateDDecisionEngine} {transport : Option (Transport α)} {kind : String}
  {i : EmissionInput} {payload : α}

/-- The transport was called: the fence accepted, and the configured transport
is allowed and bound to the decision. -/
structure Released (r : EnforcedTransportRuntime) (g : GateDDecisionEngine) (transport : Option (Transport α))
    (i : EmissionInput) (t : Transport α) : Prop where
  fence : g.FenceAccepts i
  configured : transport = some t
  authorized : t.inMemory = true ∨ r.externalExecutionAuthorized = true
  bound : transportBindingMatches t (i.networkDecision.getD .empty) = true

/-- A released execution calls the transport once and reports what it returns. -/
theorem execute_of_released {t : Transport α} (h : r.Released g transport i t) :
    r.execute g transport kind i payload =
      ⟨(t.call payload).map fun output => ⟨"EXECUTED", "ALLOW", "NONE", true, some output⟩, [payload]⟩ := by
  have ha : (!t.inMemory && !r.externalExecutionAuthorized) = false := by
    rcases h.authorized with h | h <;> simp [h]
  simp only [execute, release, g.authorizeEmission_ok.mpr h.fence, h.configured, ha, h.bound, Bool.false_eq_true, ↓reduceIte,
    Bool.not_true]

/-- Any other execution calls no transport, and is not `EXECUTED`. -/
theorem execute_of_not_released (h : ¬ ∃ t, r.Released g transport i t) :
    (r.execute g transport kind i payload).calls = [] ∧ ¬ (r.execute g transport kind i payload).executed := by
  unfold execute
  split
  · split
    · exact ⟨rfl, by rintro ⟨_, hr, he⟩; cases hr; exact absurd he (by simp)⟩
    · exact ⟨rfl, by rintro ⟨_, hr, _⟩; cases hr⟩
  · rename_i hfence
    unfold release
    split
    · exact ⟨rfl, by rintro ⟨_, hr, he⟩; cases hr; exact absurd he (by simp)⟩
    · rename_i t
      split
      · exact ⟨rfl, by rintro ⟨_, hr, he⟩; cases hr; exact absurd he (by simp)⟩
      · rename_i ha
        split
        · exact ⟨rfl, by rintro ⟨_, hr, he⟩; cases hr; exact absurd he (by simp)⟩
        · rename_i hb
          refine absurd ⟨t, g.authorizeEmission_ok.mp hfence, rfl, ?_, by simpa using hb⟩ h
          cases hm : t.inMemory
          · exact .inr (by simpa [hm] using ha)
          · exact .inl rfl

/-- The transport is called exactly by a released execution. -/
theorem execute_calls_ne_nil :
    (r.execute g transport kind i payload).calls ≠ [] ↔ ∃ t, r.Released g transport i t := by
  constructor
  · intro h
    by_contra hn
    exact h (execute_of_not_released hn).1
  · rintro ⟨t, h⟩
    rw [execute_of_released h]
    exact List.cons_ne_nil _ _

/-- An execution is `EXECUTED` exactly if it is released and the transport
returns. -/
theorem execute_executed :
    (r.execute g transport kind i payload).executed ↔
      ∃ t output, r.Released g transport i t ∧ t.call payload = .ok output := by
  constructor
  · intro h
    by_cases hr : ∃ t, r.Released g transport i t
    · obtain ⟨t, ht⟩ := hr
      rw [execute_of_released ht] at h
      obtain ⟨receipt, hreceipt, -⟩ := h
      rcases hc : t.call payload with e | output
      · simp [hc, Except.map] at hreceipt
      · exact ⟨t, output, ht, hc⟩
    · exact absurd h (execute_of_not_released hr).2
  · rintro ⟨t, output, ht, hc⟩
    rw [execute_of_released ht]
    exact ⟨_, congrArg (Except.map _) hc, rfl⟩

end EnforcedTransportRuntime

end

end Pmiri
