import Pmiri.Python.Order
import Pmiri.Read.Projection

/-!
# Read operations

`read_operations.py`: the seven read operations over the one projection
handler. A response is bound to its operation by its typed result, by its
continuation and by a fence that is checked before it is emitted.
-/

namespace Pmiri

open Py

def READ_OPERATIONS : List String :=
  ["search", "fetch_evidence", "resolve_current_state", "retrieve_history", "timeline", "explain", "status"]

/-- `ExternalReadEmissionError(msg)` -/
def externalReadEmissionError (msg : String) : Exc := .valueError "ExternalReadEmissionError" msg

/-- `_strip_transport_operation` -/
def stripTransportOperation (operation : String) (raw : Val) : Except Exc Dict := do
  raiseIf (!READ_OPERATIONS.contains operation) (externalReadEmissionError "read_operation_unknown")
  match raw.asDict with
  | none => .error (externalReadEmissionError "read_request_must_be_object")
  | some d =>
    raiseIf (!(d.get "operation").isNone && differs d "operation" operation)
      (externalReadEmissionError "read_operation_substitution")
    return d.without "operation"

/-- What is stripped is for a known operation. -/
theorem mem_of_stripped {operation : String} {raw : Val} {payload : Dict}
    (h : stripTransportOperation operation raw = .ok payload) : operation ∈ READ_OPERATIONS := by
  obtain ⟨hknown, -⟩ := seq_ok.mp h
  simpa [raiseIf_ok, List.contains_eq_mem] using hknown

section

variable [Runtime]

/-- The continuation of an operation: `requestFingerprint` and the projection's
own continuation, bound to the operation. -/
def operationContinuation (operation : String) (requestFingerprint : Val) (baseCursor : String) : String :=
  "cursor_" ++ sha256Json (Dict.ofItems [
    ("operation", .str operation),
    ("request_fingerprint", requestFingerprint),
    ("base_continuation", .str baseCursor)]).toVal

/-- `_operation_cursor` -/
def operationCursor (operation : String) (projection : Dict) : Except Exc String :=
  match (projection.get "lineage").asDict, projection.get "continuation" with
  | some lineage, .str baseCursor => .ok (operationContinuation operation (lineage.get "request_fingerprint") baseCursor)
  | _, _ => .error (externalReadEmissionError "read_continuation_binding_missing")

/-! ## The emission fence -/

structure ExternalReadEmissionFence where
  operation : String
  projectionFingerprint : String
  typedResultFingerprint : String
  status : String := "EMIT_VALID"

namespace ExternalReadEmissionFence

def create (operation : String) (projection typedResult : Dict) : Except Exc ExternalReadEmissionFence := do
  raiseIf (!READ_OPERATIONS.contains operation) (externalReadEmissionError "read_operation_unknown")
  return { operation, projectionFingerprint := disclosureFingerprint projection,
           typedResultFingerprint := sha256Json typedResult.toVal }

omit [Runtime] in
def structured (f : ExternalReadEmissionFence) : Dict :=
  .ofItems [
    ("record_type", .str "PMIRI_EXTERNAL_READ_EMISSION_FENCE"),
    ("schema_version", .str "0.1"),
    ("operation", .str f.operation),
    ("projection_fingerprint", .str f.projectionFingerprint),
    ("typed_result_fingerprint", .str f.typedResultFingerprint),
    ("status", .str f.status)]

/-- The checks of `assert_valid` on the result and the lineage of the projection. -/
def assertAuthoritative (f : ExternalReadEmissionFence) (projection typedResult : Dict) : Except Exc Unit :=
  match (projection.get "result").asDict, (projection.get "lineage").asDict with
  | some result, some lineage => do
    raiseIf (differs typedResult "projection_fingerprint" f.projectionFingerprint)
      (externalReadEmissionError "read_typed_result_projection_binding_mismatch")
    raiseIf (!typedResult.agrees "disposition" result "disposition")
      (externalReadEmissionError "read_typed_result_not_authoritative")
    raiseIf (!typedResult.agrees "coverage" result "coverage")
      (externalReadEmissionError "read_typed_result_coverage_mismatch")
    raiseIf (!typedResult.agrees "authorization_ref" lineage "authorization_ref")
      (externalReadEmissionError "read_typed_result_authorization_mismatch")
    let evidenceRefs ← (lineage.getD "evidence_refs" (.list [])).elements
    raiseIf (!(typedResult.get "evidence_refs").eq (.list evidenceRefs))
      (externalReadEmissionError "read_typed_result_evidence_mismatch")
  | _, _ => .error (externalReadEmissionError "read_projection_authority_shape_invalid")

def assertValid (f : ExternalReadEmissionFence) (envelope : Dict) : Except Exc Unit := do
  raiseIf (f.status != "EMIT_VALID") (externalReadEmissionError "read_emission_not_valid")
  raiseIf (differs envelope "operation" f.operation) (externalReadEmissionError "read_operation_binding_mismatch")
  match (envelope.get "projection").asDict, (envelope.get "typed_result").asDict with
  | some projection, some typedResult =>
    raiseIf (disclosureFingerprint projection != f.projectionFingerprint)
      (externalReadEmissionError "read_projection_fingerprint_mismatch")
    raiseIf (sha256Json typedResult.toVal != f.typedResultFingerprint)
      (externalReadEmissionError "read_typed_result_fingerprint_mismatch")
    raiseIf (differs typedResult "operation" f.operation)
      (externalReadEmissionError "read_typed_result_operation_mismatch")
    f.assertAuthoritative projection typedResult
  | _, _ => .error (externalReadEmissionError "read_emission_shape_invalid")

end ExternalReadEmissionFence

/-! ## Responses -/

/-- The typed result of a projection, whose evidence references are a list. -/
def typedResultOf (operation : String) (projection : Dict) : Dict :=
  let result := itemDict projection "result"
  let lineage := itemDict projection "lineage"
  .ofItems [
    ("record_type", .str "PMIRI_EXTERNAL_READ_TYPED_RESULT"),
    ("schema_version", .str "0.1"),
    ("operation", .str operation),
    ("disposition", result.get "disposition"),
    ("coverage", result.get "coverage"),
    ("authorization_ref", lineage.get "authorization_ref"),
    ("evidence_refs", lineage.getD "evidence_refs" (.list [])),
    ("projection_fingerprint", .str (disclosureFingerprint projection))]

/-- The end of `_execute`: the response that a projection is emitted in. -/
def respond (operation : String) (payload projection : Dict) : Except Exc Dict := do
  let expectedCursor ← operationCursor operation projection
  raiseIf (!(payload.get "cursor").isNone && differs payload "cursor" expectedCursor)
    (externalReadEmissionError "read_cursor_binding_mismatch")
  let projection := projection.insert "continuation" (.str expectedCursor)
  let typedResult := typedResultOf operation projection
  let envelope := Dict.ofItems [
    ("operation", .str operation), ("projection", projection.toVal), ("typed_result", typedResult.toVal)]
  let fence ← ExternalReadEmissionFence.create operation projection typedResult
  fence.assertValid envelope
  return envelope.insert "emission_fence" fence.structured.toVal

/-! ## The service -/

inductive Adapter
  | api
  | mcp
deriving DecidableEq

namespace ReadProjectionService

variable {σ κ ρ γ : Type} [SourceStore σ] [RegistryPort κ] [RatePort ρ] [ReplayPort γ]

omit [RegistryPort κ] [RatePort ρ] [ReplayPort γ] in
/-- The body of `api` and of `mcp`. -/
def unauthenticated (s : ReadProjectionService σ κ ρ γ) (raw : Val) : Except Exc Dict := do
  raiseIf s.authorization.isSome (valueError "authenticated_adapter_required")
  s.handle raw

omit [RegistryPort κ] [RatePort ρ] [ReplayPort γ] in
/-- The body of `api_disclosed` and of `mcp_disclosed`. -/
def disclosed (s : ReadProjectionService σ κ ρ γ) (raw : Val) (authorized : Bool) : Except Exc Dict := do
  raiseIf s.authorization.isSome (valueError "caller_authorization_flag_not_authority")
  s.handleDisclosed raw authorized none none

omit [RegistryPort κ] [RatePort ρ] [ReplayPort γ] in
def api (s : ReadProjectionService σ κ ρ γ) (raw : Val) : Except Exc Dict := s.unauthenticated raw

omit [RegistryPort κ] [RatePort ρ] [ReplayPort γ] in
def mcp (s : ReadProjectionService σ κ ρ γ) (raw : Val) : Except Exc Dict := s.unauthenticated raw

omit [RegistryPort κ] [RatePort ρ] [ReplayPort γ] in
def apiDisclosed (s : ReadProjectionService σ κ ρ γ) (raw : Val) (authorized : Bool) : Except Exc Dict :=
  s.disclosed raw authorized

omit [RegistryPort κ] [RatePort ρ] [ReplayPort γ] in
def mcpDisclosed (s : ReadProjectionService σ κ ρ γ) (raw : Val) (authorized : Bool) : Except Exc Dict :=
  s.disclosed raw authorized

def apiAuthenticated (s : ReadProjectionService σ κ ρ γ) (call : ReadCall) :
    Except Exc Dict × ReadProjectionService σ κ ρ γ := s.handleAuthenticated call

def mcpAuthenticated (s : ReadProjectionService σ κ ρ γ) (call : ReadCall) :
    Except Exc Dict × ReadProjectionService σ κ ρ γ := s.handleAuthenticated call

/-- The calls of `_execute` on the projection service. -/
def project (s : ReadProjectionService σ κ ρ γ) (adapter : Adapter) (authorized : Option Bool) (call : ReadCall) :
    Except Exc Dict × ReadProjectionService σ κ ρ γ :=
  match s.authorization with
  | some _ =>
    if authorized.isSome then (.error (externalReadEmissionError "caller_authorization_flag_not_authority"), s)
    else
      match adapter with
      | .api => s.apiAuthenticated call
      | .mcp => s.mcpAuthenticated call
  | none =>
    if call.authenticationRef.isSome then (.error (externalReadEmissionError "authorization_service_required"), s)
    else
      match adapter, authorized with
      | .api, none => (s.api call.raw, s)
      | .api, some authorized => (s.apiDisclosed call.raw authorized, s)
      | .mcp, none => (s.mcp call.raw, s)
      | .mcp, some authorized => (s.mcpDisclosed call.raw authorized, s)

end ReadProjectionService

structure ReadOperationService (σ κ ρ γ : Type) where
  projection : ReadProjectionService σ κ ρ γ

namespace ReadOperationService

variable {σ κ ρ γ : Type} [SourceStore σ] [RegistryPort κ] [RatePort ρ] [ReplayPort γ]

/-- `_execute`, with the service it leaves behind. -/
def execute (s : ReadOperationService σ κ ρ γ) (operation : String) (adapter : Adapter) (authorized : Option Bool)
    (call : ReadCall) : Except Exc Dict × ReadOperationService σ κ ρ γ :=
  match stripTransportOperation operation call.raw with
  | .error e => (.error e, s)
  | .ok payload =>
    let (projection, after) := s.projection.project adapter authorized { call with raw := payload.toVal }
    (projection >>= respond operation payload, ⟨after⟩)

def api (s : ReadOperationService σ κ ρ γ) (operation : String) (authorized : Option Bool) (call : ReadCall) :
    Except Exc Dict × ReadOperationService σ κ ρ γ :=
  s.execute operation .api authorized { call with authenticationRef := none, now := none }

def mcp (s : ReadOperationService σ κ ρ γ) (operation : String) (authorized : Option Bool) (call : ReadCall) :
    Except Exc Dict × ReadOperationService σ κ ρ γ :=
  s.execute operation .mcp authorized { call with authenticationRef := none, now := none }

def apiAuthenticated (s : ReadOperationService σ κ ρ γ) (operation : String) (call : ReadCall) :
    Except Exc Dict × ReadOperationService σ κ ρ γ := s.execute operation .api none call

def mcpAuthenticated (s : ReadOperationService σ κ ρ γ) (operation : String) (call : ReadCall) :
    Except Exc Dict × ReadOperationService σ κ ρ γ := s.execute operation .mcp none call

end ReadOperationService

/-! ## What is emitted -/

/-- A projection as the handlers make them. -/
structure Projected (projection : Dict) : Prop where
  result : ∃ result : Dict, projection.get "result" = result.toVal
  lineage : ∃ (lineage : Dict) (refs : List Val), projection.get "lineage" = lineage.toVal ∧
    lineage.getD "evidence_refs" (.list []) = .list refs
  continuation : ∃ cursor : String, projection.get "continuation" = .str cursor

/-- The cursor of a projection for the operation. -/
def cursorOf (operation : String) (projection : Dict) : String :=
  operationContinuation operation ((itemDict projection "lineage").get "request_fingerprint")
    (projection.get "continuation").strText

/-- A cursor is presented that is not the projection's. -/
def cursorMismatch (operation : String) (payload projection : Dict) : Bool :=
  !(payload.get "cursor").isNone && differs payload "cursor" (cursorOf operation projection)

/-- The response for a projection. -/
def responseOf (operation : String) (projection : Dict) : Dict :=
  let projection := projection.insert "continuation" (.str (cursorOf operation projection))
  let typedResult := typedResultOf operation projection
  let fence : ExternalReadEmissionFence :=
    ⟨operation, disclosureFingerprint projection, sha256Json typedResult.toVal, "EMIT_VALID"⟩
  (Dict.ofItems [("operation", .str operation), ("projection", projection.toVal), ("typed_result", typedResult.toVal)]).insert
    "emission_fence" fence.structured.toVal

omit [Runtime] in
theorem itemDict_of_get {d e : Dict} {key : String} (h : d.get key = e.toVal) : itemDict d key = e := by
  rw [itemDict, h, Val.asDict_toVal, Option.getD_some]

theorem itemDict_responseOf (operation : String) (projection : Dict) :
    itemDict (responseOf operation projection) "projection" =
      projection.insert "continuation" (.str (cursorOf operation projection)) := by
  refine itemDict_of_get ?_
  simp [responseOf, Dict.ofItems, Dict.get_insert]

theorem operationCursor_of_projected {operation : String} {p : Dict} (hp : Projected p) :
    operationCursor operation p = .ok (cursorOf operation p) := by
  obtain ⟨lineage, -, hl, -⟩ := hp.lineage
  obtain ⟨cursor, hc⟩ := hp.continuation
  simp only [operationCursor, cursorOf, itemDict, hl, hc, Val.asDict_toVal, Option.getD_some, Val.strText]

omit [Runtime] in
theorem Projected.insert_continuation {p : Dict} (hp : Projected p) (cursor : String) :
    Projected (p.insert "continuation" (.str cursor)) := by
  refine ⟨?_, ?_, cursor, Dict.get_insert_self ..⟩
  · simpa [Dict.get_insert] using hp.result
  · simpa [Dict.get_insert] using hp.lineage

/-- The fence accepts the typed result of the projection. -/
theorem assertAuthoritative_typedResultOf {operation : String} {p : Dict} (hp : Projected p)
    {f : ExternalReadEmissionFence} (hf : f.projectionFingerprint = disclosureFingerprint p) :
    f.assertAuthoritative p (typedResultOf operation p) = .ok () := by
  obtain ⟨result, hr⟩ := hp.result
  obtain ⟨lineage, refs, hl, hrefs⟩ := hp.lineage
  simp only [ExternalReadEmissionFence.assertAuthoritative, hr, hl, Val.asDict_toVal, hrefs, Val.elements, ok_bind, seq_ok,
    raiseIf_ok, differs_false, Bool.not_eq_false', Dict.agrees, typedResultOf, itemDict_of_get hr, itemDict_of_get hl, hf]
  simp [Dict.ofItems, Dict.get_insert, Val.eq_refl]

/-- The fence accepts the envelope that it was created for. -/
theorem assertValid_of_projected {operation : String} {p : Dict} (hp : Projected p) :
    (ExternalReadEmissionFence.mk operation (disclosureFingerprint p) (sha256Json (typedResultOf operation p).toVal)
      "EMIT_VALID").assertValid (Dict.ofItems [
        ("operation", .str operation), ("projection", p.toVal), ("typed_result", (typedResultOf operation p).toVal)]) =
      .ok () := by
  have hprojection : (Dict.ofItems [("operation", .str operation), ("projection", p.toVal),
      ("typed_result", (typedResultOf operation p).toVal)]).get "projection" = p.toVal := by
    simp [Dict.ofItems, Dict.get_insert]
  have htyped : (Dict.ofItems [("operation", .str operation), ("projection", p.toVal),
      ("typed_result", (typedResultOf operation p).toVal)]).get "typed_result" = (typedResultOf operation p).toVal := by
    simp [Dict.ofItems]
  simp only [ExternalReadEmissionFence.assertValid, seq_ok, raiseIf_ok, hprojection, htyped, Val.asDict_toVal,
    differs_false, bne_self_eq_false, true_and]
  refine ⟨by simp [Dict.ofItems, Dict.get_insert], by simp [typedResultOf, Dict.ofItems, Dict.get_insert], ?_⟩
  exact assertAuthoritative_typedResultOf hp rfl

theorem respond_eq {operation : String} (hop : operation ∈ READ_OPERATIONS) {p : Dict} (hp : Projected p) (payload : Dict) :
    respond operation payload p =
      if cursorMismatch operation payload p then .error (externalReadEmissionError "read_cursor_binding_mismatch")
      else .ok (responseOf operation p) := by
  have hcreate : ∀ q r : Dict, ExternalReadEmissionFence.create operation q r =
      .ok ⟨operation, disclosureFingerprint q, sha256Json r.toVal, "EMIT_VALID"⟩ := by
    intro q r
    simp [ExternalReadEmissionFence.create, List.contains_eq_mem, hop, raiseIf, pure, Except.pure]
  rw [respond, operationCursor_of_projected hp, ok_bind]
  split <;> rename_i hcursor <;> rw [cursorMismatch] at hcursor
  · rw [hcursor]
    rfl
  · rw [Bool.not_eq_true] at hcursor
    simp only [hcursor, raiseIf, Bool.false_eq_true, ↓reduceIte, ok_bind, hcreate,
      assertValid_of_projected (hp.insert_continuation _)]
    rfl

end

end Pmiri
