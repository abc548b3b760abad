import Pmiri.Read.Context
import Pmiri.RequestAuth.Service

/-!
# Read projections

`disclosure.py` and `read_projection.py`: what of a result is projected to its
caller, and the handlers that authorize, query, revalidate and project. A read
that is not authorized, or that finds nothing, is projected as empty.
-/

namespace Pmiri

open Py

/-- `d[key]`, which is a dictionary. -/
def itemDict (d : Dict) (key : String) : Dict := (d.get key).asDict.getD .empty

/-! ## Requests -/

structure ProjectionRequest where
  requestId : String
  projectConstraint : String
  query : String
  purpose : String
  maxResults : Int
  clientAuthorizationRef : Option String
  clientCursor : Option String

namespace ProjectionRequest

def queryRequest (p : ProjectionRequest) : QueryRequest :=
  ⟨p.requestId, p.projectConstraint, p.query, p.purpose, p.maxResults⟩

@[simp] theorem queryRequest_query (p : ProjectionRequest) : p.queryRequest.query = p.query := rfl
@[simp] theorem queryRequest_projectConstraint (p : ProjectionRequest) :
    p.queryRequest.projectConstraint = p.projectConstraint := rfl

def allowedFields : List String :=
  ["request_id", "project_constraint", "query", "purpose", "max_results", "authorization_ref", "cursor"]

/-- `value is not None and not isinstance(value, str)`, negated -/
def isOptStr (v : Val) : Bool := v.isNone || v.isStr

/-- A string, or `None`. -/
def optText (v : Val) : Option String := if v.isStr then some v.strText else none

/-- `len(cursor) == 71 and cursor.startswith("cursor_") and is_sha256(cursor[7:])` -/
def cursorWellFormed (cursor : String) : Bool :=
  cursor.length == 71 && "cursor_".toList.isPrefixOf cursor.toList && isSha256 (.str (String.ofList (cursor.toList.drop 7)))

def ofDict (raw : Dict) : Except Exc ProjectionRequest := do
  raiseIf (!raw.keysWithin allowedFields) (valueError "projection_request_field_not_allowed")
  let purpose := raw.getD "purpose" (.str "local_read")
  raiseIf (!([raw.get "request_id", raw.get "project_constraint", raw.get "query", purpose].all Val.isStr))
    (valueError "projection_request_types_invalid")
  raiseIf (!isOptStr (raw.get "authorization_ref")) (valueError "projection_authorization_ref_invalid")
  raiseIf (!isOptStr (raw.get "cursor")) (valueError "projection_cursor_invalid")
  match raw.getD "max_results" (.int 20) with
  | .int maxResults =>
    let request : ProjectionRequest := {
      requestId := (raw.get "request_id").strText
      projectConstraint := (raw.get "project_constraint").strText
      query := (raw.get "query").strText
      purpose := purpose.strText
      maxResults := maxResults
      clientAuthorizationRef := optText (raw.get "authorization_ref")
      clientCursor := optText (raw.get "cursor") }
    let _ ← request.queryRequest.normalized
    raiseIf (request.clientCursor.any fun cursor => !cursorWellFormed cursor) (valueError "projection_cursor_invalid")
    return request
  | _ => .error (valueError "projection_max_results_invalid")

/-- `ProjectionRequest.from_mapping(raw)` -/
def fromMapping (raw : Val) : Except Exc ProjectionRequest :=
  match raw.asDict with
  | none => .error (valueError "projection_request_must_be_object")
  | some d => ofDict d

/-- An accepted request can be normalized. -/
theorem normalized_of_fromMapping {raw : Val} {p : ProjectionRequest} (h : fromMapping raw = .ok p) :
    p.queryRequest.normalized = .ok p.queryRequest.asDict := by
  unfold fromMapping at h
  split at h
  · cases h
  · rename_i d _
    simp only [ofDict, seq_ok] at h
    obtain ⟨-, -, -, -, h⟩ := h
    split at h
    · obtain ⟨n, hn, h⟩ := bind_ok.mp h
      obtain ⟨-, h⟩ := seq_ok.mp h
      obtain rfl := Except.ok.inj h
      rw [hn, (QueryRequest.normalized_ok.mp hn).2.2.2]
    · cases h

end ProjectionRequest

section

variable [Runtime]

/-- `_server_binding` -/
def serverBinding (request : QueryRequest) : Except Exc PublicLineage := do
  let normalized ← request.normalized
  return lineageOf (sha256Json normalized.toVal) request.projectConstraint

/-! ## Disclosure -/

def DISCLOSURE_VERSION : String := "0.1"

/-- `_empty_projection` of a result for the request, under the bound. -/
def emptyProjection (q : QueryRequest) (bound : Nat) : Except Exc Dict := do
  let _ ← q.normalized
  let context := Dict.ofItems [
    ("artifact_kind", .str "CompiledContextArtifact"),
    ("bound", .int bound),
    ("text", .str ""),
    ("coverage", .str "unknown"),
    ("disposition", .str "EMPTY"),
    ("evidence_refs", strList []),
    ("citation_refs", strList []),
    ("authorization_lineage", .str q.lineage),
    ("omission_ledger", .list [])]
  return .ofItems [
    ("disclosure_version", .str DISCLOSURE_VERSION),
    ("request", (Dict.ofItems [("request_id", .str q.requestId), ("project_constraint", .str q.projectConstraint),
      ("purpose", .str q.purpose)]).toVal),
    ("result", (Dict.ofItems [("disposition", .str "EMPTY"), ("coverage", .str "unknown")]).toVal),
    ("evidence", .list []),
    ("lineage", (Dict.ofItems [("authorization_ref", .str q.lineage), ("evidence_refs", strList [])]).toVal),
    ("context", (fingerprinted context).toVal)]

def projectQueryResult (result : QueryResult) (authorized : Bool) : Except Exc Dict :=
  if !authorized || result.evidence.isEmpty then emptyProjection result.request result.context.bound
  else do
    let structured ← result.structured
    let request := itemDict structured "request"
    return .ofItems [
      ("disclosure_version", .str DISCLOSURE_VERSION),
      ("request", (Dict.ofItems [("request_id", request.get "request_id"),
        ("project_constraint", request.get "project_constraint"), ("purpose", request.get "purpose")]).toVal),
      ("result", structured.get "result"),
      ("evidence", structured.get "evidence"),
      ("lineage", structured.get "lineage"),
      ("context", structured.get "context")]

/-- `disclosure_fingerprint` -/
def disclosureFingerprint (projection : Dict) : String := sha256Json projection.toVal

/-! ## Handlers -/

def PROJECTION_VERSION : String := "0.1"

/-- `"cursor_" + sha256_json({"binding": binding, "evidence": evidence_refs})` -/
def continuationOf (binding : PublicLineage) (evidenceRefs : Val) : String :=
  "cursor_" ++ sha256Json (Dict.ofItems [("binding", binding.asDict.toVal), ("evidence", evidenceRefs)]).toVal

/-- A projection with its lineage bound, and its continuation. -/
def bindProjection (projection : Dict) (binding : PublicLineage) : Dict :=
  let lineage := itemDict projection "lineage"
  (projection.insert "lineage" (lineage.merge binding.asDict).toVal).insert "continuation"
    (.str (continuationOf binding (lineage.get "evidence_refs")))

/-- The end of `_handle_disclosed`. -/
def disclose (result : QueryResult) (authorized : Bool) (binding : PublicLineage) : Except Exc Dict := do
  return bindProjection (← projectQueryResult result authorized) binding

structure ReadProjectionService (σ κ ρ γ : Type) where
  runtime : LocalEvidenceRuntime σ
  authorization : Option (RequestAuthorizationService κ ρ γ) := none

/-- A read of a caller: what it presents, and the readings of the clocks while
it is handled. -/
structure ReadCall where
  raw : Val
  authenticationRef : Option String := none
  now : Option String := none
  utcAtEvaluation : String
  utcAtRevalidation : String
  limiterClock : Rat

namespace ReadProjectionService

variable {σ κ ρ γ : Type} [SourceStore σ] [RegistryPort κ] [RatePort ρ] [ReplayPort γ]

omit [RegistryPort κ] [RatePort ρ] [ReplayPort γ] in
/-- `_handle` -/
def handle (s : ReadProjectionService σ κ ρ γ) (raw : Val) : Except Exc Dict := do
  let projection ← ProjectionRequest.fromMapping raw
  let request := projection.queryRequest
  let binding ← serverBinding request
  let result ← s.runtime.query request
  let result ← result.structured
  let lineage := itemDict result "lineage"
  return .ofItems [
    ("projection_version", .str PROJECTION_VERSION),
    ("request", result.get "request"),
    ("result", result.get "result"),
    ("evidence", result.get "evidence"),
    ("lineage", (lineage.merge binding.asDict).toVal),
    ("context", result.get "context"),
    ("continuation", .str (continuationOf binding (lineage.get "evidence_refs")))]

omit [RegistryPort κ] [RatePort ρ] [ReplayPort γ] in
/-- `_handle_disclosed` -/
def handleDisclosed (s : ReadProjectionService σ κ ρ γ) (raw : Val) (authorized : Bool)
    (binding : Option PublicLineage) (revalidate : Option (QueryRequest → Except Exc Bool)) : Except Exc Dict := do
  let projection ← ProjectionRequest.fromMapping raw
  let request := projection.queryRequest
  let binding ← match binding with
    | some binding => .ok binding
    | none => serverBinding request
  let result ← s.runtime.query request
  let authorized ← match revalidate with
    | some revalidate => pyAnd (.ok authorized) (revalidate request)
    | none => .ok authorized
  disclose result authorized binding

/-- `_handle_authenticated`, with the service it leaves behind. -/
def handleAuthenticated (s : ReadProjectionService σ κ ρ γ) (call : ReadCall) :
    Except Exc Dict × ReadProjectionService σ κ ρ γ :=
  match s.authorization with
  | none => (.error (valueError "authorization_service_required"), s)
  | some authorization =>
    match ProjectionRequest.fromMapping call.raw with
    | .error e => (.error e, s)
    | .ok projection =>
      let (evaluation, authorization) := authorization.evaluate projection.queryRequest call.authenticationRef
        (nowOr call.now call.utcAtEvaluation) call.limiterClock
      let s := { s with authorization := some authorization }
      match evaluation with
      | .error e => (.error e, s)
      | .ok evaluation =>
        (s.handleDisclosed call.raw evaluation.allowed (evaluation.binding.map (·.publicLineage))
          (evaluation.binding.map fun binding request =>
            authorization.revalidate request binding (nowOr call.now call.utcAtRevalidation)), s)

section

variable {r : LocalEvidenceRuntime σ} {a after : RequestAuthorizationService κ ρ γ} (call : ReadCall) {p : ProjectionRequest}

theorem handleAuthenticated_of_error {e : Exc} (hp : ProjectionRequest.fromMapping call.raw = .error e) :
    (ReadProjectionService.mk r (some a)).handleAuthenticated call = (.error e, ⟨r, some a⟩) := by
  simp only [handleAuthenticated, hp]

theorem handleAuthenticated_of_raise {e : Exc} (hp : ProjectionRequest.fromMapping call.raw = .ok p)
    (he : a.evaluate p.queryRequest call.authenticationRef (nowOr call.now call.utcAtEvaluation) call.limiterClock =
      (.error e, after)) :
    (ReadProjectionService.mk r (some a)).handleAuthenticated call = (.error e, ⟨r, some after⟩) := by
  simp only [handleAuthenticated, hp, he]

theorem handleAuthenticated_of_evaluation {evaluation : AuthorizationEvaluation}
    (hp : ProjectionRequest.fromMapping call.raw = .ok p)
    (he : a.evaluate p.queryRequest call.authenticationRef (nowOr call.now call.utcAtEvaluation) call.limiterClock =
      (.ok evaluation, after)) :
    (ReadProjectionService.mk r (some a)).handleAuthenticated call =
      ((ReadProjectionService.mk r (some after)).handleDisclosed call.raw evaluation.allowed
        (evaluation.binding.map (·.publicLineage))
        (evaluation.binding.map fun binding request =>
          after.revalidate request binding (nowOr call.now call.utcAtRevalidation)), ⟨r, some after⟩) := by
  simp only [handleAuthenticated, hp, he]

end

end ReadProjectionService

end

end Pmiri
