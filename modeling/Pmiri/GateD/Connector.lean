import Pmiri.GateD.Transport
import Pmiri.GateD.Outbound
import Pmiri.Python.Base64

/-!
# HTTPS connectors

`transports.py`: a transport is constructed for one endpoint, over a network
decision and a connection binding that agree with it, and every request of it
goes to that endpoint. A connector fetches only the target it was constructed
for. What a connection does is taken as a parameter.
-/

namespace Pmiri

open Py

/-- `TransportAuthorizationError(msg)` -/
def transportAuthorizationError (msg : String) : Exc := .valueError "TransportAuthorizationError" msg

/-- `except NetworkBoundaryError` catches it. -/
def isNetworkBoundaryError : Exc → Bool
  | .valueError cls _ => cls == "NetworkBoundaryError"
  | _ => false

/-- A `NetworkBoundaryError` is raised again as a `TransportAuthorizationError`. -/
def orUnauthorized {α : Type} (x : Except Exc α) (msg : String) : Except Exc α :=
  match x with
  | .ok a => .ok a
  | .error e => .error (if isNetworkBoundaryError e then transportAuthorizationError msg else e)

theorem orUnauthorized_ok {α : Type} {x : Except Exc α} {msg : String} {a : α} : orUnauthorized x msg = .ok a ↔ x = .ok a := by
  cases x <;> simp [orUnauthorized]

structure ResourceLimits where
  maxResponseBytes : Nat := 10 * 1024 * 1024
  maxDecompressedBytes : Nat := 50 * 1024 * 1024
  maxCompressionRatio : Nat := 100
  maxHeaderBytes : Nat := 65536
  totalTimeoutMs : Nat := 30000

/-! ## The binding of a transport -/

/-- The checks of the decision on its own. -/
def checkTransportDecision (decision : Dict) (expectedOperation : String) : Except Exc Unit := do
  raiseIfM ((decision.get "action_result").notIn PERMITTING) (transportAuthorizationError "network_decision_not_allow")
  raiseIf (differs decision "operation" expectedOperation) (transportAuthorizationError "network_operation_binding_mismatch")
  raiseIf (differs decision "canonicalization_profile_id" CANONICALIZATION_PROFILE_ID ||
    differs decision "canonicalization_profile_fingerprint" CANONICALIZATION_PROFILE_FINGERPRINT)
    (transportAuthorizationError "canonicalization_profile_mismatch")
  raiseIf (differs decision "resolution_set_status" "ALL_ALLOWLISTED_PUBLIC")
    (transportAuthorizationError "network_resolution_not_allowlisted")
  raiseIf (differs decision "connection_binding_status" "VALIDATED")
    (transportAuthorizationError "connection_binding_not_validated")
  raiseIf (differs decision "final_revalidation_result" "MATCHED")
    (transportAuthorizationError "network_final_revalidation_missing")
  raiseIf (differs decision "tls_identity_status" "MATCHED") (transportAuthorizationError "tls_identity_not_matched")

/-- The selection of the binding, under the decision's names for it. -/
def selectedTargetFields : List (String × String) := [
  ("selected_target_resolution_ref", "resolution_entry_ref"), ("selected_target_ip", "ip"),
  ("selected_target_family", "family")]

/-- `selected` is what the decision selects. -/
def checkSelectedTarget (decision : Dict) (selected : Val) : Except Exc Unit :=
  match selected.asDict with
  | none => .error (transportAuthorizationError "connection_selected_target_missing")
  | some s =>
    raiseIf (selectedTargetFields.any fun (decisionKey, bindingKey) => !decision.agrees decisionKey s bindingKey)
      (transportAuthorizationError "connection_selected_target_mismatch")

/-- The decision against a validated connection binding, which has a TLS record
and at least one event. -/
def checkTransportConnection (decision binding : Dict) : Except Exc Unit := do
  raiseIf (!binding.agrees "binding_fingerprint" decision "connection_binding_fingerprint")
    (transportAuthorizationError "connection_binding_fingerprint_mismatch")
  raiseIf (!binding.agrees "connection_binding_id" decision "connection_binding_ref")
    (transportAuthorizationError "connection_binding_reference_mismatch")
  raiseIf (!binding.agrees "destination_identity_ref" decision "destination_identity_ref")
    (transportAuthorizationError "connection_destination_binding_mismatch")
  raiseIf (!binding.agrees "canonicalization_profile_id" decision "canonicalization_profile_id" ||
    !binding.agrees "canonicalization_profile_fingerprint" decision "canonicalization_profile_fingerprint")
    (transportAuthorizationError "connection_canonicalization_profile_mismatch")
  checkSelectedTarget decision (binding.get "selected_target")
  raiseIf (!decision.agrees "tls_identity_fingerprint" ((binding.get "tls").asDict.getD .empty) "identity_binding_fingerprint")
    (transportAuthorizationError "connection_tls_fingerprint_mismatch")
  raiseIf (!decision.agrees "final_revalidation_event_sequence" (lastEvent binding) "sequence" ||
    !decision.agrees "final_revalidation_result" (lastEvent binding) "result")
    (transportAuthorizationError "connection_final_revalidation_mismatch")
  raiseIf (!decision.agrees "connection_epoch" binding "connection_epoch" ||
    !decision.agrees "invalidation_epoch" binding "invalidation_epoch")
    (transportAuthorizationError "connection_epoch_mismatch")

/-- The decision's `normalized_target` is `target`. -/
def checkTransportTarget (decision : Dict) (target : NormalizedTarget) : Except Exc Unit :=
  match (decision.get "normalized_target").asDict with
  | none => .error (transportAuthorizationError "transport_target_binding_mismatch")
  | some normalized =>
    raiseIf (differs normalized "scheme" "HTTPS" || differs normalized "authority" target.authority ||
      differs normalized "path_class" target.requestTarget) (transportAuthorizationError "transport_target_binding_mismatch")

/-- `connection_binding` is a mapping. -/
def requiredBinding (connectionBinding : Val) : Except Exc Dict :=
  match connectionBinding.asDict with
  | none => .error (transportAuthorizationError "connection_binding_required")
  | some binding => .ok binding

section

variable [Runtime] [Idna]

/-- `_validate_binding` -/
def validateBinding (endpoint : String) (decision : Dict) (expectedOperation : String) (connectionBinding : Val) :
    Except Exc NormalizedTarget := do
  let target ← orUnauthorized (normalizeUrl endpoint) "transport_endpoint_invalid"
  checkTransportDecision decision expectedOperation
  let binding ← requiredBinding connectionBinding
  orUnauthorized (validateConnectionBinding binding) "connection_binding_invalid"
  checkTransportConnection decision binding
  checkTransportTarget decision target
  raiseIf (!(decision.get "selected_target_ip").isNonemptyStr) (transportAuthorizationError "selected_target_missing")
  return target

/-! ## Requests -/

/-- What goes out on a connection. -/
structure HttpsRequest where
  host : String
  selectedIp : String
  timeoutMs : Nat
  method : String
  requestTarget : String
  body : Option (List UInt8)
  headers : Dict

/-- What comes back on it. -/
structure HttpsResponse where
  status : Int
  contentType : Option String
  headers : List (String × String)
  body : List UInt8

/-- `HTTPSConnection`, or what a connection factory makes in its place: a
request is answered, or anything on the way raises. -/
abbrev Connection := HttpsRequest → Except Exc HttpsResponse

structure TransportResponse where
  status : Int
  contentType : String
  body : List UInt8
  responseFingerprint : String

omit [Runtime] [Idna] in
/-- `_header_bytes` -/
def headerBytes (headers : List (String × String)) : Nat :=
  (headers.map fun (name, value) => name.utf8ByteSize + value.utf8ByteSize + 4).sum

omit [Runtime] [Idna] in
/-- `NetworkBoundary.validate_response` -/
def validateResponse (responseBytes decompressedBytes compressionRatio headerBytes : Nat) (contentType : String)
    (limits : ResourceLimits) : Except Exc Unit := do
  raiseIf (limits.maxResponseBytes < responseBytes || limits.maxDecompressedBytes < decompressedBytes)
    (networkBoundaryError "RESOURCE_LIMIT_EXCEEDED")
  raiseIf (limits.maxCompressionRatio < compressionRatio || limits.maxHeaderBytes < headerBytes)
    (networkBoundaryError "RESOURCE_LIMIT_EXCEEDED")
  raiseIf (! ["text/plain", "text/markdown", "application/json"].contains contentType)
    (networkBoundaryError "CONTENT_TYPE_DISALLOWED")

/-! ## Transports -/

/-- `_AuthorizedHttpsTransport` for an operation: the endpoint it was
constructed for is bound to its decision. -/
structure AuthorizedHttpsTransport (operation : String) where
  endpoint : String
  networkDecision : Dict
  connectionBinding : Val
  credential : Option (List UInt8) := none
  limits : ResourceLimits := {}
  connect : Connection
  target : NormalizedTarget
  bound : validateBinding endpoint networkDecision operation connectionBinding = .ok target

namespace AuthorizedHttpsTransport

variable {operation : String}

/-- `__init__` -/
def construct (operation endpoint : String) (networkDecision : Dict) (credential : Option (List UInt8)) (authorized : Bool)
    (connectionBinding : Val) (limits : ResourceLimits) (connect : Connection) :
    Except Exc (AuthorizedHttpsTransport operation) :=
  if !authorized then .error (transportAuthorizationError "external_transport_not_authorized")
  else
    match h : validateBinding endpoint networkDecision operation connectionBinding with
    | .error e => .error e
    | .ok target => .ok ⟨endpoint, networkDecision, connectionBinding, credential, limits, connect, target, h⟩

variable (t : AuthorizedHttpsTransport operation)

/-- `_headers` -/
def headers (extra : Dict) : Dict :=
  let headers := (Dict.ofItems [
    ("Accept", .str "application/json, text/plain, text/markdown"),
    ("User-Agent", .str "pmiri-gate-d/0.1")]).merge extra
  match t.credential with
  | none => headers
  | some secret => headers.insert "Authorization" (.str ("Bearer " ++ String.ofList (Base64.encode secret)))

/-- The request that `_request` sends. -/
def outgoing (method : String) (body : Option (List UInt8)) (extra : Dict) : HttpsRequest where
  host := t.target.host
  selectedIp := (t.networkDecision.get "selected_target_ip").toStr
  timeoutMs := t.limits.totalTimeoutMs
  method := method
  requestTarget := t.target.requestTarget
  body := body
  headers := t.headers extra

/-- What `_request` makes of an answer. -/
def accept (response : HttpsResponse) : Except Exc TransportResponse := do
  let contentType := String.ofList (casefold (strip isSpace (partition ';' (response.contentType.getD "").toList).1))
  let body := response.body.take (t.limits.maxResponseBytes + 1)
  raiseIf (t.limits.maxResponseBytes < body.length) (networkBoundaryError "RESOURCE_LIMIT_EXCEEDED")
  validateResponse body.length body.length 1 (headerBytes response.headers) contentType t.limits
  raiseIf (!(decide (200 ≤ response.status) && decide (response.status < 300)))
    (transportAuthorizationError "http_status_not_success")
  return ⟨response.status, contentType, body, sha256Bytes ⟨body.toArray⟩⟩

/-- `_request` -/
def request (method : String) (body : Option (List UInt8)) (extra : Dict) : Except Exc TransportResponse := do
  t.accept (← t.connect (t.outgoing method body extra))

end AuthorizedHttpsTransport

/-- `HttpsConnectorTransport` -/
abbrev HttpsConnectorTransport := AuthorizedHttpsTransport "connector_fetch"

namespace HttpsConnectorTransport

variable (c : HttpsConnectorTransport)

/-- The request of a fetch. -/
def fetchRequest : HttpsRequest :=
  c.outgoing "GET" none (.ofItems [("Accept", .str "text/plain, text/markdown, application/json")])

def fetch (target : String) : Except Exc (List UInt8) := do
  let requested ← normalizeUrl target
  raiseIf (requested.fingerprint != c.target.fingerprint) (transportAuthorizationError "connector_target_binding_mismatch")
  let response ← c.request "GET" none (.ofItems [("Accept", .str "text/plain, text/markdown, application/json")])
  return response.body

/-- The connector as the runtime is configured with it. -/
def transport : Transport String := connectorTransport false c.networkDecision.toVal c.fetch

end HttpsConnectorTransport

end

end Pmiri
