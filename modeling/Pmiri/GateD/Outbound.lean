import Pmiri.GateD.Engine

/-!
# Outbound network decisions

`gate_d.py`: the evaluation of a resolution, a TLS status and a final
revalidation that the caller supplies, for one URL. Nothing is resolved or
connected to here.
-/

namespace Pmiri

open Py

structure NetworkInput where
  operation : String
  purpose : String
  url : String
  addresses : List String
  tlsIdentityStatus : String := "MATCHED"
  finalRevalidationResult : String := "MATCHED"
  contentLifecycle : String := "NOT_APPLICABLE"
  lifecycle : Option Dict := none
  lifecycleRef : Option String := none

/-- What the resolution of a URL comes to, before there is a connection. -/
structure NetworkFindings where
  normalized : Dict
  resolutionStatus : String
  selectedIp : Option String
  selectedFamily : Option String
  bindingStatus : String
  action : String
  reason : String

/-- What a decision says of its connection. -/
structure ConnectionView where
  ref : Val
  fingerprint : Val
  selectedResolution : Val
  tlsFingerprint : Val
  eventSequence : Val
  eventResult : Val
  bindingStatus : Val

/-- The visibility of content that no lifecycle record is given for. -/
def visibilityOrNone (contentLifecycle : String) : Val :=
  match visibilityOf (.str contentLifecycle) with
  | .none => .str "NONE"
  | v => v

/-- The last event of a built connection binding. -/
def lastEvent (binding : Dict) : Dict :=
  match binding.get "revalidation_events" with
  | .list events => (events.getLast?.bind Val.asDict).getD .empty
  | _ => .empty

section

variable [Runtime]

/-- The lifecycle state that a decision starts from. -/
def startingLifecycle (i : NetworkInput) : Except Exc String :=
  if i.operation != "provider_call" then
    match i.lifecycle with
    | none => .ok i.contentLifecycle
    | some l => do
      validateLifecycle l
      raiseIf (differs l "operation" i.operation || differs l "purpose" i.purpose)
        (contractViolation "network_lifecycle_operation_or_purpose_mismatch")
      raiseIf ((i.lifecycleRef.getD "").isEmpty) (contractViolation "network_lifecycle_ref_missing")
      raiseIf (i.contentLifecycle != "NOT_APPLICABLE" && differs l "admission_state" i.contentLifecycle)
        (contractViolation "network_lifecycle_state_mismatch")
      return (l.get "admission_state").toStr
  else do
    raiseIf (i.lifecycle.isSome || i.lifecycleRef.isSome) (contractViolation "provider_call_lifecycle_binding_forbidden")
    return i.contentLifecycle

/-- The reason class of a URL that cannot be normalized. -/
def urlReason (message : String) : String :=
  if message = "SCHEME_NOT_ALLOWED" then "UNSUPPORTED_SCHEME"
  else if message = "IDNA_VALIDATOR_UNAVAILABLE" then "INTERNAL_CONTRACT_INVALID"
  else "URL_INVALID"

def normalizedTarget (authority pathClass : String) : Dict :=
  .ofItems [("scheme", .str "HTTPS"), ("authority", .str authority), ("path_class", .str pathClass)]

namespace GateDDecisionEngine

variable (g : GateDDecisionEngine)

/-- Reason, action and binding status of a URL that was normalized. -/
def networkVerdict (i : NetworkInput) (resolution : ResolutionDecision) : String × String × String :=
  if resolution.resolutionSetStatus != "ALL_ALLOWLISTED_PUBLIC" then
    (if resolution.entries.any (·.policyStatus != "ALLOWLISTED_PUBLIC") then "PRIVATE_ADDRESS"
      else resolution.reasonClass, "DENY", "DENIED")
  else if i.tlsIdentityStatus != "MATCHED" then ("TLS_IDENTITY_MISMATCH", "DENY", "DENIED")
  else if i.finalRevalidationResult != "MATCHED" then ("DNS_REBINDING", "DENY", "STALE")
  else if !g.networkExecutionEnabled then ("EXACT_BINDING_MISSING", "DENY", "DENIED")
  else ("NONE", "ALLOW", "VALIDATED")

variable [Idna]

def networkFindings (i : NetworkInput) : Except Exc NetworkFindings :=
  match normalizeUrl i.url with
  | .error e =>
    .ok ⟨normalizedTarget "invalid" "invalid", "DENIED_MIXED", none, none, "DENIED", "DENY", urlReason e.message⟩
  | .ok target => do
    let resolution ← evaluateResolution i.url i.addresses
    let verdict := g.networkVerdict i resolution
    return ⟨normalizedTarget target.authority target.requestTarget, resolution.resolutionSetStatus,
      resolution.selectedTarget.map (·.ip), resolution.selectedTarget.map (·.family), verdict.2.2, verdict.2.1, verdict.1⟩

omit [Idna] in
/-- What the connection binding is built from. -/
def bindingInput (i : NetworkInput) (f : NetworkFindings) : BindingInput where
  endpoint := i.url
  addresses := i.addresses
  observedAt := g.now
  connectionEpoch := g.invalidationEpoch
  invalidationEpoch := g.invalidationEpoch
  tlsIdentityStatus := i.tlsIdentityStatus
  finalRevalidationResult := i.finalRevalidationResult
  destinationIdentityRef := some (ref "destination" f.normalized.toVal)
  executionEnabled := g.networkExecutionEnabled

/-- The connection binding, for a URL that was normalized and some addresses. -/
def networkBinding (i : NetworkInput) (f : NetworkFindings) : Except Exc (Option Dict) :=
  match normalizeUrl i.url with
  | .error _ => .ok none
  | .ok _ =>
    if i.addresses.isEmpty then .ok none else (buildConnectionBinding (g.bindingInput i f)).map some

omit [Idna] in
def connectionView (i : NetworkInput) (f : NetworkFindings) (binding : Option Dict) : ConnectionView :=
  match binding with
  | some b => {
      ref := b.get "connection_binding_id"
      fingerprint := b.get "binding_fingerprint"
      selectedResolution := ((b.get "selected_target").asDict.getD .empty).get "resolution_entry_ref"
      tlsFingerprint := ((b.get "tls").asDict.getD .empty).get "identity_binding_fingerprint"
      eventSequence := (lastEvent b).get "sequence"
      eventResult := (lastEvent b).get "result"
      bindingStatus := b.get "binding_status" }
  | none =>
    let fingerprint := sha256Json (Dict.ofItems [
      ("normalized", f.normalized.toVal),
      ("resolution_set_status", .str f.resolutionStatus),
      ("selected_ip", optStr f.selectedIp),
      ("selected_family", optStr f.selectedFamily),
      ("epoch", .int g.invalidationEpoch)]).toVal
    { ref := .str (Pmiri.ref "connection" (.str fingerprint))
      fingerprint := .str fingerprint
      selectedResolution := .none
      tlsFingerprint := .str (sha256Json (Dict.ofItems [("url", .str i.url), ("tls", .str i.tlsIdentityStatus)]).toVal)
      eventSequence := .int 0
      eventResult :=
        .str (if f.resolutionStatus = "ALL_ALLOWLISTED_PUBLIC" then i.finalRevalidationResult else "DENIED")
      bindingStatus := .str f.bindingStatus }

omit [Idna] in
/-- The lifecycle state of the decision. A content operation without a
lifecycle record still names a state that its response would be in. -/
def decidedLifecycle (i : NetworkInput) (start action : String) : String :=
  if i.operation != "provider_call" && start == "NOT_APPLICABLE" then (if action = "DENY" then "ABORTED" else "QUARANTINED")
  else start

omit [Idna] in
/-- `lifecycle_ref or _ref("lifecycle", …)`, for a content operation. -/
def resolvedLifecycleRef (i : NetworkInput) (f : NetworkFindings) : Option String :=
  if i.operation = "provider_call" then none
  else
    let own := i.lifecycleRef.getD ""
    some (if own.isEmpty then
      ref "lifecycle" (Dict.ofItems [("url", f.normalized.toVal), ("epoch", .int g.invalidationEpoch)]).toVal else own)

omit [Idna] in
/-- The projection of the lifecycle record, or what stands in for it. -/
def lifecycleFields (i : NetworkInput) (f : NetworkFindings) (contentLifecycle : String) : List (String × Val) :=
  let resolved := g.resolvedLifecycleRef i f
  let orElse (key : String) (default : Val) : Val :=
    match i.lifecycle with
    | some l => l.get key
    | none => if resolved.isSome then default else .none
  [("fetched_content_lifecycle_ref", optStr resolved),
   ("fetched_content_lifecycle_fingerprint", match resolved, i.lifecycle with
    | none, _ => .none
    | some _, some l => .str (l.get "lifecycle_fingerprint").toStr
    | some r, none => .str (sha256Json (Dict.ofItems [("ref", .str r)]).toVal)),
   ("fetched_content_origin_binding_ref", orElse "origin_binding_ref" (.str (ref "origin" f.normalized.toVal))),
   ("fetched_content_destination_binding_ref", orElse "destination_binding_ref" (.str (ref "binding" f.normalized.toVal))),
   ("fetched_content_admission_state", orElse "admission_state" (.str contentLifecycle)),
   ("fetched_content_retrieval_visibility", match resolved, i.lifecycle with
    | some _, some l => l.get "retrieval_visibility"
    | some _, none => visibilityOrNone contentLifecycle
    | none, _ => .none),
   ("fetched_content_history_terminal_state", orElse "history_terminal_state" (.str contentLifecycle)),
   ("fetched_content_terminal_response_fingerprint",
    orElse "terminal_response_fingerprint" (.str (sha256Json (Dict.ofItems [("response", .str "not-fetched")]).toVal)))]

omit [Idna] in
def networkRecord (i : NetworkInput) (f : NetworkFindings) (c : ConnectionView) (start : String) : Dict :=
  let contentLifecycle := decidedLifecycle i start f.action
  finalize <| .ofItems <| [
    ("record_type", .str "PMIRI_D2_OUTBOUND_NETWORK_DECISION"),
    ("schema_version", .str "0.3"),
    ("decision_id", .str (ref "decision" (Dict.ofItems [
      ("kind", .str "network"), ("url", .str i.url), ("epoch", .int g.invalidationEpoch)]).toVal)),
    ("operation", .str i.operation),
    ("purpose", .str i.purpose),
    ("destination_binding_ref", .str (ref "binding" f.normalized.toVal)),
    ("destination_identity_ref", .str (ref "destination" f.normalized.toVal)),
    ("canonicalization_profile_id", .str CANONICALIZATION_PROFILE_ID),
    ("canonicalization_profile_fingerprint", .str CANONICALIZATION_PROFILE_FINGERPRINT),
    ("normalized_target", f.normalized.toVal),
    ("connection_binding_ref", c.ref),
    ("connection_binding_fingerprint", c.fingerprint),
    ("selected_target_resolution_ref", c.selectedResolution),
    ("selected_target_ip", optStr f.selectedIp),
    ("selected_target_family", optStr f.selectedFamily),
    ("resolution_set_status", .str f.resolutionStatus),
    ("connection_binding_status", c.bindingStatus),
    ("final_revalidation_event_sequence", c.eventSequence),
    ("final_revalidation_result", c.eventResult),
    ("tls_identity_status",
      .str (if f.resolutionStatus = "ALL_ALLOWLISTED_PUBLIC" then i.tlsIdentityStatus else "MISMATCHED")),
    ("tls_identity_fingerprint", c.tlsFingerprint),
    ("connection_epoch", .int g.invalidationEpoch),
    ("invalidation_epoch", .int g.invalidationEpoch),
    ("freshness_profile_id", .str g.freshnessProfile.profileId),
    ("freshness_profile_fingerprint", .str g.freshnessProfile.fingerprint),
    ("purpose_binding_ref", .str (ref "purpose" (.str i.purpose))),
    ("trust_decision_ref", .str "decision://trust/pending"),
    ("capability_decision_ref", .str "decision://capability/pending"),
    ("limits_profile_ref", .str "limits://default"),
    ("authority_manifest_fingerprint", .str g.authorityManifestFingerprint),
    ("action_result", .str f.action),
    ("content_lifecycle", .str contentLifecycle)] ++ g.lifecycleFields i f contentLifecycle ++ [
    ("reason_class", .str f.reason),
    ("validity_ref", .str (validityRef g.now g.invalidationEpoch))]

def evaluateNetwork (i : NetworkInput) : Except Exc Dict := do
  let start ← startingLifecycle i
  let f ← g.networkFindings i
  let binding ← g.networkBinding i f
  let record := g.networkRecord i f (g.connectionView i f binding) start
  validateOutboundDecision record
  return record

end GateDDecisionEngine

end

end Pmiri
