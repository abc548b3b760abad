import Pmiri.GateD.Outbound

/-!
# Integrated envelopes

`gate_d.py`: the envelope over a request, its decisions and its exact-request
binding. The builder validates the trust and the capability decision; what it
takes from the network decision it takes as it is.
-/

namespace Pmiri

open Py

/-- `k in request` for the fields a request mapping must have. -/
def requestMappingFields : List String := ["request_id", "project_constraint", "query"]

structure EnvelopeInput where
  request : Dict
  trustDecision : Dict
  capabilityDecision : Dict
  networkDecision : Option Dict := none
  emissionMode : String := "EXTERNAL"
  contentLifecycle : String := "NOT_APPLICABLE"
  constraintRefs : List String := []
  authorizationBinding : Option RequestAuthorizationBinding := none

namespace EnvelopeInput

/-- `network_decision`, where it is truthy. -/
def network (i : EnvelopeInput) : Option Dict := i.networkDecision.filter fun d => !d.items.isEmpty

/-- `network_decision.get(key) if network_decision else None` -/
def networkField (i : EnvelopeInput) (key : String) : Val := (i.network.map (·.get key)).getD .none

end EnvelopeInput

section

variable [Runtime]

/-- `_request_from_mapping` -/
def requestFromMapping (request : Dict) : Option QueryRequest :=
  if !requestMappingFields.all request.contains then none
  else
    ((request.getD "max_results" (.int 20)).toInt).map fun maxResults => {
      requestId := (request.get "request_id").toStr
      projectConstraint := (request.get "project_constraint").toStr
      query := (request.get "query").toStr
      purpose := (request.getD "purpose" (.str "local_read")).toStr
      maxResults := maxResults }

namespace EnvelopeInput

variable (i : EnvelopeInput)

/-- `str(request.get("operation", "provider_call"))` -/
def operation : String := (i.request.getD "operation" (.str "provider_call")).toStr

/-- `str(request.get("purpose", "provider_call"))` -/
def purpose : String := (i.request.getD "purpose" (.str "provider_call")).toStr

/-- Action and reason that the decisions come to, without the binding. -/
def decided : Except Exc (Val × String) := do
  if ← (i.trustDecision.get "action_result").notIn PERMITTING then
    return (.str "DENY",
      reasonClass (i.trustDecision.getD "reason_class" (.str "AUTHORITY_MISSING")).toStr "AUTHORITY_MISSING")
  else if ← (i.capabilityDecision.get "action_result").notIn PERMITTING then
    return (i.capabilityDecision.get "action_result",
      reasonClass (i.capabilityDecision.getD "reason_class" (.str "CAPABILITY_MISSING")).toStr "CAPABILITY_MISSING")
  else if ← pyAnd (.ok (i.emissionMode == "EXTERNAL")) ((i.networkField "action_result").notIn PERMITTING) then
    return (.str "DENY", reasonClass
      ((i.networkDecision.getD .empty).getD "reason_class" (.str "EXACT_BINDING_MISSING")).toStr "EXACT_BINDING_MISSING")
  else if i.emissionMode = "LOCAL_ONLY" then return (.str "LOCAL_ONLY", "NONE")
  else if (i.networkField "action_result").eq (.str "ALLOW_WITH_CONSTRAINTS") ||
      (i.trustDecision.get "action_result").eq (.str "ALLOW_WITH_CONSTRAINTS") then
    return (.str "ALLOW_WITH_CONSTRAINTS", "NONE")
  else return (.str "ALLOW", "NONE")

end EnvelopeInput

namespace GateDDecisionEngine

variable (g : GateDDecisionEngine)

/-- Why an exact-request binding does not carry an external envelope, if it
does not. -/
def bindingObjection (i : EnvelopeInput) : Except Exc (Option String) :=
  match i.authorizationBinding with
  | none => .ok (some "AUTHORITY_MISSING")
  | some b => do
    if !(← b.isValid g.now g.invalidationEpoch) then return some "POLICY_EPOCH_CHANGED"
    else if b.operation != i.operation || b.purpose != i.purpose then return some "EXACT_BINDING_MISSING"
    else if b.policyVersion != g.policyVersion then return some "POLICY_STALE"
    else
      match requestFromMapping i.request with
      | none => return some "EXACT_BINDING_MISSING"
      | some query => return if b.integrityValid query then none else some "EXACT_BINDING_MISSING"

/-- Action and reason of the envelope. -/
def envelopeVerdict (i : EnvelopeInput) : Except Exc (Val × String) := do
  let decided ← i.decided
  if ← pyAnd (.ok (i.emissionMode == "EXTERNAL")) (decided.1.isIn PERMITTING) then
    match ← g.bindingObjection i with
    | some reason => return (.str "DENY", reason)
    | none => return decided
  else return decided

/-- `request.get(key, default)` -/
def fromRequest (i : EnvelopeInput) (key : String) (default : Val) : Val := i.request.getD key default

/-- `str(request.get(key, default))` -/
def textFromRequest (i : EnvelopeInput) (key default : String) : Val := .str (i.request.getD key (.str default)).toStr

/-- A value of the binding, where there is one. -/
def ofBinding (i : EnvelopeInput) (field : RequestAuthorizationBinding → Val) (otherwise : Val) : Val :=
  match i.authorizationBinding with
  | some b => field b
  | none => otherwise

/-- The digest of a one-item dictionary. -/
def digestOf (key : String) (value : Val) : Val := .str (sha256Json (Dict.ofItems [(key, value)]).toVal)

/-- The destination the envelope names. -/
def envelopeDestination (i : EnvelopeInput) : String :=
  (i.request.getD "destination_binding_ref" (match i.network with
    | some n => n.get "destination_binding_ref"
    | none => i.trustDecision.getD "destination_binding_ref" (.str "binding://destination"))).toStr

def envelopeLifecycle (i : EnvelopeInput) : Val :=
  match i.network with
  | some n => if i.operation != "provider_call" then n.getD "content_lifecycle" (.str i.contentLifecycle) else .str i.contentLifecycle
  | none => .str i.contentLifecycle

def envelopeRecord (i : EnvelopeInput) (verdict : Val × String) : Dict :=
  finalize <| .ofItems [
    ("record_type", .str "PMIRI_D2_INTEGRATED_DECISION_ENVELOPE"),
    ("schema_version", .str "0.3"),
    ("decision_id", .str (ref "decision" (Dict.ofItems [
      ("kind", .str "integrated"), ("request", i.request.toVal), ("epoch", .int g.invalidationEpoch)]).toVal)),
    ("request_authorization_fingerprint", ofBinding i (fun b => .str b.fingerprint)
      (fromRequest i "request_authorization_fingerprint" (.str (sha256Json i.request.toVal)))),
    ("authorization_lineage_ref", ofBinding i (fun b => .str b.bindingId)
      (textFromRequest i "authorization_lineage_ref" (ref "lineage" i.request.toVal))),
    ("authorization_lineage_fingerprint", ofBinding i (fun b => .str b.fingerprint)
      (fromRequest i "authorization_lineage_fingerprint"
        (digestOf "lineage" (i.request.getD "authorization_lineage_ref" (.str "local"))))),
    ("source_evidence_set_ref", textFromRequest i "source_evidence_set_ref" "evidence://local"),
    ("source_evidence_set_fingerprint",
      fromRequest i "source_evidence_set_fingerprint" (digestOf "source" (.str "local"))),
    ("context_intent_ref", textFromRequest i "context_intent_ref" "intent://local"),
    ("context_intent_fingerprint", fromRequest i "context_intent_fingerprint" (digestOf "intent" (.str i.purpose))),
    ("inherited_epistemic_ceiling_ref", textFromRequest i "inherited_epistemic_ceiling_ref" "ceiling://local"),
    ("inherited_epistemic_ceiling_fingerprint",
      fromRequest i "inherited_epistemic_ceiling_fingerprint" (digestOf "ceiling" (.str "bounded"))),
    ("semantic_obligations_ref", textFromRequest i "semantic_obligations_ref" "obligations://local"),
    ("semantic_obligations_fingerprint",
      fromRequest i "semantic_obligations_fingerprint" (digestOf "obligations" (.list []))),
    ("subject_chain_fingerprint", ofBinding i (fun b => .str b.subjectChainFingerprint)
      (fromRequest i "subject_chain_fingerprint" (.str (sha256Json (i.request.getD "subject" (.dict [])))))),
    ("purpose_fingerprint", ofBinding i (fun b => .str b.purposeBindingFingerprint)
      (fromRequest i "purpose_fingerprint" (digestOf "purpose" (.str i.purpose)))),
    ("operation", ofBinding i (fun b => .str b.operation) (.str i.operation)),
    ("purpose", ofBinding i (fun b => .str b.purpose) (.str i.purpose)),
    ("material_manifest_fingerprint",
      fromRequest i "material_manifest_fingerprint" (i.capabilityDecision.get "material_manifest_fingerprint")),
    ("destination_binding_ref", .str (envelopeDestination i)),
    ("destination_binding_fingerprint", fromRequest i "destination_binding_fingerprint"
      (digestOf "destination" (i.request.getD "destination" (.str "local")))),
    ("trust_assertion_set_fingerprint", fromRequest i "trust_assertion_set_fingerprint"
      (.str (sha256Json (i.trustDecision.getD "trust_assertion_refs" (.list []))))),
    ("capability_observation_set_fingerprint", fromRequest i "capability_observation_set_fingerprint"
      (.str (sha256Json (i.capabilityDecision.getD "observation_refs" (.list []))))),
    ("constrained_artifact_fingerprint", if i.emissionMode = "EXTERNAL" then
      fromRequest i "constrained_artifact_fingerprint" (digestOf "artifact" (.str "provider-neutral-context"))
      else .none),
    ("network_binding_fingerprint", i.networkField "connection_binding_fingerprint"),
    ("outbound_network_decision_ref", i.networkField "decision_id"),
    ("outbound_network_decision_fingerprint", i.networkField "decision_fingerprint"),
    ("fetched_content_lifecycle_ref", i.networkField "fetched_content_lifecycle_ref"),
    ("fetched_content_lifecycle_fingerprint", i.networkField "fetched_content_lifecycle_fingerprint"),
    ("fetched_content_origin_binding_ref", i.networkField "fetched_content_origin_binding_ref"),
    ("fetched_content_destination_binding_ref", i.networkField "fetched_content_destination_binding_ref"),
    ("fetched_content_admission_state", i.networkField "fetched_content_admission_state"),
    ("fetched_content_retrieval_visibility", i.networkField "fetched_content_retrieval_visibility"),
    ("fetched_content_history_terminal_state", i.networkField "fetched_content_history_terminal_state"),
    ("fetched_content_terminal_response_fingerprint", i.networkField "fetched_content_terminal_response_fingerprint"),
    ("policy_version", ofBinding i (fun b => .str b.policyVersion) (.str g.policyVersion)),
    ("freshness_profile_id", .str g.freshnessProfile.profileId),
    ("freshness_profile_fingerprint", .str g.freshnessProfile.fingerprint),
    ("invalidation_epoch", ofBinding i (fun b => .int b.policyEpoch) (.int g.invalidationEpoch)),
    ("emission_mode", .str i.emissionMode),
    ("authority_manifest_fingerprint", .str g.authorityManifestFingerprint),
    ("validity_ref", .str (validityRef g.now g.invalidationEpoch)),
    ("trust_state", i.trustDecision.getD "trust_state" (.str "UNKNOWN")),
    ("capability_state", i.capabilityDecision.getD "capability_state" (.str "MISSING")),
    ("action_result", verdict.1),
    ("content_lifecycle", envelopeLifecycle i),
    ("reason_class", .str verdict.2),
    ("constraint_refs", strList (dictFromKeys i.constraintRefs))]

def buildIntegratedEnvelope (i : EnvelopeInput) : Except Exc Dict := do
  validateTrustDecision i.trustDecision
  validateCapabilityDecision i.capabilityDecision
  let record := g.envelopeRecord i (← g.envelopeVerdict i)
  validateIntegratedEnvelope record
  return record

end GateDDecisionEngine

end

end Pmiri
