import Pmiri.GateD.Agreement
import Pmiri.GateD.Transport
import Pmiri.RequestAuth.Bindings
import Pmiri.Python.Sha256

/-!
# The way of a provider call through the fence

Decisions that permit a provider call, the envelope over them and a binding
that carries it are accepted by the fence; then a call to one provider, for
every policy epoch.
-/

namespace Pmiri

open Py

section

variable [Runtime]

namespace GateDDecisionEngine

variable (g : GateDDecisionEngine)

/-- A network decision in the shape the engine issues it, that permits the
provider call of `i`. -/
structure PermitsCall (i : EnvelopeInput) (n : Dict) : Prop where
  decision : OutboundDecision n
  shape : ∀ k, k ∈ n.keys ↔ k ∈ RUNTIME_OUTBOUND_REQUIRED_FIELDS
  providerCall : i.operation = "provider_call"
  operation : n.get "operation" = .str i.operation
  purpose : n.get "purpose" = .str i.purpose
  destination : n.get "destination_binding_ref" = .str (envelopeDestination i)
  action : n.get "action_result" = .str "ALLOW"

omit [Runtime] g in
/-- A network decision of the issued shape is truthy. -/
theorem network_of_shape {i : EnvelopeInput} {n : Dict} (h : ∀ k, k ∈ n.keys ↔ k ∈ RUNTIME_OUTBOUND_REQUIRED_FIELDS)
    (hn : i.networkDecision = some n) : i.network = some n :=
  network_of_mem ((h "operation").mpr (by decide)) hn

/-- The envelope over a provider call is built, and it permits. -/
theorem buildIntegratedEnvelope_of_call {i : EnvelopeInput} {n : Dict} {b : RequestAuthorizationBinding}
    {query : QueryRequest} (hmode : i.emissionMode = "EXTERNAL") (ht : TrustDecision i.trustDecision)
    (hta : i.trustDecision.get "action_result" = .str "ALLOW") (hc : CapabilityDecision i.capabilityDecision)
    (hca : i.capabilityDecision.get "action_result" = .str "ALLOW") (hn : i.networkDecision = some n)
    (hcall : PermitsCall i n) (hb : g.Carries i b query) :
    ∃ e, g.buildIntegratedEnvelope i = .ok e ∧ e.get "action_result" = .str "ALLOW" := by
  have hallow : ∃ x ∈ PERMITTING, Val.str "ALLOW" = .str x := ⟨"ALLOW", by decide, rfl⟩
  obtain ⟨e, he, ha⟩ := g.buildIntegratedEnvelope_of_permitting hmode ht (by rw [hta]; exact hallow) hc
    (by rw [hca]; exact hallow) hn hcall.decision (by rw [hcall.action]; exact hallow) hcall.operation hcall.purpose hb
  have hjoint : jointAction i.trustDecision n = "ALLOW" := by
    rw [jointAction, hta, hcall.action]
    rfl
  exact ⟨e, he, by rw [ha, hjoint]⟩

/-- The envelope built for a provider call, and presented with the decisions
it was built from, passes the fence. -/
theorem fenceAccepts_of_built {i : EnvelopeInput} {e n : Dict} {b : RequestAuthorizationBinding} {query : QueryRequest}
    {revalidate : Revalidator} (he : g.buildIntegratedEnvelope i = .ok e) (hmode : i.emissionMode = "EXTERNAL")
    (ha : e.get "action_result" = .str "ALLOW") (hn : i.networkDecision = some n) (hcall : PermitsCall i n)
    (hb : g.Carries i b query) (hr : revalidate query b g.now = .ok true) :
    g.FenceAccepts {
      envelope := e
      trustDecision := i.trustDecision
      capabilityDecision := i.capabilityDecision
      networkDecision := some n
      authorizationBinding := some b
      authorizationRequest := .mapping i.request
      authorizationRevalidator := some revalidate } := by
  have hpermitted : g.Permitted i n e := by
    refine ⟨hn, hcall.decision, hmode, he, ⟨"ALLOW", by decide, ha⟩, hcall.operation, hcall.purpose, fun v hv => ?_⟩
    rw [hcall.destination, Val.toStr_str, envelopeDestination, Dict.getD, hv, Option.getD_some]
  have hready : FenceReady i n none := by
    refine ⟨hcall.shape, by rw [hcall.destination]; rfl, fun htrust => ?_, fun hcontent => ?_⟩
    · have hjoint := hpermitted.fields.action
      rw [ha, jointAction, htrust, Val.eq_refl, Bool.or_true, if_pos rfl] at hjoint
      exact absurd (Val.str.inj hjoint) (by decide)
    · exact absurd (by rw [hcall.operation, hcall.providerCall]) hcontent
  have haccepting : ∀ b' query', g.Carries i b' query' → revalidate query' b' g.now = .ok true := fun b' query' hb' => by
    obtain rfl : b = b' := Option.some.inj (hb.binding.symm.trans hb'.binding)
    obtain rfl : query = query' := Option.some.inj (hb.request.symm.trans hb'.request)
    exact hr
  have haccepts := (hpermitted.fenceAccepts_iff none haccepting).mpr hready
  rw [presented, hb.binding] at haccepts
  exact haccepts

/-- A connection that is validated: the URL normalizes, every answer of the
resolver is public, and the TLS identity and the revalidation match. -/
structure ValidatedConnection [Idna] (i : NetworkInput) (target : NormalizedTarget) : Prop where
  url : normalizeUrl i.url = .ok target
  sni : sniOf (.str target.authority) = .ok target.host
  resolved : i.addresses ≠ []
  addresses : ∀ a ∈ i.addresses, (resolutionEntry a).policyStatus = "ALLOWLISTED_PUBLIC" ∧ ReadsBack a
  tls : i.tlsIdentityStatus = "MATCHED"
  revalidated : i.finalRevalidationResult = "MATCHED"

namespace ValidatedConnection

variable {g} [Idna] {i : NetworkInput} {target : NormalizedTarget}

theorem all_addresses (h : ValidatedConnection i target) :
    (i.addresses.map resolutionEntry).all (·.policyStatus == "ALLOWLISTED_PUBLIC") = true := by
  simpa using fun a ha => (h.addresses a ha).1

theorem networkFindings (h : ValidatedConnection i target) (hexec : g.networkExecutionEnabled = true) :
    ∃ f, g.networkFindings i = .ok f ∧ f.normalized = normalizedTarget target.authority target.requestTarget ∧
      f.resolutionStatus = "ALL_ALLOWLISTED_PUBLIC" ∧ f.action = "ALLOW" ∧ f.reason = "NONE" ∧
      f.selectedIp = i.addresses.head?.map (fun a => (resolutionEntry a).ip) ∧
      f.selectedFamily = i.addresses.head?.map (fun a => (resolutionEntry a).family) := by
  obtain ⟨a, rest, ha⟩ := List.exists_cons_of_ne_nil h.resolved
  have hall := h.all_addresses
  have hresolution : evaluateResolution i.url i.addresses = .ok ⟨target.safeUrl, i.addresses.map resolutionEntry,
      "ALL_ALLOWLISTED_PUBLIC", some (resolutionEntry a), "DENY", "OUTBOUND_NETWORK_DISABLED"⟩ := by
    rw [ha] at hall
    simp only [evaluateResolution, h.url, ok_bind, ha, List.map_cons] at hall ⊢
    rw [if_pos hall]
    rfl
  refine ⟨_, by rw [GateDDecisionEngine.networkFindings, h.url]; simp only [hresolution, ok_bind]; rfl, rfl, rfl, ?_⟩
  simp [networkVerdict, h.tls, h.revalidated, hexec, ha]

theorem verdict (h : ValidatedConnection i target) (hexec : g.networkExecutionEnabled = true) (f : NetworkFindings) :
    (g.bindingInput i f).verdict = ("VALIDATED", "MATCHED") := by
  have hpublic : (g.bindingInput i f).allPublic = true := by
    rw [BindingInput.allPublic, bindingInput, List.isEmpty_eq_false_iff.mpr h.resolved, h.all_addresses]
    rfl
  simp only [BindingInput.verdict, BindingInput.resolutionSetStatus, hpublic, ↓reduceIte, bne_self_eq_false,
    Bool.false_eq_true]
  simp [bindingInput, h.tls, h.revalidated, hexec]

/-- The built binding passes its validator. -/
theorem validate_record (h : ValidatedConnection i target) (f : NetworkFindings) :
    validateConnectionBinding ((g.bindingInput i f).record target) = .ok () := by
  have hr : ref "destination" f.normalized.toVal ≠ "" := ref_ne_empty (by decide) _
  have hdest : (g.bindingInput i f).destination target ≠ "" := by
    simpa only [BindingInput.destination, bindingInput, if_neg hr] using hr
  exact (g.bindingInput i f).validate_record target h.resolved (fun a ha => (h.addresses a ha).2) h.sni rfl
    (Int.natCast_nonneg _) (Int.natCast_nonneg _) hdest (.inl h.tls)

theorem networkBinding (h : ValidatedConnection i target) (f : NetworkFindings) :
    g.networkBinding i f = .ok (some ((g.bindingInput i f).record target)) := by
  have hbuild : buildConnectionBinding (g.bindingInput i f) = .ok ((g.bindingInput i f).record target) := by
    simp only [buildConnectionBinding, show (g.bindingInput i f).endpoint = i.url from rfl, h.url, ok_bind,
      h.validate_record]
    have hepoch : ¬ (g.invalidationEpoch : Int) < 0 := by omega
    simp [bindingInput, h.tls, h.revalidated, hepoch, raiseIf, bind, Except.bind, pure, Except.pure]
  rw [GateDDecisionEngine.networkBinding, h.url, List.isEmpty_eq_false_iff.mpr h.resolved]
  simp only [Bool.false_eq_true, ↓reduceIte, hbuild]
  rfl

/-- What the decision says of the connection. -/
theorem connectionView (h : ValidatedConnection i target) (hexec : g.networkExecutionEnabled = true) (f : NetworkFindings) :
    (g.connectionView i f (some ((g.bindingInput i f).record target))).bindingStatus = .str "VALIDATED" ∧
      (g.connectionView i f (some ((g.bindingInput i f).record target))).eventResult = .str "MATCHED" := by
  have hverdict := h.verdict hexec f
  obtain ⟨-, -, -, -, -, -, -, hevents, -, -, hbindingStatus⟩ := (g.bindingInput i f).record_fields target
  have hlast : lastEvent ((g.bindingInput i f).record target) = (g.bindingInput i f).event := by
    simp [lastEvent, hevents, Val.asDict_toVal]
  have hresult : (g.bindingInput i f).event.get "result" = .str "MATCHED" := by
    simp [BindingInput.event, Dict.get_insert, Dict.ofItems, hverdict]
  simp only [GateDDecisionEngine.connectionView, hbindingStatus, hverdict, hlast, hresult, and_self]

end ValidatedConnection

/-- A provider call over a validated connection: the URL normalizes, every
answer of the resolver is public, and the TLS identity and the revalidation
match. -/
structure ValidatedCall [Idna] (i : NetworkInput) (target : NormalizedTarget) : Prop where
  providerCall : i.operation = "provider_call"
  purpose : i.purpose ∈ PURPOSES
  unbound : i.contentLifecycle = "NOT_APPLICABLE" ∧ i.lifecycle = none ∧ i.lifecycleRef = none
  url : normalizeUrl i.url = .ok target
  sni : sniOf (.str target.authority) = .ok target.host
  resolved : i.addresses ≠ []
  addresses : ∀ a ∈ i.addresses, (resolutionEntry a).policyStatus = "ALLOWLISTED_PUBLIC" ∧ ReadsBack a
  tls : i.tlsIdentityStatus = "MATCHED"
  revalidated : i.finalRevalidationResult = "MATCHED"

namespace ValidatedCall

variable [Idna] {i : NetworkInput} {target : NormalizedTarget}

theorem connection (h : ValidatedCall i target) : ValidatedConnection i target :=
  ⟨h.url, h.sni, h.resolved, h.addresses, h.tls, h.revalidated⟩

theorem startingLifecycle (h : ValidatedCall i target) : startingLifecycle i = .ok "NOT_APPLICABLE" := by
  obtain ⟨hlifecycle, hnone, href⟩ := h.unbound
  simp [Pmiri.startingLifecycle, h.providerCall, hnone, href, hlifecycle, raiseIf, bind, Except.bind, pure, Except.pure]

end ValidatedCall

/-- The engine allows such a call where network execution is enabled. -/
theorem evaluateNetwork_validated [Idna] {i : NetworkInput} {target : NormalizedTarget} (h : ValidatedCall i target)
    (hexec : g.networkExecutionEnabled = true) :
    ∃ r, g.evaluateNetwork i = .ok r ∧ OutboundDecision r ∧
      (∀ k, k ∈ r.keys ↔ k ∈ RUNTIME_OUTBOUND_REQUIRED_FIELDS) ∧
      r.get "operation" = .str i.operation ∧ r.get "purpose" = .str i.purpose ∧ r.get "action_result" = .str "ALLOW" ∧
      r.get "destination_binding_ref" = .str (ref "binding" (normalizedTarget target.authority target.requestTarget).toVal) := by
  obtain ⟨f, hf, hnormalized, hstatus, haction, hreason, -⟩ := h.connection.networkFindings hexec
  let view := g.connectionView i f (some ((g.bindingInput i f).record target))
  have hview : view.bindingStatus = .str "VALIDATED" ∧ view.eventResult = .str "MATCHED" := h.connection.connectionView hexec f
  have hfields := g.networkRecord_fields i f view "NOT_APPLICABLE"
  have hvalid : OutboundDecision (g.networkRecord i f view "NOT_APPLICABLE") := by
    have hoperation : (g.networkRecord i f view "NOT_APPLICABLE").get "operation" = .str "provider_call" := by
      rw [hfields.1, h.providerCall]
    have hl : (g.networkRecord i f view "NOT_APPLICABLE").get "content_lifecycle" = .str "NOT_APPLICABLE" := by
      simp [networkRecord, GateDDecisionEngine.lifecycleFields, get_finalize, Dict.get_insert, Dict.ofItems,
        decidedLifecycle, h.providerCall]
    have hr : (g.networkRecord i f view "NOT_APPLICABLE").get "reason_class" = .str "NONE" := by
      simp [networkRecord, GateDDecisionEngine.lifecycleFields, get_finalize, Dict.get_insert, Dict.ofItems, hreason]
    refine ⟨⟨_, by decide, hoperation⟩, ⟨_, h.purpose, hfields.2.1⟩, ⟨"NONE", by decide, hr⟩,
      ⟨"ALLOW", by decide, by rw [hfields.2.2.1, haction]⟩, ⟨_, by decide, hl⟩, fun _ => ⟨hl, ?_⟩,
      fun hne => absurd hoperation hne, fun _ => ?_, fun _ => finalize_fingerprint _⟩
    · obtain ⟨-, hnone, -⟩ := h.unbound
      simp only [lifecycleProjection, List.forall_mem_cons, List.not_mem_nil, false_imp_iff, implies_true, and_true]
      simp [networkRecord, GateDDecisionEngine.lifecycleFields, get_finalize, Dict.get_insert, Dict.ofItems,
        resolvedLifecycleRef, h.providerCall, hnone, optStr]
    · simp only [allowRequires, List.forall_mem_cons, List.not_mem_nil, false_imp_iff, implies_true, and_true]
      simp [networkRecord, GateDDecisionEngine.lifecycleFields, get_finalize, Dict.get_insert, Dict.ofItems, hstatus,
        hview, h.tls]
  refine ⟨_, g.evaluateNetwork_ok.mpr ⟨_, f, _, h.startingLifecycle, hf, h.connection.networkBinding f, hvalid, rfl⟩, hvalid,
    fun k => g.mem_keys_networkRecord, hfields.1, hfields.2.1, by rw [hfields.2.2.1, haction],
    by rw [hfields.2.2.2.1, hnormalized]⟩

end GateDDecisionEngine

end

/-! ## A provider call -/

/-- An engine at the start of 2026, with network execution enabled. -/
def exampleEngine (epoch : Nat) : GateDDecisionEngine where
  authorityManifestFingerprint := "0000000000000000000000000000000000000000000000000000000000000000"
  authority_valid := by decide
  now := "2026-01-01T00:00:00Z"
  networkExecutionEnabled := true
  epoch := epoch

def exampleSubject : Dict := .ofItems [("agent", .str "agent://local")]

/-- An assertion that trusts the subject for `purpose` in 2026. -/
def exampleAssertion (purpose : String) : Dict :=
  .ofItems [
    ("trust_assertion_id", .str "assertion://example"),
    ("subject", exampleSubject.toVal),
    ("purpose", .str purpose),
    ("allowed_material_classes", strList ["text"]),
    ("allowed_zones", strList ["local"]),
    ("status", .str "ACTIVE"),
    ("observed_at", .str "2026-01-01T00:00:00Z"),
    ("valid_until", .str "2026-12-31T00:00:00Z")]

def exampleTrust (purpose : String) : GateDDecisionEngine.TrustInput where
  subject := exampleSubject
  purpose := purpose
  materialClass := "text"
  feature := none
  zone := "local"
  assertions := [exampleAssertion purpose]

section
variable [Runtime]

/-- A record observed at the engine's time and valid through 2026 is fresh. -/
theorem freshWindow_example {d : Dict} (ho : d.get "observed_at" = .str "2026-01-01T00:00:00Z")
    (hv : d.get "valid_until" = .str "2026-12-31T00:00:00Z") : freshWindow d "2026-01-01T00:00:00Z" = .ok true := by
  rw [freshWindow, falseOn_true, Dict.item_of_contains (Dict.contains_of_str ho),
    Dict.item_of_contains (Dict.contains_of_str hv), ho, hv]
  simp only [Val.toStr_str, ok_bind, parseTime_exampleNow, parseTime_exampleUntil]
  rfl

/-- What the evaluation of the example's trust tests of its assertion. -/
theorem exampleAssertion_tests (epoch : Nat) (purpose : String) :
    ((exampleAssertion purpose).get "subject").eq exampleSubject.toVal = true ∧
      GateDDecisionEngine.inScope (exampleTrust purpose) (exampleAssertion purpose) = .ok true ∧
      (exampleAssertion purpose).get "status" = .str "ACTIVE" ∧
      (exampleAssertion purpose).get "authority_manifest_fingerprint" = .none ∧
      freshWindow (exampleAssertion purpose) (exampleEngine epoch).now = .ok true := by
  refine ⟨?_, ?_, ?_, ?_, ?_⟩
  · have : (exampleAssertion purpose).get "subject" = exampleSubject.toVal := by
      simp [exampleAssertion, Dict.get_insert, Dict.ofItems]
    rw [this, Val.eq_refl]
  · simp [GateDDecisionEngine.inScope, exampleTrust, exampleAssertion, Dict.get_insert, Dict.ofItems, differs, pyAnd,
      Except.bind, Val.containsStr, strList, Dict.getD, Dict.get?_insert]
  · simp [exampleAssertion, Dict.get_insert, Dict.ofItems]
  · simp [exampleAssertion, Dict.get_insert, Dict.ofItems]
  · exact freshWindow_example (by simp [exampleAssertion, Dict.get_insert, Dict.ofItems])
      (by simp [exampleAssertion, Dict.ofItems])

theorem exampleTrust_verdict (epoch : Nat) (purpose : String) :
    (exampleEngine epoch).trustVerdict (exampleTrust purpose) = .ok ("TRUSTED_FOR_BOUND_PURPOSE", "ALLOW", "NONE") := by
  obtain ⟨hsubject, hscope, hstatus, hauthority, hfresh⟩ := exampleAssertion_tests epoch purpose
  have hexact : (exampleTrust purpose).assertions.filter (fun item => (item.get "subject").eq (exampleTrust purpose).subject.toVal) =
      [exampleAssertion purpose] := by
    simp [exampleTrust, hsubject]
  have hrevoked : [exampleAssertion purpose].filterM
      (fun item => (item.get "status").isIn ["REVOKED", "CONTRADICTED", "INVALID"]) = .ok [] :=
    filterM_false (by simp [hstatus])
  have hactive : pyAnd (.ok !differs (exampleAssertion purpose) "status" "ACTIVE")
      (freshWindow (exampleAssertion purpose) (exampleEngine epoch).now) = .ok true := by
    simp [differs, hstatus, pyAnd, Except.bind, hfresh]
  have hown : pyNot (((exampleAssertion purpose).get "authority_manifest_fingerprint").inSet
      [.none, .str (exampleEngine epoch).authorityManifestFingerprint]) = .ok false := by
    simp [hauthority, Val.inSet, Val.hashable, pyNot, Except.map]
  rw [GateDDecisionEngine.trustVerdict, hexact, filterM_true (by simpa using hscope), ok_bind, hrevoked, ok_bind]
  simp [hactive, hown, pure, Except.pure]

theorem exampleTrust_evaluated (epoch : Nat) (purpose : String) :
    ∃ t, (exampleEngine epoch).evaluateTrust (exampleTrust purpose) = .ok t ∧ TrustDecision t ∧
      t.get "action_result" = .str "ALLOW" := by
  refine ⟨_, (exampleEngine epoch).evaluateTrust_ok.mpr ⟨_, exampleTrust_verdict epoch purpose, rfl⟩,
    (exampleEngine epoch).trustRecord_valid (by decide), ?_⟩
  rw [(exampleEngine epoch).get_trustRecord (by decide) (by decide)]
  simp [GateDDecisionEngine.trustFields, Dict.get_insert, Dict.ofItems]

def exampleScope : Dict :=
  .ofItems [
    ("purpose", .str "provider_call"),
    ("material_classes", strList ["text"]),
    ("region", .str "local"),
    ("feature_profile", .str "profile://default")]

def exampleValue : Dict :=
  .ofItems [
    ("value_type", .str "structured_output"),
    ("supported", .bool true),
    ("schema_profile_ref", .str "profile://schema")]

/-- An observation of 2026, without its fingerprint. -/
def exampleObserved (epoch : Nat) : Dict :=
  .ofItems [
    ("record_type", .str "PMIRI_D2_CAPABILITY_OBSERVATION"),
    ("schema_version", .str "0.3"),
    ("capability_contract_version", .str "0.1"),
    ("capability_observation_id", .str "observation://example"),
    ("subject_binding", .str "agent://local"),
    ("capability_key", .str "structured_output"),
    ("observed_value", exampleValue.toVal),
    ("scope", exampleScope.toVal),
    ("source_authority", .str "authority://local"),
    ("evidence_refs", strList ["evidence://example"]),
    ("observed_at", .str "2026-01-01T00:00:00Z"),
    ("valid_from", .str "2026-01-01T00:00:00Z"),
    ("valid_until", .str "2026-12-31T00:00:00Z"),
    ("invalidation_epoch", .int epoch),
    ("status", .str "ACTIVE")]

def exampleObservation (epoch : Nat) : Dict :=
  (exampleObserved epoch).insert "observation_fingerprint" (.str (sha256Json (exampleObserved epoch).toVal))

def exampleCapability (epoch : Nat) (purpose : String) : GateDDecisionEngine.CapabilityInput where
  subjectBinding := "agent://local"
  purpose := purpose
  requiredCapabilities := ["structured_output"]
  observations := [exampleObservation epoch]

theorem get_exampleObservation (epoch : Nat) {key : String} (h : key ≠ "observation_fingerprint") :
    (exampleObservation epoch).get key = (exampleObserved epoch).get key := by
  rw [exampleObservation, Dict.get_insert, if_neg h]

theorem exampleObservation_fields (epoch : Nat) :
    (exampleObservation epoch).get "record_type" = .str "PMIRI_D2_CAPABILITY_OBSERVATION" ∧
      (exampleObservation epoch).get "schema_version" = .str "0.3" ∧
      (exampleObservation epoch).get "capability_contract_version" = .str "0.1" ∧
      (exampleObservation epoch).get "capability_observation_id" = .str "observation://example" ∧
      (exampleObservation epoch).get "subject_binding" = .str "agent://local" ∧
      (exampleObservation epoch).get "capability_key" = .str "structured_output" ∧
      (exampleObservation epoch).get "observed_value" = exampleValue.toVal ∧
      (exampleObservation epoch).get "scope" = exampleScope.toVal ∧
      (exampleObservation epoch).get "source_authority" = .str "authority://local" ∧
      (exampleObservation epoch).get "evidence_refs" = strList ["evidence://example"] ∧
      (exampleObservation epoch).get "observed_at" = .str "2026-01-01T00:00:00Z" ∧
      (exampleObservation epoch).get "valid_from" = .str "2026-01-01T00:00:00Z" ∧
      (exampleObservation epoch).get "valid_until" = .str "2026-12-31T00:00:00Z" ∧
      (exampleObservation epoch).get "invalidation_epoch" = .int epoch ∧
      (exampleObservation epoch).get "status" = .str "ACTIVE" := by
  simp [get_exampleObservation, exampleObserved, Dict.get_insert, Dict.ofItems]

theorem exampleObservation_valid (epoch : Nat) : validateCapabilityObservation (exampleObservation epoch) = .ok () := by
  have hkeys : (exampleObservation epoch).keysAre observationFields = true := by
    refine Dict.keysAre_iff.mpr fun k => ?_
    rw [exampleObservation, Dict.mem_keys_insert, exampleObserved, Dict.mem_keys_ofItems]
    exact ((@List.mem_append _ k observationFields.dropLast ["observation_fingerprint"]).trans
      (or_congr_right List.mem_singleton)).symm
  have hall : observationFields.all (exampleObservation epoch).contains = true := (Bool.and_eq_true_iff.mp hkeys).2
  have hwithout : (exampleObservation epoch).without "observation_fingerprint" = exampleObserved epoch :=
    Dict.without_insert (by rw [exampleObserved, Dict.mem_keys_ofItems]; simp)
  have hfingerprint : (exampleObservation epoch).get "observation_fingerprint" =
      .str (sha256Json (exampleObserved epoch).toVal) := Dict.get_insert_self ..
  have hscope : checkObservationScope exampleScope.toVal = .ok () := by
    have hk : exampleScope.keysAre ["purpose", "material_classes", "region", "feature_profile"] = true :=
      Dict.keysAre_iff.mpr fun _ => Dict.mem_keys_ofItems
    simp only [checkObservationScope, Val.asDict_toVal, seq_ok, raiseIf_ok, hk, Bool.not_true, true_and]
    decide
  have hvalue : exampleValue.keysAre ["value_type", "supported", "schema_profile_ref"] = true :=
    Dict.keysAre_iff.mpr fun _ => Dict.mem_keys_ofItems
  have hvalid : capabilityValueValid "structured_output" exampleValue = .ok true ∧
      exampleValue.get "value_type" = .str "structured_output" := ⟨rfl, rfl⟩
  obtain ⟨htype, hschema, hversion, hid, hsubject, hkey, hobserved, hs, hsource, hevidence, hat, hfrom, huntil, hepoch,
    hstatus⟩ := exampleObservation_fields epoch
  have htimes : checkObservationTimes (exampleObservation epoch) = .ok () := by
    simp only [checkObservationTimes, hat, hfrom, huntil, Val.strText, parseTime_exampleNow, parseTime_exampleUntil, ok_bind]
    rfl
  simp only [validateCapabilityObservation, seq_ok, raiseIf_ok, raiseIfM_ok, hall, hkeys, differs, htype, hschema,
    hversion, observationIdentity, List.all_cons, List.all_nil, hid, hsubject, hsource, hat, hfrom, huntil, hkey, hobserved, hs,
    hscope, hevidence, hepoch, hstatus, htimes, hfingerprint, hwithout, isSha256_sha256Json, Val.strText, Val.asDict_toVal,
    Option.getD_some, hvalid, Val.eq_refl]
  have hlookup : (CAPABILITY_VALUE_FIELDS.lookup "structured_output").getD [] =
      ["value_type", "supported", "schema_profile_ref"] := by decide
  rw [hlookup, hvalue]
  exact ⟨rfl, rfl, by decide, pyOr_ok_false.mpr ⟨Val.notIn_ok_false.mpr ⟨_, by decide, rfl⟩, rfl⟩, rfl, trivial, by decide,
    by decide, Val.notIn_ok_false.mpr ⟨_, by decide, rfl⟩, by simp [Val.isNatural], trivial, rfl, rfl⟩

theorem exampleCapability_verdict (epoch : Nat) (purpose : String) :
    (exampleEngine epoch).capabilityVerdict (exampleCapability epoch purpose) = .ok ("FRESH", "ALLOW", "NONE") := by
  obtain ⟨-, -, -, -, hsubject, hkey, hobserved, -, -, -, hat, -, huntil, hepoch, hstatus⟩ := exampleObservation_fields epoch
  have hrequired : dictFromKeys (exampleCapability epoch purpose).requiredCapabilities = ["structured_output"] := rfl
  have hcandidates : (exampleCapability epoch purpose).observations.filter (fun item =>
      !differs item "subject_binding" (exampleCapability epoch purpose).subjectBinding &&
        ["structured_output"].any (fun key => (item.get "capability_key").eq (.str key)) && !differs item "status" "ACTIVE") =
      [exampleObservation epoch] := by
    simp [exampleCapability, differs, hsubject, hkey, hstatus]
  have hstale : [exampleObservation epoch].filterM (fun item =>
      pyOr (.ok !(item.get "invalidation_epoch").eq (.int (exampleEngine epoch).invalidationEpoch))
        (pyNot (freshWindow item (exampleEngine epoch).now))) = .ok [] := by
    refine filterM_false fun x hx => ?_
    obtain rfl := List.mem_singleton.mp hx
    have hfresh : freshWindow (exampleObservation epoch) "2026-01-01T00:00:00Z" = .ok true := freshWindow_example hat huntil
    simp [hepoch, hfresh, pyOr, pyNot, Except.bind, Except.map, exampleEngine, GateDDecisionEngine.invalidationEpoch]
  have hsupported : (exampleValue.get "supported").isFalse = false := rfl
  rw [GateDDecisionEngine.capabilityVerdict, hrequired, hcandidates, hstale]
  simp [differs, hkey, hobserved, Val.asDict_toVal, hsupported, pure, Except.pure]

theorem exampleCapability_evaluated (epoch : Nat) (purpose : String) :
    ∃ c, (exampleEngine epoch).evaluateCapability (exampleCapability epoch purpose) = .ok c ∧ CapabilityDecision c ∧
      c.get "action_result" = .str "ALLOW" ∧ c.get "purpose" = .str purpose := by
  refine ⟨_, (exampleEngine epoch).evaluateCapability_ok.mpr ⟨fun o ho => ?_, _, exampleCapability_verdict epoch purpose,
    fun _ => List.cons_ne_nil _ _, rfl⟩,
    ((exampleEngine epoch).capabilityRecord_valid (by decide)).mpr fun _ => List.cons_ne_nil _ _, ?_, ?_⟩
  · rw [List.mem_singleton.mp ho]
    exact exampleObservation_valid epoch
  · simp [GateDDecisionEngine.capabilityRecord, get_finalize, Dict.get_insert, Dict.ofItems]
  · simp [exampleCapability, GateDDecisionEngine.capabilityRecord, get_finalize, Dict.get_insert, Dict.ofItems]

/-! A network decision and a binding for the call. -/

def exampleNetwork : NetworkInput where
  operation := "provider_call"
  purpose := "provider_call"
  url := "https://example.com/"
  addresses := ["93.184.216.34"]

theorem exampleNetwork_validated [Idna] : GateDDecisionEngine.ValidatedCall exampleNetwork exampleTarget where
  providerCall := rfl
  purpose := by decide
  unbound := ⟨rfl, rfl, rfl⟩
  url := normalizeUrl_example
  sni := by
    rw [authority_example]
    rfl
  resolved := List.cons_ne_nil _ _
  addresses a ha := by
    rw [List.mem_singleton.mp ha]
    exact ⟨by decide, readsBack_example⟩
  tls := rfl
  revalidated := rfl

def exampleRequest : Dict :=
  .ofItems [
    ("request_id", .str "request"),
    ("project_constraint", .str "project"),
    ("query", .str "query"),
    ("purpose", .str "provider_call")]

theorem exampleRequest_query : requestFromMapping exampleRequest = some (exampleQuery "request") := by
  have hall : requestMappingFields.all exampleRequest.contains = true := by decide
  have hmax : exampleRequest.getD "max_results" (.int 20) = .int 20 := rfl
  rw [requestFromMapping, hall, hmax]
  rfl

/-- The service of the epoch issues a binding that carries the call, and
revalidates it. -/
theorem exampleService_issues (epoch : Nat) :
    ∃ b, b.validUntil = "2026-12-31T00:00:00Z" ∧
      (exampleService epoch ({} : ReplayGuard)).revalidate (exampleQuery "request") b "2026-01-01T00:00:00Z" = .ok true ∧
      ∀ i : EnvelopeInput, i.request = exampleRequest → i.authorizationBinding = some b →
        (exampleEngine epoch).Carries i b (exampleQuery "request") := by
  have hscreen := exampleService_screens epoch ({} : ReplayGuard) (show "request" ≠ "" by decide) validInterval_example
  obtain ⟨b, hb⟩ := exampleService_builds epoch "2026-01-01T00:00:00Z" (show "request" ≠ "" by decide)
  have hi := RequestAuthorizationService.buildBinding_issued hb
  have hvalid : b.isValid "2026-01-01T00:00:00Z" epoch = .ok true := by
    refine RequestAuthorizationBinding.isValid_true.mpr ⟨hi.principal.2.2.1, ?_⟩
    rw [hi.validity.1, hi.validity.2]
    exact validInterval_example
  refine ⟨b, hi.validity.2, RequestAuthorizationService.revalidate_of_built hscreen hb hvalid, fun i hr hb' =>
    ⟨hb', ?_, ?_, ?_, hi.principal.2.2.2, by rw [hr]; exact exampleRequest_query, hi.integrityValid⟩⟩
  · simpa [exampleEngine, GateDDecisionEngine.invalidationEpoch] using hvalid
  · rw [EnvelopeInput.operation, hr]
    exact hi.scope.1
  · rw [EnvelopeInput.purpose, hr]
    exact hi.scope.2.1

/-- The envelope over some decisions for the call. -/
def exampleCall (t c n : Dict) (b : RequestAuthorizationBinding) : EnvelopeInput where
  request := exampleRequest
  trustDecision := t
  capabilityDecision := c
  networkDecision := some n
  authorizationBinding := some b

/-- What is presented to the fence for the call. -/
def examplePresented (epoch : Nat) (t c n e : Dict) (b : RequestAuthorizationBinding) : EmissionInput where
  envelope := e
  trustDecision := t
  capabilityDecision := c
  networkDecision := some n
  authorizationBinding := some b
  authorizationRequest := .mapping exampleRequest
  authorizationRevalidator := some (exampleService epoch ({} : ReplayGuard)).revalidate

section

variable (epoch : Nat) {t c n : Dict} {d : String} (ht : TrustDecision t) (hta : t.get "action_result" = .str "ALLOW")
  (hc : CapabilityDecision c) (hca : c.get "action_result" = .str "ALLOW") (hn : OutboundDecision n)
  (hshape : ∀ k, k ∈ n.keys ↔ k ∈ RUNTIME_OUTBOUND_REQUIRED_FIELDS) (hoperation : n.get "operation" = .str "provider_call")
  (hpurpose : n.get "purpose" = .str "provider_call") (hna : n.get "action_result" = .str "ALLOW")
  (hdestination : n.get "destination_binding_ref" = .str d)
include ht hta hc hca hn hshape hoperation hpurpose hna hdestination

/-- Valid decisions that permit the call get it through the fence, under a
binding that carries it. -/
theorem exampleCall_accepted_of {b : RequestAuthorizationBinding}
    (hrevalidate : (exampleService epoch ({} : ReplayGuard)).revalidate (exampleQuery "request") b "2026-01-01T00:00:00Z" =
      .ok true)
    (hb : (exampleEngine epoch).Carries (exampleCall t c n b) b (exampleQuery "request")) :
    ∃ e, (exampleEngine epoch).buildIntegratedEnvelope (exampleCall t c n b) = .ok e ∧
      (exampleEngine epoch).FenceAccepts (examplePresented epoch t c n e b) := by
  have hcall : GateDDecisionEngine.PermitsCall (exampleCall t c n b) n := by
    have habsent : exampleRequest.get? "destination_binding_ref" = none := by decide
    refine ⟨hn, hshape, rfl, hoperation, hpurpose, ?_, hna⟩
    rw [GateDDecisionEngine.envelopeDestination, GateDDecisionEngine.network_of_shape hshape rfl, Dict.getD,
      show (exampleCall t c n b).request = exampleRequest from rfl, habsent, Option.getD_none]
    simp only [hdestination, Val.toStr_str]
  obtain ⟨e, he, ha⟩ := (exampleEngine epoch).buildIntegratedEnvelope_of_call rfl ht hta hc hca rfl hcall hb
  exact ⟨e, he, (exampleEngine epoch).fenceAccepts_of_built he rfl ha rfl hcall hb hrevalidate⟩

theorem exampleCall_accepted :
    ∃ b e, (exampleEngine epoch).buildIntegratedEnvelope (exampleCall t c n b) = .ok e ∧
      (exampleEngine epoch).FenceAccepts (examplePresented epoch t c n e b) := by
  obtain ⟨b, -, hrevalidate, hcarries⟩ := exampleService_issues epoch
  have hb := hcarries (exampleCall t c n b) rfl rfl
  exact ⟨b, exampleCall_accepted_of epoch ht hta hc hca hn hshape hoperation hpurpose hna hdestination hrevalidate hb⟩

end

/-- A runtime whose provider is the in-memory test double. -/
def exampleRuntime : EnforcedTransportRuntime where
  provider := some { inMemory := true, call := fun payload => .ok payload }

/-- What gets through the fence is sent by the runtime. -/
theorem exampleRuntime_executes {epoch : Nat} {t c n e : Dict} {b : RequestAuthorizationBinding} (payload : Dict)
    (h : (exampleEngine epoch).FenceAccepts (examplePresented epoch t c n e b)) :
    (exampleRuntime.executeProvider (exampleEngine epoch) (examplePresented epoch t c n e b) payload).executed :=
  EnforcedTransportRuntime.execute_executed.mpr ⟨_, payload, ⟨h, rfl, .inl rfl, rfl⟩, rfl⟩

end

end Pmiri
