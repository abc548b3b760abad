import Pmiri.GateD.ProviderCall

/-!
# Soundness of the emission fence

What holds whenever a transport is called, and what does not: the records that
meet at the fence are compared with each other on some of the fields that they
share, and a network decision is held to its own fingerprint only if it has one.
-/

namespace Pmiri

open Py

section

variable [Runtime]

/-! ## Sound emissions -/

/-- The lifecycle record of a content operation, and its projection in the two
records that carry it. -/
structure LifecycleBound (i : EmissionInput) (n l : Dict) : Prop where
  presented : i.lifecycle = some l
  valid : validateLifecycle l = .ok ()
  reference : n.agrees "fetched_content_lifecycle_ref" i.envelope "fetched_content_lifecycle_ref" = true
  fingerprint : ∀ d ∈ [n, i.envelope], d.get "fetched_content_lifecycle_fingerprint" = l.get "lifecycle_fingerprint"
  projection : ∀ d ∈ [n, i.envelope], ∀ f ∈ exactFields, d.agrees f.1 l f.2 = true

/-- The network decision of a sound emission. -/
structure NetworkBound (i : EmissionInput) (n : Dict) : Prop where
  presented : i.networkDecision = some n
  same : ∀ f ∈ ["operation", "purpose", "action_result"], n.get f = i.envelope.get f
  connected : ∀ kv ∈ allowRequires, n.get kv.1 = .str kv.2
  content : i.envelope.get "operation" ≠ .str "provider_call" → ∃ l, LifecycleBound i n l

/-- The exact-request binding of a sound emission; nine fields of the envelope are its own. -/
structure RequestBound (g : GateDDecisionEngine) (i : EmissionInput) (b : RequestAuthorizationBinding)
    (query : QueryRequest) : Prop where
  presented : i.authorizationBinding = some b ∧ authorizationRequest i.authorizationRequest = some query
  valid : b.isValid g.now g.invalidationEpoch = .ok true
  integrity : b.integrityValid query = true
  requestFingerprint : i.envelope.get "request_authorization_fingerprint" = .str b.fingerprint
  lineageRef : i.envelope.get "authorization_lineage_ref" = .str b.bindingId
  lineageFingerprint : i.envelope.get "authorization_lineage_fingerprint" = .str b.fingerprint
  subjectChain : i.envelope.get "subject_chain_fingerprint" = .str b.subjectChainFingerprint
  purposeFingerprint : i.envelope.get "purpose_fingerprint" = .str b.purposeBindingFingerprint
  operation : i.envelope.get "operation" = .str b.operation
  purpose : i.envelope.get "purpose" = .str b.purpose
  policyVersion : i.envelope.get "policy_version" = .str b.policyVersion
  policyEpoch : (i.envelope.get "invalidation_epoch").eq (.int b.policyEpoch) = true
  revalidated : ∃ revalidate, i.authorizationRevalidator = some revalidate ∧ revalidate query b g.now = .ok true

/-- What an emission has to be for its transport to be called. -/
structure Sound (g : GateDDecisionEngine) (i : EmissionInput) : Prop where
  fingerprint : i.envelope.get "decision_fingerprint" = .str (decisionFingerprint i.envelope)
  epoch : (i.envelope.get "invalidation_epoch").eq (.int g.invalidationEpoch) = true
  external : i.envelope.get "emission_mode" = .str "EXTERNAL"
  action : ∃ x ∈ PERMITTING, i.envelope.get "action_result" = .str x
  binding : ∃ b query, RequestBound g i b query
  network : ∃ n, NetworkBound i n

/-- An execution whose transport runs only for a sound emission, and once. -/
structure Fenced {α : Type} (x : Execution α) (transport : Option (Transport α)) (payload : α) (required : Prop) : Prop where
  executed : x.executed ↔ x.calls ≠ [] ∧ ∃ t output, transport = some t ∧ t.call payload = .ok output
  sound : x.calls ≠ [] → required
  once : x.calls ≠ [] → x.calls = [payload]
  otherwise : ¬ required → x.calls = [] ∧ ¬ x.executed

theorem GateDDecisionEngine.FenceAccepts.sound {g : GateDDecisionEngine} {i : EmissionInput} (h : g.FenceAccepts i) :
    Sound g i := by
  obtain ⟨henvelope, ⟨b, query, revalidate, hb⟩, n, hn⟩ := h
  have hsame : ∀ f ∈ ["operation", "purpose", "action_result"], n.get f = i.envelope.get f :=
    fun f hf => (hn.emission.same f hf).symm
  have hfields := hb.fields
  simp only [expectedBindingFields, List.forall_mem_cons, List.not_mem_nil, false_imp_iff, implies_true, and_true, Val.eq_str]
    at hfields
  obtain ⟨hrequest, hlineage, hlineageFp, hsubject, hpurposeFp, hoperation, hpurpose, hpolicy, hepoch⟩ := hfields
  have hbound : RequestBound g i b query := ⟨⟨hb.binding, hb.request⟩, hb.valid, hb.integrity, hrequest, hlineage, hlineageFp,
    hsubject, hpurposeFp, hoperation, hpurpose, hpolicy, hepoch, revalidate, hb.revalidator, hb.revalidated⟩
  refine ⟨henvelope.fingerprint, henvelope.epoch, henvelope.external, henvelope.action, ⟨b, query, hbound⟩, n, hn.network, hsame,
    ?_, ?_⟩
  · exact hn.emission.network.allow (by rw [hsame "action_result" (by simp)]; exact henvelope.action)
  · intro hc
    obtain ⟨l, hl, h⟩ := hn.emission.content hc
    exact ⟨l, hl, validateLifecycle_ok.mpr h.valid, h.ref, h.fingerprint, h.projection⟩

theorem execute_fenced {α : Type} (r : EnforcedTransportRuntime) (g : GateDDecisionEngine)
    (transport : Option (Transport α)) (kind : String) (i : EmissionInput) (payload : α) :
    Fenced (r.execute g transport kind i payload) transport payload (Sound g i) := by
  have hsound : (r.execute g transport kind i payload).calls ≠ [] → Sound g i := fun h => by
    obtain ⟨t, ht⟩ := EnforcedTransportRuntime.execute_calls_ne_nil.mp h
    exact ht.fence.sound
  refine ⟨?_, hsound, fun h => ?_, fun h => ?_⟩
  · rw [EnforcedTransportRuntime.execute_executed, EnforcedTransportRuntime.execute_calls_ne_nil]
    constructor
    · rintro ⟨t, output, ht, hc⟩
      exact ⟨⟨t, ht⟩, t, output, ht.configured, hc⟩
    · rintro ⟨⟨t, ht⟩, t', output, ht', hc⟩
      obtain rfl : t = t' := Option.some.inj (ht.configured.symm.trans ht')
      exact ⟨t, output, ht, hc⟩
  · obtain ⟨t, ht⟩ := EnforcedTransportRuntime.execute_calls_ne_nil.mp h
    rw [EnforcedTransportRuntime.execute_of_released ht]
  · refine EnforcedTransportRuntime.execute_of_not_released fun ⟨t, ht⟩ => h ht.fence.sound

/-- A provider or a connector is called only for a sound emission. A provider
call presents no lifecycle record. -/
theorem executions_fenced (r : EnforcedTransportRuntime) (g : GateDDecisionEngine) (i : EmissionInput) :
    (∀ payload, Fenced (r.executeProvider g i payload) r.provider payload (Sound g { i with lifecycle := none })) ∧
      ∀ target, Fenced (r.executeConnector g i target) r.connector target (Sound g i) :=
  ⟨fun payload => execute_fenced r g r.provider "PROVIDER" { i with lifecycle := none } payload,
    fun target => execute_fenced r g r.connector "CONNECTOR" i target⟩

/-! ## Network decisions at the fence -/

/-- The fields of an outbound decision that its validator reads. -/
def outboundFields : List String :=
  ["operation", "purpose", "reason_class", "action_result", "content_lifecycle"] ++ lifecycleProjection ++
    allowRequires.map Prod.fst

/-- A decision without a fingerprint is as good as the one it agrees with on
what the validator reads. -/
theorem OutboundDecision.of_agree {d d' : Dict} (h : OutboundDecision d) (hsame : ∀ f ∈ outboundFields, d'.get f = d.get f)
    (hf : (d'.get "decision_fingerprint").truthy = false) : OutboundDecision d' := by
  have hprojection : ∀ f ∈ lifecycleProjection, d'.get f = d.get f := fun f hf =>
    hsame f (List.mem_append_left _ (List.mem_append_right _ hf))
  have hlifecycle := hsame "content_lifecycle" (by decide)
  refine ⟨?_, ?_, ?_, ?_, ?_, ?_, ?_, ?_, fun ht => absurd ht (by rw [hf]; simp)⟩
  · rw [hsame "operation" (by decide)]; exact h.operation
  · rw [hsame "purpose" (by decide)]; exact h.purpose
  · rw [hsame "reason_class" (by decide)]; exact h.reason
  · rw [hsame "action_result" (by decide)]; exact h.action
  · rw [hlifecycle]; exact h.lifecycle
  · rw [hsame "operation" (by decide), hlifecycle]
    exact fun ho => ⟨(h.providerCall ho).1, fun f hf => (hprojection f hf).trans ((h.providerCall ho).2 f hf)⟩
  · rw [hsame "operation" (by decide), hlifecycle, hprojection _ (by decide), hprojection _ (by decide)]
    exact fun ho => ⟨fun f hf => by rw [hprojection f hf]; exact (h.content ho).1 f hf, (h.content ho).2⟩
  · rw [hsame "action_result" (by decide)]
    exact fun ha kv hkv => by
      rw [hsame kv.1 (List.mem_append_right _ (List.mem_map_of_mem hkv))]
      exact h.allow ha kv hkv

/-- A decision with another selected address and an empty fingerprint. -/
def tampered (n : Dict) : Dict :=
  (n.insert "selected_target_ip" (.str "10.0.0.1")).insert "decision_fingerprint" (.str "")

omit [Runtime] in
theorem get_tampered {n : Dict} {key : String} (h : key ≠ "selected_target_ip") (h' : key ≠ "decision_fingerprint") :
    (tampered n).get key = n.get key := by
  rw [tampered, Dict.get_insert, if_neg h', Dict.get_insert, if_neg h]

/-- Where the engine evaluates a call, the tampered decision gets the call
through the fence as well. -/
theorem tampered_accepted [Idna] (epoch : Nat) :
    ∃ n i, (exampleEngine epoch).evaluateNetwork exampleNetwork = .ok n ∧ i.networkDecision = some (tampered n) ∧
      (exampleEngine epoch).authorizeEmission i = .ok () := by
  obtain ⟨t, -, ht, hta⟩ := exampleTrust_evaluated epoch "provider_call"
  obtain ⟨c, -, hc, hca, -⟩ := exampleCapability_evaluated epoch "provider_call"
  obtain ⟨n, hn, hvalid, hshape, hoperation, hpurpose, hna, hdestination⟩ :=
    (exampleEngine epoch).evaluateNetwork_validated exampleNetwork_validated rfl
  have hf : (tampered n).get "decision_fingerprint" = .str "" := Dict.get_insert_self ..
  have hvalid' : OutboundDecision (tampered n) := by
    refine hvalid.of_agree (fun f hf => get_tampered ?_ ?_) (by rw [hf]; rfl)
    · rintro rfl; exact absurd hf (by decide)
    · rintro rfl; exact absurd hf (by decide)
  have hshape' : ∀ k, k ∈ (tampered n).keys ↔ k ∈ RUNTIME_OUTBOUND_REQUIRED_FIELDS := by
    intro k
    rw [tampered, Dict.mem_keys_insert, Dict.mem_keys_insert, hshape]
    constructor
    · rintro ((h | rfl) | rfl)
      · exact h
      · decide
      · decide
    · exact fun h => .inl (.inl h)
  obtain ⟨b, e, -, haccepts⟩ := exampleCall_accepted epoch ht hta hc hca hvalid' hshape'
    (by rw [get_tampered (by decide) (by decide), hoperation]; rfl)
    (by rw [get_tampered (by decide) (by decide), hpurpose]; rfl) (by rw [get_tampered (by decide) (by decide), hna])
    (by rw [get_tampered (by decide) (by decide), hdestination])
  exact ⟨n, _, hn, rfl, (exampleEngine epoch).authorizeEmission_ok.mpr haccepts⟩

/-- An accepted network decision fingerprints its other fields exactly if it
has a fingerprint at all: a falsy one is not looked at. -/
theorem accepted_fingerprint_iff {g : GateDDecisionEngine} {i : EmissionInput} {n : Dict}
    (h : g.authorizeEmission i = .ok ()) (hn : i.networkDecision = some n) :
    n.get "decision_fingerprint" = .str (decisionFingerprint n) ↔ (n.get "decision_fingerprint").truthy = true := by
  obtain ⟨-, -, m, hm⟩ := g.authorizeEmission_ok.mp h
  obtain rfl : n = m := Option.some.inj (hn.symm.trans hm.network)
  constructor
  · intro hf
    rw [hf]
    exact isSha256_truthy (isSha256_sha256Json _)
  · exact hm.emission.network.fingerprint

end

/-- The tampered decision is accepted, and is not what its fingerprint says. -/
theorem accepted_without_fingerprint :
    letI := asciiRuntime
    letI : Idna := ⟨none⟩
    ∃ n i, (exampleEngine 0).evaluateNetwork exampleNetwork = .ok n ∧ i.networkDecision = some (tampered n) ∧
      (exampleEngine 0).authorizeEmission i = .ok () ∧
      (tampered n).get "decision_fingerprint" ≠ .str (decisionFingerprint (tampered n)) := by
  let := asciiRuntime
  let : Idna := ⟨none⟩
  obtain ⟨n, i, hn, hi, h⟩ := tampered_accepted 0
  refine ⟨n, i, hn, hi, h, fun e => ?_⟩
  have hf : (tampered n).get "decision_fingerprint" = .str "" := Dict.get_insert_self ..
  have ht := isSha256_truthy (v := .str (decisionFingerprint (tampered n))) (isSha256_sha256Json _)
  rw [← e, hf] at ht
  exact absurd ht (by decide)

theorem accepted_fingerprint_iff_example :
    letI := asciiRuntime
    letI : Idna := ⟨none⟩
    ∃ n i, (exampleEngine 0).evaluateNetwork exampleNetwork = .ok n ∧ i.networkDecision = some (tampered n) ∧
      (exampleEngine 0).authorizeEmission i = .ok () ∧
      ((tampered n).get "decision_fingerprint" = .str (decisionFingerprint (tampered n)) ↔
        ((tampered n).get "decision_fingerprint").truthy = true) := by
  let := asciiRuntime
  let : Idna := ⟨none⟩
  obtain ⟨n, i, hn, hi, h⟩ := tampered_accepted 0
  exact ⟨n, i, hn, hi, h, accepted_fingerprint_iff h hi⟩

section

variable [Runtime]

/-! ## Agreement of the records -/

/-- The network decision that is presented. -/
def EmissionInput.network (i : EmissionInput) : Dict := i.networkDecision.getD .empty

/-- The records that meet at the fence agree on purpose, destination,
authority manifest and material, each on the fields it carries. A trust
decision carries its purpose as the reference that `evaluateTrust` makes of it. -/
structure Agree (i : EmissionInput) : Prop where
  purpose : (∀ d ∈ [i.network, i.capabilityDecision], d.get "purpose" = i.envelope.get "purpose") ∧
    i.trustDecision.get "purpose_binding_ref" =
      .str (ref "purpose" (Dict.ofItems [("purpose", i.envelope.get "purpose")]).toVal)
  destination : ∀ d ∈ [i.network, i.trustDecision],
    i.envelope.agrees "destination_binding_ref" d "destination_binding_ref" = true
  authority : ∀ d ∈ [i.network, i.trustDecision, i.capabilityDecision],
    i.envelope.agrees "authority_manifest_fingerprint" d "authority_manifest_fingerprint" = true
  material : i.capabilityDecision.agrees "material_manifest_ref" i.trustDecision "material_manifest_ref" = true ∧
    i.envelope.agrees "material_manifest_fingerprint" i.capabilityDecision "material_manifest_fingerprint" = true
  lifecycle : i.envelope.get "operation" ≠ .str "provider_call" → ∃ l, i.lifecycle = some l ∧
    l.get "purpose" = i.envelope.get "purpose" ∧
    i.envelope.agrees "destination_binding_ref" l "destination_binding_ref" = true ∧
    i.envelope.agrees "authority_manifest_fingerprint" l "authority_manifest_fingerprint" = true

/-- The part of `Agree` that the fence does not compare. -/
structure AgreeUnchecked (i : EmissionInput) : Prop where
  purpose : i.capabilityDecision.get "purpose" = i.envelope.get "purpose" ∧
    i.trustDecision.get "purpose_binding_ref" =
      .str (ref "purpose" (Dict.ofItems [("purpose", i.envelope.get "purpose")]).toVal)
  destination : i.envelope.agrees "destination_binding_ref" i.trustDecision "destination_binding_ref" = true
  authority : ∀ d ∈ [i.network, i.trustDecision, i.capabilityDecision],
    i.envelope.agrees "authority_manifest_fingerprint" d "authority_manifest_fingerprint" = true
  material : i.capabilityDecision.agrees "material_manifest_ref" i.trustDecision "material_manifest_ref" = true ∧
    i.envelope.agrees "material_manifest_fingerprint" i.capabilityDecision "material_manifest_fingerprint" = true
  lifecycle : i.envelope.get "operation" ≠ .str "provider_call" → ∀ l, i.lifecycle = some l →
    i.envelope.agrees "destination_binding_ref" l "destination_binding_ref" = true ∧
    i.envelope.agrees "authority_manifest_fingerprint" l "authority_manifest_fingerprint" = true

/-- At the fence, the records agree exactly if they do on what it leaves out. -/
theorem agree_iff_of_accepted {g : GateDDecisionEngine} {i : EmissionInput} (h : g.FenceAccepts i) :
    Agree i ↔ AgreeUnchecked i := by
  obtain ⟨-, -, n, hm⟩ := h
  have hn : i.network = n := by rw [EmissionInput.network, hm.network, Option.getD_some]
  have hpurpose : i.network.get "purpose" = i.envelope.get "purpose" := by
    rw [hn]
    exact (hm.emission.same "purpose" (by simp)).symm
  have hdestination : i.envelope.agrees "destination_binding_ref" i.network "destination_binding_ref" = true := by
    rw [hn]
    exact hm.destination
  constructor
  · intro ha
    refine ⟨⟨ha.purpose.1 _ (by simp), ha.purpose.2⟩, ha.destination _ (by simp), ha.authority, ha.material, fun hc l hl => ?_⟩
    obtain ⟨l', hl', -, hl''⟩ := ha.lifecycle hc
    obtain rfl : l = l' := Option.some.inj (hl.symm.trans hl')
    exact hl''
  · intro ha
    refine ⟨⟨?_, ha.purpose.2⟩, ?_, ha.authority, ha.material, fun hc => ?_⟩
    · simpa using ⟨hpurpose, ha.purpose.1⟩
    · simpa using ⟨hdestination, ha.destination⟩
    · obtain ⟨l, hl, hbound⟩ := hm.emission.content hc
      exact ⟨l, hl, (hbound.purpose i.envelope (by simp)).symm, ha.lifecycle hc l hl⟩

/-- An execution for which the records agree exactly if they do on what the
fence leaves out. -/
structure AgreesIffUnchecked {α : Type} (x : Execution α) (i : EmissionInput) : Prop where
  called : x.calls ≠ [] → (Agree i ↔ AgreeUnchecked i)
  executed : x.executed → (Agree i ↔ AgreeUnchecked i)
  denied : AgreeUnchecked i → ¬ Agree i → x.calls = [] ∧ ¬ x.executed

theorem execute_agrees {α : Type} (r : EnforcedTransportRuntime) (g : GateDDecisionEngine)
    (transport : Option (Transport α)) (kind : String) (i : EmissionInput) (payload : α) :
    AgreesIffUnchecked (r.execute g transport kind i payload) i := by
  refine ⟨fun h => ?_, fun h => ?_, fun hu ha => ?_⟩
  · obtain ⟨t, ht⟩ := EnforcedTransportRuntime.execute_calls_ne_nil.mp h
    exact agree_iff_of_accepted ht.fence
  · obtain ⟨t, -, ht, -⟩ := EnforcedTransportRuntime.execute_executed.mp h
    exact agree_iff_of_accepted ht.fence
  · refine EnforcedTransportRuntime.execute_of_not_released fun ⟨t, ht⟩ => ?_
    exact ha ((agree_iff_of_accepted ht.fence).mpr hu)

/-- Records of one purpose, destination, authority and material are told from
mixed ones exactly by the comparisons that the fence does not make. -/
theorem executions_agree_iff (r : EnforcedTransportRuntime) (g : GateDDecisionEngine) (i : EmissionInput) :
    (∀ payload, AgreesIffUnchecked (r.executeProvider g i payload) { i with lifecycle := none }) ∧
      ∀ target, AgreesIffUnchecked (r.executeConnector g i target) i :=
  ⟨fun payload => execute_agrees r g r.provider "PROVIDER" { i with lifecycle := none } payload,
    fun target => execute_agrees r g r.connector "CONNECTOR" i target⟩

end

/-- A provider call goes out under a capability decision for retrieval. -/
theorem executed_for_another_purpose :
    letI := asciiRuntime
    letI : Idna := ⟨none⟩
    ∃ t c n b e, (exampleEngine 0).evaluateTrust (exampleTrust "provider_call") = .ok t ∧
      (exampleEngine 0).evaluateCapability (exampleCapability 0 "retrieval") = .ok c ∧
      (exampleEngine 0).evaluateNetwork exampleNetwork = .ok n ∧
      (exampleEngine 0).buildIntegratedEnvelope (exampleCall t c n b) = .ok e ∧
      (exampleRuntime.executeProvider (exampleEngine 0) (examplePresented 0 t c n e b) .empty).executed ∧
      ¬ Agree (examplePresented 0 t c n e b) := by
  let := asciiRuntime
  let : Idna := ⟨none⟩
  obtain ⟨t, ht, htrust, hta⟩ := exampleTrust_evaluated 0 "provider_call"
  obtain ⟨c, hc, hcapability, hca, hpurpose⟩ := exampleCapability_evaluated 0 "retrieval"
  obtain ⟨n, hn, hvalid, hshape, hop, hnetwork, hna, hdestination⟩ :=
    (exampleEngine 0).evaluateNetwork_validated exampleNetwork_validated rfl
  obtain ⟨b, e, he, haccepts⟩ := exampleCall_accepted 0 htrust hta hcapability hca hvalid hshape hop hnetwork hna hdestination
  refine ⟨t, c, n, b, e, ht, hc, hn, he, exampleRuntime_executes .empty haccepts, fun ha => ?_⟩
  obtain ⟨-, -, m, hm⟩ := haccepts
  have hsame : e.get "purpose" = m.get "purpose" := hm.emission.same "purpose" (by simp)
  obtain rfl : n = m := Option.some.inj hm.network
  have hc' : c.get "purpose" = e.get "purpose" := ha.purpose.1 c (by simp [examplePresented])
  rw [hpurpose, hsame, hnetwork] at hc'
  exact absurd (Val.str.inj hc') (by decide)

end Pmiri
