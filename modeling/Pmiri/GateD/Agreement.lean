import Pmiri.GateD.Issued

/-!
# What the builder permits and what the fence accepts

An external envelope that permits is built from permitting decisions. The fence
accepts it, presented with these decisions, exactly if the network decision is
constrained where the trust decision is, and is bound as the fence asks.
-/

namespace Pmiri

open Py

section

variable [Runtime]

namespace GateDDecisionEngine

variable (g : GateDDecisionEngine)

/-! ## Envelopes over a network decision -/

omit [Runtime] g in
/-- A network decision with any field is truthy. -/
theorem network_of_mem {i : EnvelopeInput} {n : Dict} {key : String} (h : key ∈ n.keys) (hn : i.networkDecision = some n) :
    i.network = some n := by
  rw [EnvelopeInput.network, hn, Option.filter_some]
  have hne : n.items ≠ [] := by
    intro he
    rw [Dict.keys, he] at h
    cases h
  simp [hne]

omit g in
/-- The fields that an envelope takes from a valid network decision are the decision's. -/
theorem networkField_of_valid {i : EnvelopeInput} {n : Dict} (h : OutboundDecision n) (hn : i.networkDecision = some n)
    (key : String) : i.networkField key = n.get key := by
  have hmem : "operation" ∈ n.keys := Dict.contains_iff.mp (contains_of_vocabulary h.operation)
  rw [EnvelopeInput.networkField, network_of_mem hmem hn]
  rfl

/-- The action of an envelope over two decisions that permit. -/
def jointAction (trust network : Dict) : String :=
  if (network.get "action_result").eq (.str "ALLOW_WITH_CONSTRAINTS") ||
    (trust.get "action_result").eq (.str "ALLOW_WITH_CONSTRAINTS") then "ALLOW_WITH_CONSTRAINTS" else "ALLOW"

omit g [Runtime] in
theorem jointAction_mem (trust network : Dict) : jointAction trust network ∈ PERMITTING := by
  rw [jointAction]
  split <;> decide

omit g [Runtime] in
theorem permitting_subset {x : String} (h : x ∈ PERMITTING) : x ∈ ACTIONS := by
  simp only [PERMITTING, List.mem_cons, List.not_mem_nil, or_false] at h
  rcases h with rfl | rfl <;> decide

omit g [Runtime] in
/-- The joint action is the network decision's unless only the trust decision is constrained. -/
theorem jointAction_eq_iff {trust network : Dict} (hn : ∃ x ∈ PERMITTING, network.get "action_result" = .str x) :
    .str (jointAction trust network) = network.get "action_result" ↔
      (trust.get "action_result" = .str "ALLOW_WITH_CONSTRAINTS" → network.get "action_result" = .str "ALLOW_WITH_CONSTRAINTS") := by
  obtain ⟨x, hx, e⟩ := hn
  simp only [PERMITTING, List.mem_cons, List.not_mem_nil, or_false] at hx
  rw [jointAction, e]
  rcases hx with rfl | rfl
  · rw [← Val.eq_str (v := trust.get "action_result")]
    cases (trust.get "action_result").eq (.str "ALLOW_WITH_CONSTRAINTS") <;> simp
  · simp

/-- An envelope over decisions that permit is built, and it permits. -/
theorem buildIntegratedEnvelope_of_permitting {i : EnvelopeInput} {n : Dict} {b : RequestAuthorizationBinding}
    {query : QueryRequest} (hmode : i.emissionMode = "EXTERNAL") (ht : TrustDecision i.trustDecision)
    (hta : ∃ x ∈ PERMITTING, i.trustDecision.get "action_result" = .str x) (hc : CapabilityDecision i.capabilityDecision)
    (hca : ∃ x ∈ PERMITTING, i.capabilityDecision.get "action_result" = .str x) (hn : i.networkDecision = some n)
    (hd : OutboundDecision n) (hna : ∃ x ∈ PERMITTING, n.get "action_result" = .str x)
    (hoperation : n.get "operation" = .str i.operation) (hpurpose : n.get "purpose" = .str i.purpose)
    (hb : g.Carries i b query) :
    ∃ e, g.buildIntegratedEnvelope i = .ok e ∧ e.get "action_result" = .str (jointAction i.trustDecision n) := by
  have hfield := networkField_of_valid hd hn
  have haction := jointAction_mem i.trustDecision n
  have hdecided : i.decided = .ok (.str (jointAction i.trustDecision n), "NONE") := by
    refine ((decided_external hmode).mpr ⟨⟨hta, hca, by rwa [hfield]⟩, ?_⟩).1
    rw [hfield, jointAction]
  generalize jointAction i.trustDecision n = action at haction hdecided ⊢
  have hv : g.envelopeVerdict i = .ok (.str action, "NONE") :=
    ((g.envelopeVerdict_external hmode).mpr ⟨⟨hdecided, action, haction, rfl⟩, b, query, hb⟩).1
  obtain ⟨-, ha, hr, hauthority, -⟩ := g.envelopeRecord_fields i (.str action, "NONE")
  have hbinding := g.envelopeRecord_binding i (.str action, "NONE") hb.binding
  obtain ⟨-, -, -, hprojection⟩ := g.envelopeRecord_network i (.str action, "NONE")
  have henvelopeOperation : (g.envelopeRecord i (.str action, "NONE")).get "operation" = n.get "operation" := by
    rw [hbinding ("operation", .str b.operation) (by simp [expectedBindingFields]), hb.operation, hoperation]
  have henvelopePurpose : (g.envelopeRecord i (.str action, "NONE")).get "purpose" = n.get "purpose" := by
    rw [hbinding ("purpose", .str b.purpose) (by simp [expectedBindingFields]), hb.purpose, hpurpose]
  refine ⟨_, g.buildIntegratedEnvelope_ok.mpr ⟨ht, hc, _, hv, ?_, rfl⟩, ha⟩
  refine ⟨by rw [henvelopeOperation]; exact hd.operation, by rw [henvelopePurpose]; exact hd.purpose,
    ⟨action, permitting_subset haction, ha⟩, .inr ⟨"NONE", by decide, hr⟩, by rw [hauthority]; exact g.authority_valid, fun h => ?_⟩
  · rw [hprojection _ (by decide), hfield, (hd.providerCall (henvelopeOperation.symm.trans h)).2 _ (by decide)]
    rfl

/-! ## At the fence -/

/-- An external envelope that permits, built from a valid network decision for
the request's operation, purpose and destination, where it names one. -/
structure Permitted (i : EnvelopeInput) (n envelope : Dict) : Prop where
  network : i.networkDecision = some n
  valid : OutboundDecision n
  external : i.emissionMode = "EXTERNAL"
  built : g.buildIntegratedEnvelope i = .ok envelope
  permits : ∃ x ∈ PERMITTING, envelope.get "action_result" = .str x
  operation : n.get "operation" = .str i.operation
  purpose : n.get "purpose" = .str i.purpose
  destination : ∀ v, i.request.get? "destination_binding_ref" = some v → v.toStr = (n.get "destination_binding_ref").toStr

/-- What is presented to the fence along with a built envelope. -/
def presented (i : EnvelopeInput) (n envelope : Dict) (lifecycle : Option Dict) (revalidate : Revalidator) : EmissionInput where
  envelope := envelope
  trustDecision := i.trustDecision
  capabilityDecision := i.capabilityDecision
  networkDecision := some n
  lifecycle := lifecycle
  authorizationBinding := i.authorizationBinding
  authorizationRequest := .mapping i.request
  authorizationRevalidator := some revalidate

/-- The network decision is a runtime record for a destination, it is
constrained if the trust decision is, and it binds the lifecycle of a content
operation. -/
structure FenceReady (i : EnvelopeInput) (n : Dict) (lifecycle : Option Dict) : Prop where
  shape : ∀ k, k ∈ n.keys ↔ k ∈ RUNTIME_OUTBOUND_REQUIRED_FIELDS
  destination : (n.get "destination_binding_ref").isStr = true
  constrained : i.trustDecision.get "action_result" = .str "ALLOW_WITH_CONSTRAINTS" →
    n.get "action_result" = .str "ALLOW_WITH_CONSTRAINTS"
  content : n.get "operation" ≠ .str "provider_call" → ∃ l, lifecycle = some l ∧ ContentBound n n l

variable {g}

/-- The fields of a permitting envelope that the fence compares. -/
structure Permitted.Fields (i : EnvelopeInput) (n envelope : Dict) : Prop where
  operation : envelope.get "operation" = n.get "operation"
  purpose : envelope.get "purpose" = n.get "purpose"
  action : envelope.get "action_result" = .str (jointAction i.trustDecision n)
  networkAction : ∃ x ∈ PERMITTING, n.get "action_result" = .str x
  connection : envelope.get "network_binding_fingerprint" = n.get "connection_binding_fingerprint"
  ref : envelope.get "outbound_network_decision_ref" = n.get "decision_id"
  fingerprint : envelope.get "outbound_network_decision_fingerprint" = n.get "decision_fingerprint"
  destination : envelope.get "destination_binding_ref" = .str (n.get "destination_binding_ref").toStr
  lifecycle : ∀ f ∈ lifecycleProjection, envelope.get f = n.get f

theorem Permitted.fields {i : EnvelopeInput} {n envelope : Dict} (h : g.Permitted i n envelope) :
    Permitted.Fields i n envelope := by
  have hfield := networkField_of_valid h.valid h.network
  obtain ⟨-, -, v, hv, -, rfl⟩ := g.buildIntegratedEnvelope_ok.mp h.built
  obtain ⟨-, ha, -, -, -, -, hdestination⟩ := g.envelopeRecord_fields i v
  obtain ⟨hconnection, href, hfingerprint, hlifecycle⟩ := g.envelopeRecord_network i v
  have hpermits := h.permits
  rw [ha] at hpermits
  obtain ⟨hdecided, b, query, hb⟩ := (g.envelopeVerdict_external h.external).mp ⟨hv, hpermits⟩
  obtain ⟨⟨-, -, hna⟩, hjoint⟩ := (decided_external h.external).mp hdecided
  have hbinding := g.envelopeRecord_binding i v hb.binding
  simp only [hfield] at hna hconnection href hfingerprint hlifecycle
  refine ⟨?_, ?_, ?_, hna, hconnection, href, hfingerprint, ?_, hlifecycle⟩
  · rw [hbinding ("operation", .str b.operation) (by simp [expectedBindingFields]), hb.operation, h.operation]
  · rw [hbinding ("purpose", .str b.purpose) (by simp [expectedBindingFields]), hb.purpose, h.purpose]
  · rw [ha, hjoint, jointAction, hfield]
  · have hmem : "operation" ∈ n.keys := Dict.contains_iff.mp (contains_of_vocabulary h.valid.operation)
    rw [hdestination, envelopeDestination, network_of_mem hmem h.network, Dict.getD]
    rcases hrequest : i.request.get? "destination_binding_ref" with _ | v
    · rfl
    · rw [Option.getD_some, h.destination v hrequest]

/-- The lifecycle is bound by both records or by neither. -/
theorem Permitted.Fields.contentBound_iff {i : EnvelopeInput} {n envelope l : Dict} (h : Permitted.Fields i n envelope)
    (hdestination : envelope.get "destination_binding_ref" = n.get "destination_binding_ref") :
    ContentBound envelope n l ↔ ContentBound n n l := by
  have hexact : ∀ f ∈ exactFields, f.1 ∈ lifecycleProjection := by decide
  constructor
  · intro hc
    have hn : ∀ {p : Dict → Prop}, (∀ d ∈ [n, envelope], p d) → ∀ d ∈ [n, n], p d := fun hp d hd =>
      hp d (by rcases List.mem_pair.mp hd with rfl | rfl <;> simp)
    exact ⟨hc.valid, hn hc.operation, hn hc.purpose, by rw [Dict.agrees, Val.eq_refl], by rw [Dict.agrees, Val.eq_refl],
      hn hc.fingerprint, hn hc.projection⟩
  · intro hc
    have hboth : ∀ {p : Dict → Prop}, (p n → p envelope) → (∀ d ∈ [n, n], p d) → ∀ d ∈ [n, envelope], p d := by
      intro p hp hn d hd
      rcases List.mem_pair.mp hd with rfl | rfl
      exacts [hn d (by simp), hp (hn n (by simp))]
    refine ⟨hc.valid, hboth (fun hn => by rwa [h.operation]) hc.operation, hboth (fun hn => by rwa [h.purpose]) hc.purpose,
      by rw [Dict.agrees, hdestination, Val.eq_refl], by rw [Dict.agrees, h.lifecycle _ (by decide), Val.eq_refl],
      hboth (fun hn => by rwa [h.lifecycle _ (by decide)]) hc.fingerprint,
      hboth (fun hn f hf => by rw [Dict.agrees, h.lifecycle _ (hexact f hf)]; exact hn f hf) hc.projection⟩

/-- What the builder permits, the fence accepts exactly if it is ready for it. -/
theorem Permitted.fenceAccepts_iff {i : EnvelopeInput} {n envelope : Dict} (h : g.Permitted i n envelope)
    (lifecycle : Option Dict) {revalidate : Revalidator}
    (haccepting : ∀ b query, g.Carries i b query → revalidate query b g.now = .ok true) :
    g.FenceAccepts (presented i n envelope lifecycle revalidate) ↔ FenceReady i n lifecycle := by
  have hf := h.fields
  have hagree : ∀ {k k' : String}, envelope.get k = n.get k' → envelope.agrees k n k' = true := fun h => by
    rw [Dict.agrees, h, Val.eq_refl]
  have hdestination : envelope.agrees "destination_binding_ref" n "destination_binding_ref" = true ↔
      envelope.get "destination_binding_ref" = n.get "destination_binding_ref" := by
    rw [Dict.agrees, hf.destination, Val.str_eq, eq_comm]
  have htext : envelope.get "destination_binding_ref" = n.get "destination_binding_ref" ↔
      (n.get "destination_binding_ref").isStr = true := by
    rw [hf.destination]
    cases n.get "destination_binding_ref" <;> simp [Val.isStr]
  have haction : envelope.get "action_result" = n.get "action_result" ↔ (i.trustDecision.get "action_result" =
      .str "ALLOW_WITH_CONSTRAINTS" → n.get "action_result" = .str "ALLOW_WITH_CONSTRAINTS") := by
    rw [hf.action, jointAction_eq_iff hf.networkAction]
  constructor
  · rintro ⟨-, -, m, hm⟩
    obtain rfl : n = m := Option.some.inj hm.network
    have hsame := hdestination.mp hm.destination
    refine ⟨hm.networkShape, htext.mp hsame, haction.mp (hm.emission.same "action_result" (by simp)), fun hcontent => ?_⟩
    obtain ⟨l, hl, hbound⟩ := hm.emission.content (by
      rw [show (presented i n envelope lifecycle revalidate).envelope = envelope from rfl, hf.operation]
      exact hcontent)
    exact ⟨l, hl, (hf.contentBound_iff hsame).mp hbound⟩
  · intro he
    obtain ⟨ht, hc, v, hv, henvelope, rfl⟩ := g.buildIntegratedEnvelope_ok.mp h.built
    obtain ⟨hm, -, -, -, htrust, hcapability, -⟩ := g.envelopeRecord_fields i v
    rw [h.external] at hm
    obtain ⟨-, -, b, query, hb⟩ := g.buildIntegratedEnvelope_permits h.built hm h.permits
    have hbinding := g.envelopeRecord_binding i v hb.binding
    have hsame := htext.mpr he.destination
    have hepoch := g.buildIntegratedEnvelope_epoch h.built hm h.permits
    refine ⟨⟨ht, hc, finalize_fingerprint _, ?_, ?_, ?_, hm, h.permits⟩, ⟨b, query, revalidate, hb.binding, hb.request, rfl,
      hb.valid, hb.version, hb.integrity, fun kv hkv => ?_, haccepting b query hb⟩, n, ?_⟩
    · rw [presented, hepoch, Val.eq_refl]
    · obtain ⟨x, -, hx⟩ := ht.state
      rw [presented, htrust, Dict.getD_of_contains _ (Dict.contains_of_str hx)]
    · obtain ⟨x, -, hx⟩ := hc.state
      rw [presented, hcapability, Dict.getD_of_contains _ (Dict.contains_of_str hx)]
    · rw [presented, hbinding kv hkv, Val.eq_refl]
    refine ⟨rfl, fun k => g.mem_keys_envelopeRecord, he.shape, hagree hf.connection, hagree hf.ref, hagree hf.fingerprint,
      hagree hsame, henvelope, h.valid, ?_, ?_, ?_, ?_, fun _ _ => hagree hsame, fun hcontent => ?_⟩
    · simp only [List.forall_mem_cons, List.not_mem_nil, false_imp_iff, implies_true, and_true]
      exact ⟨hf.operation, hf.purpose, haction.mpr he.constrained⟩
    · rw [boundElsewhere, presented, hagree hf.connection, Bool.not_true, Bool.and_false]
    · rw [boundElsewhere, presented, hagree hf.ref, Bool.not_true, Bool.and_false]
    · rw [boundElsewhere, presented, hagree hf.fingerprint, Bool.not_true, Bool.and_false]
    · obtain ⟨l, hl, hbound⟩ := he.content (by rw [← hf.operation]; exact hcontent)
      exact ⟨l, hl, (hf.contentBound_iff hsame).mpr hbound⟩

/-! ## Evaluated network decisions -/

/-- A decision on a content operation is bound to the lifecycle it was evaluated with. -/
theorem contentBound_of_evaluated [Idna] {j : NetworkInput} {n l : Dict} (hn : g.evaluateNetwork j = .ok n)
    (hl : j.lifecycle = some l) (hcontent : n.get "operation" ≠ .str "provider_call") : ContentBound n n l := by
  obtain ⟨start, f, b, hstart, -, -, hvalid, rfl⟩ := g.evaluateNetwork_ok.mp hn
  obtain ⟨hoperation, hpurpose, -⟩ := g.networkRecord_fields j f (g.connectionView j f b) start
  have hop : j.operation ≠ "provider_call" := fun e => hcontent (by rw [hoperation, e])
  simp only [startingLifecycle, bne_iff_ne.mpr hop, ↓reduceIte, hl, seq_ok, raiseIf_ok, validateLifecycle_ok,
    Bool.or_eq_false_iff, differs_false] at hstart
  obtain ⟨hlifecycle, ⟨hlOperation, hlPurpose⟩, -⟩ := hstart
  have hprojection : ∀ p ∈ exactFields, (g.networkRecord j f (g.connectionView j f b) start).get p.1 = l.get p.2 := by
    simp only [exactFields, List.forall_mem_cons, List.not_mem_nil, false_imp_iff, implies_true, and_true]
    simp [networkRecord, GateDDecisionEngine.lifecycleFields, get_finalize, Dict.get_insert, Dict.ofItems, hl, resolvedLifecycleRef, hop]
  have hfingerprint : (g.networkRecord j f (g.connectionView j f b) start).get "fetched_content_lifecycle_fingerprint" =
      .str (l.get "lifecycle_fingerprint").toStr := by
    simp [networkRecord, GateDDecisionEngine.lifecycleFields, get_finalize, Dict.get_insert, Dict.ofItems, hl, resolvedLifecycleRef, hop]
  refine ⟨hlifecycle, ?_, ?_, by rw [Dict.agrees, Val.eq_refl], by rw [Dict.agrees, Val.eq_refl], ?_, ?_⟩
  · simp [hoperation, hlOperation]
  · simp [hpurpose, hlPurpose]
  · simp only [List.forall_mem_cons, List.not_mem_nil, false_imp_iff, implies_true, and_true, and_self, hfingerprint]
    rw [hlifecycle.fingerprint, Val.toStr_str]
  · simp only [List.forall_mem_cons, List.not_mem_nil, false_imp_iff, implies_true, and_true, and_self]
    exact fun p hp => by rw [Dict.agrees, hprojection p hp, Val.eq_refl]

/-- The engine evaluates no network decision as constrained. -/
theorem allow_of_evaluated [Idna] {j : NetworkInput} {n : Dict} (hn : g.evaluateNetwork j = .ok n)
    (hpermits : ∃ x ∈ PERMITTING, n.get "action_result" = .str x) : n.get "action_result" = .str "ALLOW" := by
  obtain ⟨start, f, b, -, hf, -, -, rfl⟩ := g.evaluateNetwork_ok.mp hn
  obtain ⟨-, -, haction, -⟩ := g.networkRecord_fields j f (g.connectionView j f b) start
  have hverdict : ∀ resolution, (g.networkVerdict j resolution).2.1 = "ALLOW" ∨ (g.networkVerdict j resolution).2.1 = "DENY" := by
    intro resolution
    unfold networkVerdict
    split_ifs <;> simp
  have hf : f.action = "ALLOW" ∨ f.action = "DENY" := by
    unfold networkFindings at hf
    split at hf
    · cases hf
      exact .inr rfl
    · obtain ⟨resolution, -, hf⟩ := bind_ok.mp hf
      cases hf
      exact hverdict resolution
  rcases hf with hf | hf
  · rw [haction, hf]
  · rw [haction, hf] at hpermits
    simp [PERMITTING] at hpermits

/-- What the engine evaluated is ready for the fence if the trust decision is not constrained. -/
theorem fenceReady_of_evaluated [Idna] {i : EnvelopeInput} {j : NetworkInput} {n : Dict} (hn : g.evaluateNetwork j = .ok n)
    (hpermits : ∃ x ∈ PERMITTING, n.get "action_result" = .str x)
    (hlifecycle : n.get "operation" ≠ .str "provider_call" → j.lifecycle.isSome = true) :
    FenceReady i n j.lifecycle ↔ i.trustDecision.get "action_result" ≠ .str "ALLOW_WITH_CONSTRAINTS" := by
  have hallow := allow_of_evaluated hn hpermits
  constructor
  · intro h htrust
    have hconstrained := h.constrained htrust
    rw [hallow] at hconstrained
    simp at hconstrained
  · intro htrust
    refine ⟨?_, ?_, fun e => absurd e htrust, fun hcontent => ?_⟩
    · obtain ⟨start, f, b, -, -, -, -, rfl⟩ := g.evaluateNetwork_ok.mp hn
      exact fun k => g.mem_keys_networkRecord
    · obtain ⟨start, f, b, -, -, -, -, rfl⟩ := g.evaluateNetwork_ok.mp hn
      rw [(g.networkRecord_fields j f (g.connectionView j f b) start).2.2.2.1]
      rfl
    · obtain ⟨l, hl⟩ := Option.isSome_iff_exists.mp (hlifecycle hcontent)
      exact ⟨l, hl, contentBound_of_evaluated hn hl hcontent⟩

end GateDDecisionEngine

end

end Pmiri
