import Pmiri.GateD.Fence

/-!
# What the engine issues

The records that `evaluateNetwork` and `buildIntegratedEnvelope` return, field
by field, and which of them the fence accepts: a permitting envelope, built
from permitting decisions over a binding of the current epoch, presented with
the decisions it was built from.
-/

namespace Pmiri

open Py

section

variable [Runtime]

/-- No lifecycle is supplied. -/
structure NetworkInput.Unbound (i : NetworkInput) : Prop where
  contentLifecycle : i.contentLifecycle = "NOT_APPLICABLE"
  lifecycle : i.lifecycle = none
  lifecycleRef : i.lifecycleRef = none

namespace GateDDecisionEngine

variable (g : GateDDecisionEngine)

/-! ## Network decisions -/

theorem mem_keys_networkRecord {i : NetworkInput} {f : NetworkFindings} {c : ConnectionView} {start k : String} :
    k ∈ (g.networkRecord i f c start).keys ↔ k ∈ RUNTIME_OUTBOUND_REQUIRED_FIELDS := by
  rw [networkRecord, mem_keys_finalize, Dict.mem_keys_ofItems]
  exact ((@List.mem_append _ k RUNTIME_OUTBOUND_REQUIRED_FIELDS.dropLast ["decision_fingerprint"]).trans
    (or_congr_right List.mem_singleton)).symm

/-- The fields of a network decision that other records are compared with. -/
theorem networkRecord_fields (i : NetworkInput) (f : NetworkFindings) (c : ConnectionView) (start : String) :
    (g.networkRecord i f c start).get "operation" = .str i.operation ∧
      (g.networkRecord i f c start).get "purpose" = .str i.purpose ∧
      (g.networkRecord i f c start).get "action_result" = .str f.action ∧
      (g.networkRecord i f c start).get "destination_binding_ref" = .str (ref "binding" f.normalized.toVal) ∧
      (g.networkRecord i f c start).get "authority_manifest_fingerprint" = .str g.authorityManifestFingerprint ∧
      (g.networkRecord i f c start).get "invalidation_epoch" = .int g.invalidationEpoch := by
  simp [networkRecord, lifecycleFields, get_finalize, Dict.get_insert, Dict.ofItems]

/-- The fields of a network decision that a transport is checked against. -/
theorem networkRecord_transport (i : NetworkInput) (f : NetworkFindings) (c : ConnectionView) (start : String) :
    (g.networkRecord i f c start).get "canonicalization_profile_id" = .str CANONICALIZATION_PROFILE_ID ∧
      (g.networkRecord i f c start).get "canonicalization_profile_fingerprint" = .str CANONICALIZATION_PROFILE_FINGERPRINT ∧
      (g.networkRecord i f c start).get "resolution_set_status" = .str f.resolutionStatus ∧
      (g.networkRecord i f c start).get "connection_binding_status" = c.bindingStatus ∧
      (g.networkRecord i f c start).get "final_revalidation_result" = c.eventResult ∧
      (g.networkRecord i f c start).get "final_revalidation_event_sequence" = c.eventSequence ∧
      (g.networkRecord i f c start).get "tls_identity_status" =
        .str (if f.resolutionStatus = "ALL_ALLOWLISTED_PUBLIC" then i.tlsIdentityStatus else "MISMATCHED") ∧
      (g.networkRecord i f c start).get "tls_identity_fingerprint" = c.tlsFingerprint ∧
      (g.networkRecord i f c start).get "connection_binding_ref" = c.ref ∧
      (g.networkRecord i f c start).get "connection_binding_fingerprint" = c.fingerprint ∧
      (g.networkRecord i f c start).get "destination_identity_ref" = .str (ref "destination" f.normalized.toVal) ∧
      (g.networkRecord i f c start).get "selected_target_resolution_ref" = c.selectedResolution ∧
      (g.networkRecord i f c start).get "selected_target_ip" = optStr f.selectedIp ∧
      (g.networkRecord i f c start).get "selected_target_family" = optStr f.selectedFamily ∧
      (g.networkRecord i f c start).get "connection_epoch" = .int g.invalidationEpoch ∧
      (g.networkRecord i f c start).get "normalized_target" = f.normalized.toVal := by
  simp [networkRecord, lifecycleFields, get_finalize, Dict.get_insert, Dict.ofItems]

/-- The projection of a lifecycle that no record was supplied for. -/
theorem networkRecord_projection {i : NetworkInput} (hu : i.Unbound) (f : NetworkFindings) (c : ConnectionView) :
    (i.operation = "provider_call" →
        ∀ key ∈ lifecycleProjection, (g.networkRecord i f c "NOT_APPLICABLE").get key = .none) ∧
      (i.operation ≠ "provider_call" →
        (∀ key ∈ lifecycleProjection, (g.networkRecord i f c "NOT_APPLICABLE").get key ≠ .none) ∧
        isSha256 ((g.networkRecord i f c "NOT_APPLICABLE").get "fetched_content_lifecycle_fingerprint") = true ∧
        isSha256 ((g.networkRecord i f c "NOT_APPLICABLE").get "fetched_content_terminal_response_fingerprint") = true) := by
  have hvisibility : ∀ state, visibilityOrNone state ≠ .none := by
    intro state
    rw [visibilityOrNone]
    split <;> simp_all
  constructor
  · intro hcall
    simp only [lifecycleProjection, List.forall_mem_cons, List.not_mem_nil, false_imp_iff, implies_true, and_true]
    simp [networkRecord, lifecycleFields, get_finalize, Dict.get_insert, Dict.ofItems, resolvedLifecycleRef, hcall,
      hu.lifecycle, optStr]
  · intro hcall
    simp only [lifecycleProjection, List.forall_mem_cons, List.not_mem_nil, false_imp_iff, implies_true, and_true]
    simp [networkRecord, lifecycleFields, get_finalize, Dict.get_insert, Dict.ofItems, resolvedLifecycleRef, hcall,
      hu.lifecycle, optStr, hvisibility, isSha256_sha256Json]

/-- The lifecycle state that such a decision names. -/
theorem networkRecord_lifecycle (i : NetworkInput) (f : NetworkFindings) (c : ConnectionView) :
    (i.operation = "provider_call" →
        (g.networkRecord i f c "NOT_APPLICABLE").get "content_lifecycle" = .str "NOT_APPLICABLE") ∧
      (i.operation ≠ "provider_call" →
        (g.networkRecord i f c "NOT_APPLICABLE").get "content_lifecycle" = .str "ABORTED" ∨
          (g.networkRecord i f c "NOT_APPLICABLE").get "content_lifecycle" = .str "QUARANTINED") := by
  have hget : (g.networkRecord i f c "NOT_APPLICABLE").get "content_lifecycle" =
      .str (decidedLifecycle i "NOT_APPLICABLE" f.action) := by
    simp [networkRecord, lifecycleFields, get_finalize, Dict.get_insert, Dict.ofItems]
  rw [hget, decidedLifecycle]
  constructor
  · intro hcall
    simp [hcall]
  · intro hcall
    by_cases hdeny : f.action = "DENY" <;> simp [hcall, hdeny]

/-- A decision without a lifecycle record is valid if its words are of the
vocabularies and an allow is over a validated connection. -/
theorem networkRecord_valid {i : NetworkInput} {f : NetworkFindings} {c : ConnectionView}
    (hoperation : i.operation ∈ OPERATIONS) (hpurpose : i.purpose ∈ PURPOSES) (hu : i.Unbound)
    (hreason : f.reason ∈ REASON_CLASSES) (haction : f.action = "ALLOW" ∨ f.action = "DENY")
    (hallow : f.action = "ALLOW" → f.resolutionStatus = "ALL_ALLOWLISTED_PUBLIC" ∧ i.tlsIdentityStatus = "MATCHED" ∧
      c.bindingStatus = .str "VALIDATED" ∧ c.eventResult = .str "MATCHED") :
    OutboundDecision (g.networkRecord i f c "NOT_APPLICABLE") := by
  obtain ⟨hop, hp, ha, -⟩ := g.networkRecord_fields i f c "NOT_APPLICABLE"
  obtain ⟨hnone, hsome⟩ := g.networkRecord_projection hu f c
  obtain ⟨hna, hstate⟩ := g.networkRecord_lifecycle i f c
  have hr : (g.networkRecord i f c "NOT_APPLICABLE").get "reason_class" = .str f.reason := by
    simp [networkRecord, lifecycleFields, get_finalize, Dict.get_insert, Dict.ofItems]
  refine ⟨⟨_, hoperation, hop⟩, ⟨_, hpurpose, hp⟩, ⟨_, hreason, hr⟩, ?_, ?_, ?_, ?_, ?_, fun _ => finalize_fingerprint _⟩
  · rcases haction with h | h
    · exact ⟨"ALLOW", by decide, by rw [ha, h]⟩
    · exact ⟨"DENY", by decide, by rw [ha, h]⟩
  · by_cases hcall : i.operation = "provider_call"
    · exact ⟨_, by decide, hna hcall⟩
    · rcases hstate hcall with h | h
      · exact ⟨_, by decide, h⟩
      · exact ⟨_, by decide, h⟩
  · intro hcall
    have hcall' : i.operation = "provider_call" := Val.str.inj (hop.symm.trans hcall)
    exact ⟨hna hcall', hnone hcall'⟩
  · intro hcall
    have hcall' : i.operation ≠ "provider_call" := fun he => hcall (by rw [hop, he])
    obtain ⟨hall, hlifecycle, hresponse⟩ := hsome hcall'
    refine ⟨hall, hlifecycle, hresponse, ?_⟩
    rcases hstate hcall' with h | h <;> rw [h] <;> simp
  · rintro ⟨x, hx, hget⟩
    have hx' : f.action = "ALLOW" := by
      obtain rfl : f.action = x := Val.str.inj (ha.symm.trans hget)
      rcases haction with h | h
      · exact h
      · rw [h] at hx
        exact absurd hx (by decide)
    obtain ⟨hset, htls, hbinding, hevent⟩ := hallow hx'
    obtain ⟨-, -, hset', hbinding', hevent', -, htls', -⟩ := g.networkRecord_transport i f c "NOT_APPLICABLE"
    simp only [allowRequires, List.forall_mem_cons, List.not_mem_nil, false_imp_iff, implies_true, hset', hbinding',
      hevent', htls', hset, hbinding, hevent, htls, ↓reduceIte, and_self]

theorem evaluateNetwork_ok [Idna] {i : NetworkInput} {r : Dict} :
    g.evaluateNetwork i = .ok r ↔
      ∃ start f b, startingLifecycle i = .ok start ∧ g.networkFindings i = .ok f ∧ g.networkBinding i f = .ok b ∧
        OutboundDecision r ∧ r = g.networkRecord i f (g.connectionView i f b) start := by
  constructor
  · intro h
    obtain ⟨start, hs, h⟩ := bind_ok.mp h
    obtain ⟨f, hf, h⟩ := bind_ok.mp h
    obtain ⟨b, hb, h⟩ := bind_ok.mp h
    obtain ⟨hv, h⟩ := seq_ok.mp h
    obtain rfl : g.networkRecord i f (g.connectionView i f b) start = r := Except.ok.inj h
    exact ⟨start, f, b, hs, hf, hb, validateOutboundDecision_ok.mp hv, rfl⟩
  · rintro ⟨start, f, b, hs, hf, hb, hv, rfl⟩
    exact bind_ok.mpr ⟨start, hs, bind_ok.mpr ⟨f, hf, bind_ok.mpr ⟨b, hb,
      seq_ok.mpr ⟨validateOutboundDecision_ok.mpr hv, rfl⟩⟩⟩⟩

/-- The epoch of a network decision is that of its evaluation. -/
theorem evaluateNetwork_epoch [Idna] {i : NetworkInput} {r : Dict} (h : g.evaluateNetwork i = .ok r) :
    r.get "invalidation_epoch" = .int g.invalidationEpoch := by
  obtain ⟨start, f, b, -, -, -, -, rfl⟩ := g.evaluateNetwork_ok.mp h
  exact (g.networkRecord_fields i f _ start).2.2.2.2.2

/-! ## Envelopes -/

theorem mem_keys_envelopeRecord {i : EnvelopeInput} {v : Val × String} {k : String} :
    k ∈ (g.envelopeRecord i v).keys ↔ k ∈ RUNTIME_INTEGRATED_REQUIRED_FIELDS := by
  rw [envelopeRecord, mem_keys_finalize, Dict.mem_keys_ofItems]
  -- the record has the same fields in another order
  have h : List.Perm ((RUNTIME_INTEGRATED_REQUIRED_FIELDS.take 23 ++
      (RUNTIME_INTEGRATED_REQUIRED_FIELDS.drop 46).take 2 ++ (RUNTIME_INTEGRATED_REQUIRED_FIELDS.drop 34).take 10 ++
      (RUNTIME_INTEGRATED_REQUIRED_FIELDS.drop 23).take 11 ++
      ["reason_class", "constraint_refs"]) ++ ["decision_fingerprint"]) RUNTIME_INTEGRATED_REQUIRED_FIELDS := by
    decide
  rw [← h.mem_iff, List.mem_append, List.mem_singleton]
  rfl

/-- The fields of an envelope that the fence reads. -/
theorem envelopeRecord_fields (i : EnvelopeInput) (v : Val × String) :
    (g.envelopeRecord i v).get "emission_mode" = .str i.emissionMode ∧
      (g.envelopeRecord i v).get "action_result" = v.1 ∧ (g.envelopeRecord i v).get "reason_class" = .str v.2 ∧
      (g.envelopeRecord i v).get "authority_manifest_fingerprint" = .str g.authorityManifestFingerprint ∧
      (g.envelopeRecord i v).get "trust_state" = i.trustDecision.getD "trust_state" (.str "UNKNOWN") ∧
      (g.envelopeRecord i v).get "capability_state" = i.capabilityDecision.getD "capability_state" (.str "MISSING") ∧
      (g.envelopeRecord i v).get "destination_binding_ref" = .str (envelopeDestination i) := by
  simp [envelopeRecord, get_finalize, Dict.get_insert, Dict.ofItems]

/-- The fields of an envelope that its binding determines. -/
theorem envelopeRecord_binding (i : EnvelopeInput) (v : Val × String) {b : RequestAuthorizationBinding}
    (h : i.authorizationBinding = some b) : ∀ kv ∈ expectedBindingFields b, (g.envelopeRecord i v).get kv.1 = kv.2 := by
  simp only [expectedBindingFields, List.forall_mem_cons, List.not_mem_nil, false_imp_iff, implies_true, and_true]
  simp [envelopeRecord, get_finalize, Dict.get_insert, Dict.ofItems, ofBinding, h]

/-- The fields of an envelope that are taken from its network decision. -/
theorem envelopeRecord_network (i : EnvelopeInput) (v : Val × String) :
    (g.envelopeRecord i v).get "network_binding_fingerprint" = i.networkField "connection_binding_fingerprint" ∧
      (g.envelopeRecord i v).get "outbound_network_decision_ref" = i.networkField "decision_id" ∧
      (g.envelopeRecord i v).get "outbound_network_decision_fingerprint" = i.networkField "decision_fingerprint" ∧
      ∀ f ∈ lifecycleProjection, (g.envelopeRecord i v).get f = i.networkField f := by
  simp only [lifecycleProjection, List.forall_mem_cons, List.not_mem_nil, false_imp_iff, implies_true, and_true]
  simp [envelopeRecord, get_finalize, Dict.get_insert, Dict.ofItems]

/-- The binding carries an external envelope: it is current and integral for
exactly the envelope's request. -/
structure Carries (i : EnvelopeInput) (b : RequestAuthorizationBinding) (query : QueryRequest) : Prop where
  binding : i.authorizationBinding = some b
  valid : b.isValid g.now g.invalidationEpoch = .ok true
  operation : b.operation = i.operation
  purpose : b.purpose = i.purpose
  version : b.policyVersion = g.policyVersion
  request : requestFromMapping i.request = some query
  integrity : b.integrityValid query = true

theorem bindingObjection_none {i : EnvelopeInput} :
    g.bindingObjection i = .ok none ↔ ∃ b query, g.Carries i b query := by
  constructor
  · intro h
    unfold bindingObjection at h
    split at h
    · cases h
    · rename_i b hb
      obtain ⟨valid, hvalid, h⟩ := bind_ok.mp h
      split at h
      · cases h
      rename_i hv
      split at h
      · cases h
      rename_i hop
      split at h
      · cases h
      rename_i hversion
      split at h
      · cases h
      · rename_i query hq
        simp only [Bool.or_eq_true, bne_iff_ne, ne_eq, not_or, not_not, Bool.not_eq_true, Bool.not_eq_false'] at hv hop hversion
        simp only [pure, Except.pure, Except.ok.injEq, ite_eq_left_iff, reduceCtorEq, imp_false, not_not] at h
        exact ⟨b, query, hb, by rw [hvalid, hv], hop.1, hop.2, hversion, hq, h⟩
  · rintro ⟨b, query, h⟩
    simp [bindingObjection, h.binding, h.valid, h.operation, h.purpose, h.version, h.request, h.integrity, pure, Except.pure]

omit g in
/-- An external envelope permits exactly over three decisions that permit. -/
theorem decided_external {i : EnvelopeInput} {v : Val × String} (hmode : i.emissionMode = "EXTERNAL") :
    (i.decided = .ok v ∧ ∃ x ∈ PERMITTING, v.1 = .str x) ↔
      ((∃ x ∈ PERMITTING, i.trustDecision.get "action_result" = .str x) ∧
        (∃ x ∈ PERMITTING, i.capabilityDecision.get "action_result" = .str x) ∧
        (∃ x ∈ PERMITTING, i.networkField "action_result" = .str x)) ∧
      v = (.str (if (i.networkField "action_result").eq (.str "ALLOW_WITH_CONSTRAINTS") ||
        (i.trustDecision.get "action_result").eq (.str "ALLOW_WITH_CONSTRAINTS") then "ALLOW_WITH_CONSTRAINTS" else "ALLOW"),
        "NONE") := by
  have hdeny : ¬ ∃ x ∈ PERMITTING, Val.str "DENY" = .str x := by simp [PERMITTING]
  constructor
  · rintro ⟨h, hp⟩
    obtain ⟨t, ht, h⟩ := bind_ok.mp h
    cases t with
    | true => cases h; exact absurd hp hdeny
    | false =>
    obtain ⟨c, hc, h⟩ := bind_ok.mp h
    cases c with
    | true =>
      cases h
      rw [Val.notIn, pyNot_ok, Bool.not_true, Val.isIn_false] at hc
      obtain ⟨x, hx, e⟩ := hp
      exact absurd e (hc.1 x hx)
    | false =>
    obtain ⟨n, hn, h⟩ := bind_ok.mp h
    cases n with
    | true => cases h; exact absurd hp hdeny
    | false =>
    have hn' : (i.networkField "action_result").notIn PERMITTING = .ok false := by
      simpa [hmode, pyAnd_ok_false] using hn
    refine ⟨⟨Val.notIn_ok_false.mp ht, Val.notIn_ok_false.mp hc, Val.notIn_ok_false.mp hn'⟩, ?_⟩
    simp only [hmode, String.reduceEq, ↓reduceIte, Bool.false_eq_true] at h
    split at h
    · rename_i ha
      rw [if_pos ha]
      exact (Except.ok.inj h).symm
    · rename_i ha
      rw [if_neg ha]
      exact (Except.ok.inj h).symm
  · rintro ⟨⟨ht, hc, hn⟩, rfl⟩
    refine ⟨?_, _, ?_, rfl⟩
    · simp only [EnvelopeInput.decided, Val.notIn_ok_false.mpr ht, Val.notIn_ok_false.mpr hc,
        Val.notIn_ok_false.mpr hn, ok_bind, Bool.false_eq_true, ↓reduceIte, hmode, beq_self_eq_true, pyAnd,
        Except.bind, String.reduceEq]
      split <;> rfl
    · split <;> simp [PERMITTING]

/-- The verdict on an external envelope permits exactly if the decisions do
and the binding carries it. -/
theorem envelopeVerdict_external {i : EnvelopeInput} {v : Val × String} (hmode : i.emissionMode = "EXTERNAL") :
    (g.envelopeVerdict i = .ok v ∧ ∃ x ∈ PERMITTING, v.1 = .str x) ↔
      (i.decided = .ok v ∧ ∃ x ∈ PERMITTING, v.1 = .str x) ∧ ∃ b query, g.Carries i b query := by
  constructor
  · rintro ⟨h, hp⟩
    obtain ⟨d, hd, h⟩ := bind_ok.mp h
    obtain ⟨p, hp', h⟩ := bind_ok.mp h
    simp only [hmode, beq_self_eq_true, pyAnd, Except.bind, ↓reduceIte] at hp'
    cases p with
    | false =>
      obtain rfl : d = v := Except.ok.inj h
      exact absurd (Val.isIn_true.mpr hp) (by rw [hp']; simp)
    | true =>
      obtain ⟨objection, ho, h⟩ := bind_ok.mp h
      cases objection with
      | some reason => cases h; simp [PERMITTING] at hp
      | none =>
        obtain rfl : d = v := Except.ok.inj h
        exact ⟨⟨hd, hp⟩, g.bindingObjection_none.mp ho⟩
  · rintro ⟨⟨hd, hp⟩, hb⟩
    refine ⟨?_, hp⟩
    simp only [envelopeVerdict, hd, ok_bind, hmode, beq_self_eq_true, pyAnd, Except.bind, ↓reduceIte,
      Val.isIn_true.mpr hp, g.bindingObjection_none.mpr hb]
    rfl

theorem buildIntegratedEnvelope_ok {i : EnvelopeInput} {r : Dict} :
    g.buildIntegratedEnvelope i = .ok r ↔
      TrustDecision i.trustDecision ∧ CapabilityDecision i.capabilityDecision ∧
        ∃ v, g.envelopeVerdict i = .ok v ∧ IntegratedEnvelope r ∧ r = g.envelopeRecord i v := by
  rw [buildIntegratedEnvelope, seq_ok, seq_ok, validateTrustDecision_ok, validateCapabilityDecision_ok]
  refine and_congr_right fun _ => and_congr_right fun _ => ?_
  constructor
  · intro h
    obtain ⟨v, hv, h⟩ := bind_ok.mp h
    obtain ⟨hvalid, h⟩ := seq_ok.mp h
    obtain rfl : g.envelopeRecord i v = r := Except.ok.inj h
    exact ⟨v, hv, validateIntegratedEnvelope_ok.mp hvalid, rfl⟩
  · rintro ⟨v, hv, hvalid, rfl⟩
    exact bind_ok.mpr ⟨v, hv, seq_ok.mpr ⟨validateIntegratedEnvelope_ok.mpr hvalid, rfl⟩⟩

/-- What a permitting external envelope was built from. -/
theorem buildIntegratedEnvelope_permits {i : EnvelopeInput} {e : Dict} (h : g.buildIntegratedEnvelope i = .ok e)
    (hmode : e.get "emission_mode" = .str "EXTERNAL") (hp : ∃ x ∈ PERMITTING, e.get "action_result" = .str x) :
    i.emissionMode = "EXTERNAL" ∧ ((∃ x ∈ PERMITTING, i.trustDecision.get "action_result" = .str x) ∧
      (∃ x ∈ PERMITTING, i.capabilityDecision.get "action_result" = .str x) ∧
      (∃ x ∈ PERMITTING, i.networkField "action_result" = .str x)) ∧
      ∃ b query, g.Carries i b query := by
  obtain ⟨-, -, v, hv, -, rfl⟩ := g.buildIntegratedEnvelope_ok.mp h
  obtain ⟨hm, ha, -⟩ := g.envelopeRecord_fields i v
  rw [hm, Val.str.injEq] at hmode
  rw [ha] at hp
  obtain ⟨hd, hb⟩ := (g.envelopeVerdict_external hmode).mp ⟨hv, hp⟩
  exact ⟨hmode, ((decided_external hmode).mp hd).1, hb⟩

/-- A permitting external envelope carries the epoch it was built in. -/
theorem buildIntegratedEnvelope_epoch {i : EnvelopeInput} {e : Dict} (h : g.buildIntegratedEnvelope i = .ok e)
    (hmode : e.get "emission_mode" = .str "EXTERNAL") (hp : ∃ x ∈ PERMITTING, e.get "action_result" = .str x) :
    e.get "invalidation_epoch" = .int g.invalidationEpoch := by
  obtain ⟨-, -, b, query, hb⟩ := g.buildIntegratedEnvelope_permits h hmode hp
  obtain ⟨-, -, v, -, -, rfl⟩ := g.buildIntegratedEnvelope_ok.mp h
  rw [g.envelopeRecord_binding i v hb.binding ("invalidation_epoch", .int b.policyEpoch) (by simp [expectedBindingFields]),
    (RequestAuthorizationBinding.isValid_true.mp hb.valid).1]

end GateDDecisionEngine

end

end Pmiri
