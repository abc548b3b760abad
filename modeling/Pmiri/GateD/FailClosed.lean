import Pmiri.Decisions.Raises
import Pmiri.GateD.Fence

/-!
# When the fence raises nothing else

The fence refuses with a `ContractViolation`, and nothing else, exactly on
records that it can look up and serialize, with a binding and a revalidator
that answer.
-/

namespace Pmiri

open Py

section

variable [Runtime]

namespace GateDDecisionEngine

variable (g : GateDDecisionEngine)

/-! ## The fence -/

/-- What the fence checks of a binding before it asks the revalidator. -/
structure BindingChecked (i : EmissionInput) (b : RequestAuthorizationBinding) (query : QueryRequest)
    (revalidate : Revalidator) : Prop where
  binding : i.authorizationBinding = some b
  request : authorizationRequest i.authorizationRequest = some query
  revalidator : i.authorizationRevalidator = some revalidate
  valid : b.isValid g.now g.invalidationEpoch = .ok true
  version : b.policyVersion = g.policyVersion
  integrity : b.integrityValid query = true
  fields : ∀ kv ∈ expectedBindingFields b, (i.envelope.get kv.1).eq kv.2 = true

/-- The validity of the binding and the revalidator answer, or object with a
`ContractViolation`. -/
structure BindingAnswers (i : EmissionInput) : Prop where
  valid : ∀ b, i.authorizationBinding = some b → FailsClosed (b.isValid g.now g.invalidationEpoch)
  revalidated : ∀ b query revalidate, g.BindingChecked i b query revalidate → FailsClosed (revalidate query b g.now)

omit g in
/-- What the fence checks of the network decision before its content. -/
structure NetworkShaped (i : EmissionInput) (n : Dict) : Prop where
  network : i.networkDecision = some n
  envelopeShape : ∀ k, k ∈ i.envelope.keys ↔ k ∈ RUNTIME_INTEGRATED_REQUIRED_FIELDS
  networkShape : ∀ k, k ∈ n.keys ↔ k ∈ RUNTIME_OUTBOUND_REQUIRED_FIELDS
  connection : i.envelope.agrees "network_binding_fingerprint" n "connection_binding_fingerprint" = true
  decision : i.envelope.agrees "outbound_network_decision_ref" n "decision_id" = true
  decisionFingerprint : i.envelope.agrees "outbound_network_decision_fingerprint" n "decision_fingerprint" = true
  destination : i.envelope.agrees "destination_binding_ref" n "destination_binding_ref" = true

/-- What the fence looks up is no list or dictionary, what it serializes can be
written, and what it asks answers, as far as it gets to them. -/
structure FenceTestable (s : EmissionSerializations) (i : EmissionInput) : Prop where
  envelope : (∀ f ∈ envelopeRequired, i.envelope.contains f = true) → Testable (envelopeVocabularies i.envelope)
  trust : IntegratedEnvelope i.envelope → TrustTestable s.trust i.trustDecision
  capability : IntegratedEnvelope i.envelope → TrustDecision i.trustDecision → CapabilityTestable s.capability i.capabilityDecision
  written : IntegratedEnvelope i.envelope → TrustDecision i.trustDecision → CapabilityDecision i.capabilityDecision →
    s.envelope.Passes
  binding : IntegratedEnvelope i.envelope → g.EnvelopeAccepted i → g.BindingAnswers i
  network : IntegratedEnvelope i.envelope → g.EnvelopeAccepted i → (∃ b query revalidate, g.BindingAccepted i b query revalidate) →
    ∀ n, NetworkShaped i n → EmissionTestable s.network s.lifecycle i.envelope n i.lifecycle

theorem checkEnvelope_failsClosed {s : EmissionSerializations} {i : EmissionInput} :
    FailsClosed (g.checkEnvelope s i) ↔
      ((∀ f ∈ envelopeRequired, i.envelope.contains f = true) → Testable (envelopeVocabularies i.envelope)) ∧
      (IntegratedEnvelope i.envelope → TrustTestable s.trust i.trustDecision) ∧
      (IntegratedEnvelope i.envelope → TrustDecision i.trustDecision → CapabilityTestable s.capability i.capabilityDecision) ∧
      (IntegratedEnvelope i.envelope → TrustDecision i.trustDecision → CapabilityDecision i.capabilityDecision →
        s.envelope.Passes) := by
  simp only [checkEnvelope, onlyRaises_seq, validateIntegratedEnvelope_failsClosed, trustDecisionChecks_failsClosed,
    capabilityDecisionChecks_failsClosed, validateIntegratedEnvelope_ok, trustDecisionChecks_ok, capabilityDecisionChecks_ok,
    Serialization.failsClosed_outcome, failsClosed_raiseIf, failsClosed_raiseIfM, failsClosed_notIn, true_and]
  constructor
  · rintro ⟨henvelope, h⟩
    -- a decision that is accepted has been serialized
    have htrust : ∀ he : IntegratedEnvelope i.envelope, TrustDecision i.trustDecision → s.trust.Passes :=
      fun he ht => ((h he).1 ht.screened).1
    have hcapability : ∀ he : IntegratedEnvelope i.envelope, ∀ ht : TrustDecision i.trustDecision,
        CapabilityDecision i.capabilityDecision → s.capability.Passes :=
      fun he ht hc => (((h he).2 ⟨htrust he ht, ht⟩).1 hc.screened).1
    exact ⟨henvelope, fun he => (h he).1, fun he ht => ((h he).2 ⟨htrust he ht, ht⟩).1,
      fun he ht hc => (((h he).2 ⟨htrust he ht, ht⟩).2 ⟨hcapability he ht hc, hc⟩).1⟩
  · rintro ⟨henvelope, htrust, hcapability, hwritten⟩
    exact ⟨henvelope, fun he => ⟨htrust he, fun ht => ⟨hcapability he ht.2, fun hc => ⟨hwritten he ht.2 hc.2,
      fun _ _ _ _ _ _ => hashable_of_mem he.action⟩⟩⟩⟩

theorem checkBinding_failsClosed {i : EmissionInput} : FailsClosed (g.checkBinding i) ↔ g.BindingAnswers i := by
  rw [checkBinding]
  rcases hb : i.authorizationBinding with _ | b
  · refine ⟨fun _ => ⟨fun b h => ?_, fun b query revalidate h => ?_⟩, fun _ => onlyRaises_error.mpr rfl⟩
    · rw [hb] at h
      cases h
    · cases hb.symm.trans h.binding
  simp only [onlyRaises_seq, failsClosed_raiseIf, failsClosed_raiseIfM, onlyRaises_pyNot, raiseIf_ok, raiseIfM_ok, pyNot_ok,
    Bool.not_false, true_and, bne_eq_false_iff_eq]
  rcases hq : authorizationRequest i.authorizationRequest with _ | query
  · refine ⟨fun h => ⟨fun b' h' => ?_, fun b' query revalidate h' => ?_⟩, fun h => ⟨h.valid b hb, fun _ _ => onlyRaises_error.mpr rfl⟩⟩
    · obtain rfl : b = b' := Option.some.inj (hb.symm.trans h')
      exact h.1
    · cases hq.symm.trans h'.request
  simp only [onlyRaises_seq, failsClosed_raiseIf, raiseIf_ok, true_and, Bool.not_eq_false', List.any_eq_false, Bool.not_eq_true',
    Bool.not_eq_false]
  rcases hr : i.authorizationRevalidator with _ | revalidate
  · refine ⟨fun h => ⟨fun b' h' => ?_, fun b' query' revalidate h' => ?_⟩,
      fun h => ⟨h.valid b hb, fun _ _ _ _ => onlyRaises_error.mpr rfl⟩⟩
    · obtain rfl : b = b' := Option.some.inj (hb.symm.trans h')
      exact h.1
    · cases hr.symm.trans h'.revalidator
  simp only [failsClosed_raiseIfM, onlyRaises_pyNot]
  constructor
  · intro h
    refine ⟨fun b' h' => ?_, fun b' query' revalidate' h' => ?_⟩
    · obtain rfl : b = b' := Option.some.inj (hb.symm.trans h')
      exact h.1
    · obtain rfl : b = b' := Option.some.inj (hb.symm.trans h'.binding)
      obtain rfl : query = query' := Option.some.inj (hq.symm.trans h'.request)
      obtain rfl : revalidate = revalidate' := Option.some.inj (hr.symm.trans h'.revalidator)
      exact h.2 h'.valid h'.version h'.integrity h'.fields
  · intro h
    exact ⟨h.valid b hb, fun h₁ h₂ h₃ h₄ => h.revalidated b query revalidate ⟨hb, hq, hr, h₁, h₂, h₃, h₄⟩⟩

omit g in
theorem checkNetwork_failsClosed {s : EmissionSerializations} {i : EmissionInput} :
    FailsClosed (checkNetwork s i) ↔
      ∀ n, NetworkShaped i n → EmissionTestable s.network s.lifecycle i.envelope n i.lifecycle := by
  rw [checkNetwork]
  rcases hn : i.networkDecision with _ | n
  · refine ⟨fun _ n h => ?_, fun _ => onlyRaises_error.mpr rfl⟩
    cases hn.symm.trans h.network
  simp only [requireRuntimeRecordShape, onlyRaises_seq, failsClosed_raiseIf, raiseIf_ok, Bool.not_eq_false', Dict.keysAre_iff,
    Bool.or_eq_false_iff, externalEmissionChecks_failsClosed, true_and]
  constructor
  · intro h m hm
    obtain rfl : n = m := Option.some.inj (hn.symm.trans hm.network)
    exact h hm.envelopeShape hm.networkShape hm.connection ⟨hm.decision, hm.decisionFingerprint⟩ hm.destination
  · intro h h₁ h₂ h₃ h₄ h₅
    exact h n ⟨hn, h₁, h₂, h₃, h₄.1, h₄.2, h₅⟩

/-- The fence raises nothing but `ContractViolation` exactly on such inputs. -/
theorem fence_failsClosed {s : EmissionSerializations} {i : EmissionInput} : FailsClosed (g.fence s i) ↔ g.FenceTestable s i := by
  simp only [fence, onlyRaises_seq, g.checkEnvelope_failsClosed, g.checkBinding_failsClosed, checkNetwork_failsClosed,
    g.checkEnvelope_ok, g.checkBinding_ok]
  constructor
  · rintro ⟨⟨h₁, h₂, h₃, h₄⟩, h⟩
    have hpasses : ∀ he : IntegratedEnvelope i.envelope, g.EnvelopeAccepted i →
        s.trust.Passes ∧ s.capability.Passes ∧ s.envelope.Passes :=
      fun he ha => ⟨(h₂ he ha.trust.screened).1, (h₃ he ha.trust ha.capability.screened).1, h₄ he ha.trust ha.capability⟩
    exact ⟨h₁, h₂, h₃, h₄, fun he ha => (h ⟨hpasses he ha, he, ha⟩).1, fun he ha => (h ⟨hpasses he ha, he, ha⟩).2⟩
  · intro h
    refine ⟨⟨h.envelope, h.trust, h.capability, h.written⟩, ?_⟩
    intro haccepted
    obtain ⟨-, he, ha⟩ := haccepted
    exact ⟨h.binding he ha, h.network he ha⟩

end GateDDecisionEngine

end

end Pmiri
