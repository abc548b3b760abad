import Pmiri.GateD.Constraints
import Mathlib.Order.Lattice

/-!
# The meet of the decisions

How much an action permits is one of three things in a row. An external
envelope should permit no more than each decision that it is built over, and
does so unless the capability decision alone is constrained: the builder looks
at the constraints of the other two only.
-/

namespace Pmiri

open Py

/-- How much an action permits. -/
inductive Permission where
  | forbidden
  | constrained
  | allowed
deriving DecidableEq

namespace Permission

def rank : Permission → Nat
  | forbidden => 0
  | constrained => 1
  | allowed => 2

theorem rank_injective : Function.Injective rank := by
  intro p q h
  cases p <;> cases q <;> first | rfl | cases h

instance : LinearOrder Permission := LinearOrder.lift' rank rank_injective

theorem le_iff {p q : Permission} : p ≤ q ↔ p.rank ≤ q.rank := Iff.rfl

theorem forbidden_le (p : Permission) : forbidden ≤ p := le_iff.mpr (Nat.zero_le _)

end Permission

/-- What an action permits; an action that is not known permits nothing. -/
def permission (action : Val) : Permission :=
  if action.eq (.str "ALLOW") then .allowed else if action.eq (.str "ALLOW_WITH_CONSTRAINTS") then .constrained else .forbidden

theorem permission_eq_allowed {action : Val} : permission action = .allowed ↔ action = .str "ALLOW" := by
  rw [← Val.eq_str, permission]
  cases action.eq (.str "ALLOW") <;> cases action.eq (.str "ALLOW_WITH_CONSTRAINTS") <;> simp

theorem permission_eq_constrained {action : Val} : permission action = .constrained ↔ action = .str "ALLOW_WITH_CONSTRAINTS" := by
  refine ⟨fun h => ?_, fun h => h ▸ rfl⟩
  rw [← Val.eq_str]
  rw [permission] at h
  cases hc : action.eq (.str "ALLOW_WITH_CONSTRAINTS")
  · rw [hc] at h
    cases ha : action.eq (.str "ALLOW") <;> rw [ha] at h <;> cases h
  · rfl

theorem permission_eq_forbidden {action : Val} : permission action = .forbidden ↔ ¬ ∃ x ∈ PERMITTING, action = .str x := by
  simp only [PERMITTING, List.mem_cons, List.not_mem_nil, or_false, exists_eq_or_imp, exists_eq_left, not_or]
  rw [← permission_eq_allowed, ← permission_eq_constrained]
  cases permission action <;> simp

section

variable [Runtime]

namespace EnvelopeInput

/-- The meet of what the three decisions permit. -/
def permitted (i : EnvelopeInput) : Permission :=
  permission (i.trustDecision.get "action_result") ⊓ permission (i.capabilityDecision.get "action_result") ⊓
    permission (i.networkField "action_result")

omit [Runtime] in
theorem le_permitted_iff {i : EnvelopeInput} {p : Permission} :
    p ≤ i.permitted ↔ p ≤ permission (i.trustDecision.get "action_result") ∧
      p ≤ permission (i.capabilityDecision.get "action_result") ∧ p ≤ permission (i.networkField "action_result") := by
  rw [permitted, le_inf_iff, le_inf_iff, and_assoc]

/-- The trust and the network decision allow without constraints, the capability
decision with constraints. -/
structure OnlyCapabilityConstrained (i : EnvelopeInput) : Prop where
  trust : i.trustDecision.get "action_result" = .str "ALLOW"
  capability : i.capabilityDecision.get "action_result" = .str "ALLOW_WITH_CONSTRAINTS"
  network : i.networkField "action_result" = .str "ALLOW"

end EnvelopeInput

namespace GateDDecisionEngine

variable {g : GateDDecisionEngine} {i : EnvelopeInput} {e : Dict}

/-- The action of an external envelope that permits. -/
theorem action_of_permits (h : g.buildIntegratedEnvelope i = .ok e) (hmode : i.emissionMode = "EXTERNAL")
    (hp : ∃ x ∈ PERMITTING, e.get "action_result" = .str x) :
    e.get "action_result" = .str (if (i.networkField "action_result").eq (.str "ALLOW_WITH_CONSTRAINTS") ||
      (i.trustDecision.get "action_result").eq (.str "ALLOW_WITH_CONSTRAINTS") then "ALLOW_WITH_CONSTRAINTS" else "ALLOW") := by
  obtain ⟨-, -, v, hv, -, rfl⟩ := g.buildIntegratedEnvelope_ok.mp h
  obtain ⟨-, ha, -⟩ := g.envelopeRecord_fields i v
  rw [ha] at hp ⊢
  obtain ⟨hd, -⟩ := (g.envelopeVerdict_external hmode).mp ⟨hv, hp⟩
  rw [((decided_external hmode).mp hd).2]

/-- An external envelope permits over decisions that do, if a binding carries it. -/
theorem permits_of_carries (h : g.buildIntegratedEnvelope i = .ok e) (hmode : i.emissionMode = "EXTERNAL")
    (ht : ∃ x ∈ PERMITTING, i.trustDecision.get "action_result" = .str x)
    (hc : ∃ x ∈ PERMITTING, i.capabilityDecision.get "action_result" = .str x)
    (hn : ∃ x ∈ PERMITTING, i.networkField "action_result" = .str x) (hb : ∃ b query, g.Carries i b query) :
    ∃ x ∈ PERMITTING, e.get "action_result" = .str x := by
  obtain ⟨-, -, v, hv, -, rfl⟩ := g.buildIntegratedEnvelope_ok.mp h
  obtain ⟨-, ha, -⟩ := g.envelopeRecord_fields i v
  obtain ⟨hv', hp⟩ := (g.envelopeVerdict_external hmode).mpr ⟨(decided_external hmode).mpr ⟨⟨ht, hc, hn⟩, rfl⟩, hb⟩
  obtain rfl := Except.ok.inj (hv.symm.trans hv')
  rwa [ha]

end GateDDecisionEngine

/-! ## A constrained capability decision -/

/-- A capability decision under constraints, with its fingerprint. -/
def constrainedCapability (c : Dict) : Dict :=
  let record := (c.without "decision_fingerprint").insert "action_result" (.str "ALLOW_WITH_CONSTRAINTS")
  record.insert "decision_fingerprint" (.str (sha256Json record.toVal))

theorem get_constrainedCapability {c : Dict} {key : String} (h : key ≠ "action_result") (h' : key ≠ "decision_fingerprint") :
    (constrainedCapability c).get key = c.get key := by
  simp [constrainedCapability, Dict.get_insert, Dict.without, Dict.get_filterKeys, h, h']

theorem get_constrainedCapability_action (c : Dict) :
    (constrainedCapability c).get "action_result" = .str "ALLOW_WITH_CONSTRAINTS" := by
  simp [constrainedCapability, Dict.get_insert]

theorem mem_keys_constrainedCapability {c : Dict} {key : String} :
    key ∈ (constrainedCapability c).keys ↔ key ∈ c.keys ∨ key = "action_result" ∨ key = "decision_fingerprint" := by
  rw [constrainedCapability, Dict.mem_keys_insert, Dict.mem_keys_insert, Dict.without, Dict.mem_keys_filterKeys]
  by_cases h : key = "decision_fingerprint"
  · simp [h]
  · simp [h]

/-- A fresh capability decision stays valid under constraints. -/
theorem CapabilityDecision.constrained {c : Dict} (h : CapabilityDecision c) (hfresh : c.get "capability_state" = .str "FRESH") :
    CapabilityDecision (constrainedCapability c) := by
  have hget : ∀ {key}, key ≠ "action_result" → key ≠ "decision_fingerprint" → (constrainedCapability c).get key = c.get key :=
    get_constrainedCapability
  have hstate : (constrainedCapability c).get "capability_state" = .str "FRESH" := by
    rw [hget (by decide) (by decide), hfresh]
  refine ⟨fun k => ?_, ?_, ?_, ?_, fun _ => ?_, fun f hf => ?_, ?_, ?_, ?_, ?_, ?_, ?_, ?_⟩
  · rw [mem_keys_constrainedCapability, h.keys]
    constructor
    · rintro (hk | rfl | rfl)
      · exact hk
      · decide
      · decide
    · exact .inl
  · rw [hget (by decide) (by decide)]; exact h.recordType
  · rw [hget (by decide) (by decide)]; exact h.schemaVersion
  · rw [hget (by decide) (by decide)]; exact h.observations
  · rw [hget (by decide) (by decide)]
    exact h.observed (by rw [hfresh]; simp)
  · by_cases hf' : f = "decision_fingerprint"
    · rw [hf', constrainedCapability, Dict.get_insert_self]
      exact isSha256_sha256Json _
    · rw [hget (by rintro rfl; revert hf; decide) hf']
      exact h.fingerprints f hf
  · rw [SelfFingerprint, constrainedCapability, Dict.get_insert_self, Dict.without_insert]
    rw [Dict.mem_keys_insert, Dict.without, Dict.mem_keys_filterKeys]
    simp
  · rw [hget (by decide) (by decide)]; exact h.epoch
  · rw [hget (by decide) (by decide)]; exact h.state
  · exact ⟨_, by decide, get_constrainedCapability_action c⟩
  · rw [hget (by decide) (by decide)]; exact h.reason
  · exact fun hne => absurd hstate hne
  · intro hmissing
    rw [hstate] at hmissing
    exact absurd (Val.str.inj hmissing) (by decide)

/-! ## The builder and the meet -/

/-- An external envelope is built that permits no more than each of its
decisions, unless only the capability decision is constrained and a binding
carries the envelope. -/
theorem envelope_le_permitted_iff {g : GateDDecisionEngine} {i : EnvelopeInput} {e : Dict}
    (h : g.buildIntegratedEnvelope i = .ok e) (hmode : i.emissionMode = "EXTERNAL") :
    permission (e.get "action_result") ≤ i.permitted ↔ ¬ (i.OnlyCapabilityConstrained ∧ ∃ b query, g.Carries i b query) := by
  by_cases hp : ∃ x ∈ PERMITTING, e.get "action_result" = .str x
  · have haction := GateDDecisionEngine.action_of_permits h hmode hp
    have hexternal : e.get "emission_mode" = .str "EXTERNAL" := by
      obtain ⟨-, -, v, -, -, rfl⟩ := g.buildIntegratedEnvelope_ok.mp h
      rw [(g.envelopeRecord_fields i v).1, hmode]
    obtain ⟨-, ⟨ht, hc, hn⟩, hb⟩ := g.buildIntegratedEnvelope_permits h hexternal hp
    rw [EnvelopeInput.le_permitted_iff, haction]
    simp only [PERMITTING, List.mem_cons, List.not_mem_nil, or_false, exists_eq_or_imp, exists_eq_left] at ht hc hn
    constructor
    · rintro ⟨-, hle, -⟩ ⟨hconstrained, -⟩
      rw [hconstrained.trust, hconstrained.capability, hconstrained.network] at hle
      exact absurd hle (by decide)
    · intro hnot
      have hnot : ¬ i.OnlyCapabilityConstrained := fun hconstrained => hnot ⟨hconstrained, hb⟩
      rcases ht with ht | ht <;> rcases hc with hc | hc <;> rcases hn with hn | hn
      all_goals
        rw [ht, hc, hn]
        first | decide | exact absurd ⟨ht, hc, hn⟩ hnot
  · rw [permission_eq_forbidden.mpr hp]
    refine iff_of_true (Permission.forbidden_le _) ?_
    rintro ⟨hconstrained, hb⟩
    exact hp (GateDDecisionEngine.permits_of_carries h hmode ⟨_, by decide, hconstrained.trust⟩ ⟨_, by decide, hconstrained.capability⟩
      ⟨_, by decide, hconstrained.network⟩ hb)

end

/-- A provider call under constrained capability is allowed without constraints. -/
theorem constrained_capability_allowed :
    letI := asciiRuntime
    letI : Idna := ⟨none⟩
    ∃ t c n b e, validateTrustDecision t = .ok () ∧ validateCapabilityDecision c = .ok () ∧
      (exampleEngine 0).evaluateNetwork exampleNetwork = .ok n ∧
      c.get "action_result" = .str "ALLOW_WITH_CONSTRAINTS" ∧
      (exampleEngine 0).buildIntegratedEnvelope (exampleCall t c n b) = .ok e ∧ (exampleCall t c n b).emissionMode = "EXTERNAL" ∧
      e.get "action_result" = .str "ALLOW" := by
  let := asciiRuntime
  let : Idna := ⟨none⟩
  obtain ⟨t, -, ht, hta⟩ := exampleTrust_evaluated 0 "provider_call"
  obtain ⟨c, -, hc, hca, -⟩ := exampleCapability_evaluated 0 "provider_call"
  obtain ⟨n, hn, -, -, -, -, hna, -⟩ := (exampleEngine 0).evaluateNetwork_validated exampleNetwork_validated rfl
  have hfresh : c.get "capability_state" = .str "FRESH" := by
    by_contra hstate
    exact hc.nonFresh hstate "ALLOW" (by decide) hca
  have haction := get_constrainedCapability_action c
  obtain ⟨b, e, h, he, -⟩ := exampleCall_permitted 0 ht ⟨_, by decide, hta⟩ (hc.constrained hfresh) ⟨_, by decide, haction⟩ hn
  refine ⟨t, constrainedCapability c, n, b, e, validateTrustDecision_ok.mpr ht,
    validateCapabilityDecision_ok.mpr (hc.constrained hfresh), hn, haction, h.built, rfl, ?_⟩
  rw [he, GateDDecisionEngine.jointAction, hta, hna]
  simp

/-- The call of the engine's own decisions permits what they permit. -/
theorem envelope_le_permitted_iff_example :
    letI := asciiRuntime
    letI : Idna := ⟨none⟩
    ∃ t c n b e, (exampleEngine 0).buildIntegratedEnvelope (exampleCall t c n b) = .ok e ∧
      e.get "action_result" = .str "ALLOW" ∧
      permission (e.get "action_result") ≤ (exampleCall t c n b).permitted := by
  let := asciiRuntime
  let : Idna := ⟨none⟩
  obtain ⟨t, -, ht, hta⟩ := exampleTrust_evaluated 0 "provider_call"
  obtain ⟨c, -, hc, hca, -⟩ := exampleCapability_evaluated 0 "provider_call"
  obtain ⟨n, hn, -, -, -, -, hna, -⟩ := (exampleEngine 0).evaluateNetwork_validated exampleNetwork_validated rfl
  obtain ⟨b, e, h, he, -⟩ := exampleCall_permitted 0 ht ⟨_, by decide, hta⟩ hc ⟨_, by decide, hca⟩ hn
  refine ⟨t, c, n, b, e, h.built, ?_, (envelope_le_permitted_iff h.built rfl).mpr ?_⟩
  · rw [he, GateDDecisionEngine.jointAction, hta, hna]
    simp
  · rintro ⟨hconstrained, -⟩
    have := hconstrained.capability
    rw [show (exampleCall t c n b).capabilityDecision = c from rfl, hca] at this
    exact absurd (Val.str.inj this) (by decide)

end Pmiri
