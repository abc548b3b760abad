import Pmiri.GateD.ProviderCall

/-!
# Constrained trust at the fence

The builder joins the constraints of the trust decision and of the network
decision. The fence wants the joint action on the network decision as well, and
turns away an envelope that is constrained only by trust.
-/

namespace Pmiri

open Py

section

variable [Runtime]

/-! ## A constrained trust decision -/

/-- What a constrained trust decision says of its constraints. -/
def constraintItems : List (String × Val) := [
  ("action_result", .str "ALLOW_WITH_CONSTRAINTS"),
  ("constraint_artifact_ref", .str "artifact://constraints"),
  ("redaction_profile_ref", .str "profile://redaction")]

/-- A trust decision under constraints, with its fingerprint. -/
def constrained (t : Dict) : Dict :=
  let record := constraintItems.foldl (fun d kv => d.insert kv.1 kv.2) (t.without "decision_fingerprint")
  record.insert "decision_fingerprint" (.str (sha256Json record.toVal))

theorem get_constrained {t : Dict} {key : String} (h : key ∉ constraintItems.map Prod.fst) (h' : key ≠ "decision_fingerprint") :
    (constrained t).get key = t.get key := by
  simp only [constraintItems, List.map_cons, List.map_nil, List.mem_cons, List.not_mem_nil, or_false, not_or] at h
  simp [constrained, constraintItems, Dict.get_insert, Dict.without, Dict.get_filterKeys, h, h']

theorem get_constrained_action (t : Dict) : (constrained t).get "action_result" = .str "ALLOW_WITH_CONSTRAINTS" := by
  simp [constrained, constraintItems, Dict.get_insert]

theorem mem_keys_constrained {t : Dict} {key : String} :
    key ∈ (constrained t).keys ↔ key ∈ t.keys ∨ key ∈ constraintItems.map Prod.fst ∨ key = "decision_fingerprint" := by
  rw [constrained, Dict.mem_keys_insert, Dict.mem_keys_foldl_insert, Dict.without, Dict.mem_keys_filterKeys]
  by_cases h : key = "decision_fingerprint"
  · simp [h]
  · simp [h]

/-- A trust decision that permits stays valid under constraints. -/
theorem TrustDecision.constrained {t : Dict} (h : TrustDecision t) (hpermits : ∃ x ∈ PERMITTING, t.get "action_result" = .str x) :
    TrustDecision (constrained t) := by
  have hget : ∀ {key}, key ∉ constraintItems.map Prod.fst → key ≠ "decision_fingerprint" →
      (Pmiri.constrained t).get key = t.get key := get_constrained
  refine ⟨?_, ?_, ?_, ?_, ?_, ?_, ?_, ?_, ?_, ?_, ?_, ?_, ?_, ?_, ?_, ?_⟩
  · exact fun f hf => Dict.contains_iff.mpr (mem_keys_constrained.mpr (.inl (Dict.contains_iff.mp (h.present f hf))))
  · intro k hk
    rcases mem_keys_constrained.mp hk with hk | hk | rfl
    · exact h.known k hk
    · simp only [constraintItems, List.map_cons, List.map_nil, List.mem_cons, List.not_mem_nil, or_false] at hk
      rcases hk with rfl | rfl | rfl <;> decide
    · decide
  · rw [hget (by decide) (by decide)]; exact h.recordType
  · rw [hget (by decide) (by decide)]; exact h.schemaVersion
  · rw [hget (by decide) (by decide)]; exact h.assertions
  · rw [hget (by decide) (by decide)]; exact h.authority
  · rw [hget (by decide) (by decide)]; exact h.freshness
  · rw [SelfFingerprint, Pmiri.constrained, Dict.get_insert_self, Dict.without_insert]
    rw [Dict.mem_keys_foldl_insert, Dict.without, Dict.mem_keys_filterKeys]
    simp [constraintItems]
  · rw [hget (by decide) (by decide)]; exact h.state
  · rw [hget (by decide) (by decide)]; exact h.reason
  · exact ⟨_, by decide, get_constrained_action t⟩
  · rw [hget (by decide) (by decide)]; exact h.lifecycle
  · rw [hget (by decide) (by decide)]
    obtain ⟨x, hx, e⟩ := hpermits
    exact fun hs => absurd e (h.nonTrusted hs x hx)
  · exact fun _ => get_constrained_action t
  · intro _
    simp [Pmiri.constrained, constraintItems, Dict.get_insert, Val.isNonemptyStr]
  · intro hc
    rw [hget (by decide) (by decide)]
    refine h.features (Dict.contains_iff.mpr ?_)
    rcases mem_keys_constrained.mp (Dict.contains_iff.mp hc) with hk | hk | hk
    · exact hk
    · exact absurd hk (by decide)
    · exact absurd hk (by decide)

/-- The example call is permitted under any trust and capability decisions that
permit, and carried by a binding that its service accepts. -/
theorem exampleCall_permitted [Idna] (epoch : Nat) {t c n : Dict} (ht : TrustDecision t)
    (hta : ∃ x ∈ PERMITTING, t.get "action_result" = .str x) (hc : CapabilityDecision c)
    (hca : ∃ x ∈ PERMITTING, c.get "action_result" = .str x) (hn : (exampleEngine epoch).evaluateNetwork exampleNetwork = .ok n) :
    ∃ b e, (exampleEngine epoch).Permitted (exampleCall t c n b) n e ∧
      e.get "action_result" = .str (GateDDecisionEngine.jointAction t n) ∧
      (exampleEngine epoch).Carries (exampleCall t c n b) b (exampleQuery "request") ∧
      (exampleService epoch ({} : ReplayGuard)).revalidate (exampleQuery "request") b "2026-01-01T00:00:00Z" = .ok true := by
  obtain ⟨m, hm, hvalid, -, hoperation, hpurpose, hna, -⟩ :=
    (exampleEngine epoch).evaluateNetwork_validated exampleNetwork_validated rfl
  obtain rfl : n = m := Except.ok.inj (hn.symm.trans hm)
  obtain ⟨b, -, hrevalidate, hcarries⟩ := exampleService_issues epoch
  have hb := hcarries (exampleCall t c n b) rfl rfl
  obtain ⟨e, he, haction⟩ := (exampleEngine epoch).buildIntegratedEnvelope_of_permitting
    (i := exampleCall t c n b) rfl ht hta hc hca rfl hvalid ⟨_, by decide, hna⟩ hoperation hpurpose hb
  refine ⟨b, e, ⟨rfl, hvalid, rfl, he, ⟨_, GateDDecisionEngine.jointAction_mem t n, haction⟩, hoperation, hpurpose, ?_⟩,
    haction, hb, hrevalidate⟩
  have habsent : exampleRequest.get? "destination_binding_ref" = none := by decide
  exact fun v hv => absurd (habsent.symm.trans hv) (by simp)

/-! ## The builder and the fence -/

/-- What the builder permits gets through the fence exactly if it is ready for
it: over a network decision of the engine, if trust is not constrained. -/
theorem permitted_authorized_iff [Idna] {g : GateDDecisionEngine} {i : EnvelopeInput} {n envelope : Dict}
    (h : g.Permitted i n envelope) (revalidate : Revalidator)
    (haccepting : ∀ b query, g.Carries i b query → revalidate query b g.now = .ok true) :
    (∀ lifecycle, g.authorizeEmission (GateDDecisionEngine.presented i n envelope lifecycle revalidate) = .ok () ↔
        GateDDecisionEngine.FenceReady i n lifecycle) ∧
      ∀ j, g.evaluateNetwork j = .ok n → (n.get "operation" ≠ .str "provider_call" → j.lifecycle.isSome = true) →
        (g.authorizeEmission (GateDDecisionEngine.presented i n envelope j.lifecycle revalidate) = .ok () ↔
          i.trustDecision.get "action_result" ≠ .str "ALLOW_WITH_CONSTRAINTS") := by
  have hiff : ∀ lifecycle, g.authorizeEmission (GateDDecisionEngine.presented i n envelope lifecycle revalidate) = .ok () ↔
      GateDDecisionEngine.FenceReady i n lifecycle :=
    fun lifecycle => g.authorizeEmission_ok.trans (h.fenceAccepts_iff lifecycle haccepting)
  exact ⟨hiff, fun j hj hl => (hiff _).trans (GateDDecisionEngine.fenceReady_of_evaluated hj h.fields.networkAction hl)⟩

end

/-- The builder permits a call under constrained trust, and the fence turns it away. -/
theorem constrained_call_refused :
    letI := asciiRuntime
    letI : Idna := ⟨none⟩
    ∃ t c n b e, validateTrustDecision t = .ok () ∧ validateCapabilityDecision c = .ok () ∧ validateOutboundDecision n = .ok () ∧
      (exampleEngine 0).evaluateNetwork exampleNetwork = .ok n ∧
      (exampleEngine 0).buildIntegratedEnvelope (exampleCall t c n b) = .ok e ∧
      e.get "action_result" = .str "ALLOW_WITH_CONSTRAINTS" ∧
      (exampleService 0 ({} : ReplayGuard)).revalidate (exampleQuery "request") b "2026-01-01T00:00:00Z" = .ok true ∧
      (exampleEngine 0).authorizeEmission (examplePresented 0 t c n e b) ≠ .ok () := by
  let := asciiRuntime
  let : Idna := ⟨none⟩
  obtain ⟨t, -, ht, hta⟩ := exampleTrust_evaluated 0 "provider_call"
  obtain ⟨c, -, hc, hca, -⟩ := exampleCapability_evaluated 0 "provider_call"
  obtain ⟨n, hn, hvalid, -, -, -, hna, -⟩ := (exampleEngine 0).evaluateNetwork_validated exampleNetwork_validated rfl
  have htrust : TrustDecision (constrained t) := ht.constrained ⟨_, by decide, hta⟩
  have haction := get_constrained_action t
  obtain ⟨b, e, h, he, -, hrevalidate⟩ :=
    exampleCall_permitted 0 htrust ⟨_, by decide, haction⟩ hc ⟨_, by decide, hca⟩ hn
  refine ⟨constrained t, c, n, b, e, validateTrustDecision_ok.mpr htrust, validateCapabilityDecision_ok.mpr hc,
    validateOutboundDecision_ok.mpr hvalid, hn, h.built, ?_, hrevalidate, fun haccepts => ?_⟩
  · rw [he, GateDDecisionEngine.jointAction, haction, Val.eq_refl, Bool.or_true, if_pos rfl]
  · obtain ⟨-, -, m, hm⟩ := (exampleEngine 0).authorizeEmission_ok.mp haccepts
    obtain rfl : n = m := Option.some.inj hm.network
    have hsame : e.get "action_result" = n.get "action_result" := hm.emission.same "action_result" (by simp)
    rw [he, GateDDecisionEngine.jointAction, haction, hna, Val.eq_refl, Bool.or_true, if_pos rfl] at hsame
    exact absurd (Val.str.inj hsame) (by decide)

/-- The call of the engine's own decisions passes. -/
theorem permitted_authorized_iff_example :
    letI := asciiRuntime
    letI : Idna := ⟨none⟩
    ∃ t c n b e, (exampleEngine 0).Permitted (exampleCall t c n b) n e ∧
      (exampleEngine 0).authorizeEmission (GateDDecisionEngine.presented (exampleCall t c n b) n e none
        fun _ _ _ => .ok true) = .ok () := by
  let := asciiRuntime
  let : Idna := ⟨none⟩
  obtain ⟨t, -, ht, hta⟩ := exampleTrust_evaluated 0 "provider_call"
  obtain ⟨c, -, hc, hca, -⟩ := exampleCapability_evaluated 0 "provider_call"
  obtain ⟨n, hn, -, -, hoperation, -⟩ := (exampleEngine 0).evaluateNetwork_validated exampleNetwork_validated rfl
  obtain ⟨b, e, h, -⟩ := exampleCall_permitted 0 ht ⟨_, by decide, hta⟩ hc ⟨_, by decide, hca⟩ hn
  have hiff := permitted_authorized_iff h (fun _ _ _ => .ok true) fun _ _ _ => rfl
  refine ⟨t, c, n, b, e, h, (hiff.2 exampleNetwork hn fun hne => absurd hoperation hne).mpr ?_⟩
  rw [show (exampleCall t c n b).trustDecision = t from rfl, hta]
  simp

end Pmiri
