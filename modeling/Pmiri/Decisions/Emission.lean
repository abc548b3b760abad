import Pmiri.Decisions.Records

/-!
# Outbound decisions, envelopes and their cross-record rules

`decisions.py`: the validators of the outbound network decision and of the
integrated envelope, and `validateExternalEmission`, which compares the two
with each other and with the lifecycle of what was fetched.
-/

namespace Pmiri

open Py

variable [Runtime]

/-- `decision_fingerprint` -/
def decisionFingerprint (record : Dict) : String :=
  sha256Json (record.filterKeys fun key => key != "decision_fingerprint" && key != "captured_at").toVal

/-! ## Outbound decisions -/

def lifecycleProjection : List String := [
  "fetched_content_lifecycle_ref", "fetched_content_lifecycle_fingerprint", "fetched_content_origin_binding_ref",
  "fetched_content_destination_binding_ref", "fetched_content_admission_state",
  "fetched_content_retrieval_visibility", "fetched_content_history_terminal_state",
  "fetched_content_terminal_response_fingerprint"]

/-- What an outbound decision that permits has to say. -/
def allowRequires : List (String × String) := [
  ("tls_identity_status", "MATCHED"),
  ("resolution_set_status", "ALL_ALLOWLISTED_PUBLIC"),
  ("connection_binding_status", "VALIDATED"),
  ("final_revalidation_result", "MATCHED")]

/-- A provider call binds no lifecycle; a content operation binds one. -/
def checkLifecycleProjection (record : Dict) : Except Exc Unit :=
  if differs record "operation" "provider_call" then do
    required record lifecycleProjection "content_operation"
    raiseIf (lifecycleProjection.any fun field => (record.get field).isNone)
      (contractViolation "content_operation_requires_lifecycle_binding")
    raiseIf (!isSha256 (record.get "fetched_content_lifecycle_fingerprint") ||
      !isSha256 (record.get "fetched_content_terminal_response_fingerprint"))
      (contractViolation "content_operation_lifecycle_fingerprint_invalid")
    raiseIf (!differs record "content_lifecycle" "NOT_APPLICABLE")
      (contractViolation "content_operation_lifecycle_not_applicable")
  else
    raiseIf (lifecycleProjection.any fun field => !(record.get field).isNone)
      (contractViolation "provider_call_lifecycle_binding_forbidden")

def checkAllow (record : Dict) : Except Exc Unit := do
  if ← (record.get "action_result").isIn PERMITTING then
    forEach allowRequires fun (key, value) =>
      raiseIf (differs record key value) (contractViolation ("allow_requires_" ++ key))

/-- The fingerprint is looked at only if it is truthy. -/
def checkDecisionFingerprint (s : Serialization) (record : Dict) : Except Exc Unit := do
  if (record.get "decision_fingerprint").truthy then
    raiseIf (!isSha256 (record.get "decision_fingerprint")) (contractViolation "decision_fingerprint_invalid")
    s.outcome
    raiseIf (differs record "decision_fingerprint" (decisionFingerprint record))
      (contractViolation "decision_fingerprint_mismatch")

/-- `validate_outbound_decision`, of a record whose other fields are serialized for its fingerprint as `s` says. -/
def outboundDecisionChecks (s : Serialization) (record : Dict) : Except Exc Unit := do
  required record ["operation", "purpose", "action_result", "content_lifecycle", "reason_class"] "outbound_decision"
  raiseIfM (pyOr ((record.get "operation").notIn OPERATIONS) ((record.get "purpose").notIn PURPOSES))
    (contractViolation "outbound_operation_or_purpose_invalid")
  raiseIfM ((record.get "reason_class").notIn REASON_CLASSES) (contractViolation "outbound_reason_class_invalid")
  raiseIfM (pyOr ((record.get "action_result").notIn ACTIONS) ((record.get "content_lifecycle").notIn LIFECYCLES))
    (contractViolation "outbound_vocabulary_invalid")
  raiseIf (!differs record "operation" "provider_call" && differs record "content_lifecycle" "NOT_APPLICABLE")
    (contractViolation "provider_call_lifecycle_must_be_not_applicable")
  checkLifecycleProjection record
  checkAllow record
  checkDecisionFingerprint s record

def validateOutboundDecision (record : Dict) : Except Exc Unit := outboundDecisionChecks .written record

/-- What `validateOutboundDecision` accepts. -/
structure OutboundDecision (d : Dict) : Prop where
  operation : ∃ x ∈ OPERATIONS, d.get "operation" = .str x
  purpose : ∃ x ∈ PURPOSES, d.get "purpose" = .str x
  reason : ∃ x ∈ REASON_CLASSES, d.get "reason_class" = .str x
  action : ∃ x ∈ ACTIONS, d.get "action_result" = .str x
  lifecycle : ∃ x ∈ LIFECYCLES, d.get "content_lifecycle" = .str x
  providerCall : d.get "operation" = .str "provider_call" →
    d.get "content_lifecycle" = .str "NOT_APPLICABLE" ∧ ∀ f ∈ lifecycleProjection, d.get f = .none
  content : d.get "operation" ≠ .str "provider_call" →
    (∀ f ∈ lifecycleProjection, d.get f ≠ .none) ∧ isSha256 (d.get "fetched_content_lifecycle_fingerprint") = true ∧
      isSha256 (d.get "fetched_content_terminal_response_fingerprint") = true ∧
      d.get "content_lifecycle" ≠ .str "NOT_APPLICABLE"
  allow : (∃ x ∈ PERMITTING, d.get "action_result" = .str x) → ∀ kv ∈ allowRequires, d.get kv.1 = .str kv.2
  fingerprint : (d.get "decision_fingerprint").truthy = true → d.get "decision_fingerprint" = .str (decisionFingerprint d)

omit [Runtime] in
theorem contains_of_vocabulary {d : Dict} {f : String} {s : List String} (h : ∃ x ∈ s, d.get f = .str x) :
    d.contains f = true :=
  let ⟨_, _, e⟩ := h
  Dict.contains_of_str e

omit [Runtime] in
theorem checkLifecycleProjection_ok {d : Dict} :
    checkLifecycleProjection d = .ok () ↔
      (d.get "operation" = .str "provider_call" → ∀ f ∈ lifecycleProjection, d.get f = .none) ∧
      (d.get "operation" ≠ .str "provider_call" →
        (∀ f ∈ lifecycleProjection, d.get f ≠ .none) ∧ isSha256 (d.get "fetched_content_lifecycle_fingerprint") = true ∧
          isSha256 (d.get "fetched_content_terminal_response_fingerprint") = true ∧
          d.get "content_lifecycle" ≠ .str "NOT_APPLICABLE") := by
  rw [checkLifecycleProjection, ← differs_true, ← differs_false]
  cases differs d "operation" "provider_call" with
  | false =>
    simp only [Bool.false_eq_true, ↓reduceIte, raiseIf_ok, List.any_eq_false, Bool.not_eq_true', Bool.not_eq_false,
      Val.isNone_iff, forall_const, false_imp_iff, and_true]
  | true =>
    simp only [↓reduceIte, seq_ok, required_ok, raiseIf_ok, List.any_eq_false, Val.isNone_iff, Bool.or_eq_false_iff,
      Bool.not_eq_false', differs_true, Bool.true_eq_false, false_imp_iff, true_and, forall_const, ne_eq, and_assoc]
    exact ⟨fun h => h.2, fun h => ⟨fun f hf => Dict.contains_of_get (h.1 f hf), h⟩⟩

omit [Runtime] in
theorem checkAllow_ok {d : Dict} (h : ∃ a, d.get "action_result" = .str a) :
    checkAllow d = .ok () ↔
      ((∃ x ∈ PERMITTING, d.get "action_result" = .str x) → ∀ kv ∈ allowRequires, d.get kv.1 = .str kv.2) := by
  obtain ⟨a, ha⟩ := h
  rw [checkAllow, ha, Val.isIn_str]
  simp only [bind, Except.bind, Val.str.injEq, exists_eq_right', List.contains_eq_mem, decide_eq_true_eq]
  split <;> rename_i hp
  · simp only [forEach_ok, raiseIf_ok, differs_false, hp, forall_const]
  · simp [hp, pure, Except.pure]

theorem checkDecisionFingerprint_ok {s : Serialization} {d : Dict} :
    checkDecisionFingerprint s d = .ok () ↔
      ((d.get "decision_fingerprint").truthy = true → s.Passes ∧ d.get "decision_fingerprint" = .str (decisionFingerprint d)) := by
  rw [checkDecisionFingerprint]
  split <;> rename_i ht
  · simp only [seq_ok, raiseIf_ok, Bool.not_eq_false', differs_false, ht, forall_const]
    exact ⟨And.right, fun h => ⟨by rw [h.2]; exact isSha256_sha256Json _, h⟩⟩
  · simp [ht, pure, Except.pure]

theorem outboundDecisionChecks_ok {s : Serialization} {d : Dict} :
    outboundDecisionChecks s d = .ok () ↔ ((d.get "decision_fingerprint").truthy = true → s.Passes) ∧ OutboundDecision d := by
  simp only [outboundDecisionChecks, seq_ok, required_ok, raiseIf_ok, raiseIfM_ok, Bool.and_eq_false_imp,
    Bool.not_eq_true', differs_false, Val.notIn_ok_false, pyOr_ok_false, checkLifecycleProjection_ok,
    checkDecisionFingerprint_ok]
  constructor
  · rintro ⟨-, ⟨h₁, h₂⟩, h₃, ⟨h₄, h₅⟩, h₆, ⟨h₇, h₈⟩, h₉, h₁₀⟩
    exact ⟨fun ht => (h₁₀ ht).1, h₁, h₂, h₃, h₄, h₅, fun e => ⟨h₆ e, h₇ e⟩, h₈, (checkAllow_ok (h₄.imp fun _ => And.right)).mp h₉,
      fun ht => (h₁₀ ht).2⟩
  · intro hboth
    obtain ⟨hs, h⟩ := hboth
    refine ⟨?_, ⟨h.operation, h.purpose⟩, h.reason, ⟨h.action, h.lifecycle⟩, fun e => (h.providerCall e).1,
      ⟨fun e => (h.providerCall e).2, h.content⟩, (checkAllow_ok (h.action.imp fun _ => And.right)).mpr h.allow,
      fun ht => ⟨hs ht, h.fingerprint ht⟩⟩
    simpa only [List.forall_mem_cons, List.not_mem_nil, false_imp_iff, implies_true, and_true] using
      ⟨contains_of_vocabulary h.operation, contains_of_vocabulary h.purpose, contains_of_vocabulary h.action,
        contains_of_vocabulary h.lifecycle, contains_of_vocabulary h.reason⟩

theorem validateOutboundDecision_ok {d : Dict} : validateOutboundDecision d = .ok () ↔ OutboundDecision d :=
  outboundDecisionChecks_ok.trans (and_iff_right fun _ => Serialization.passes_written)

/-! ## Integrated envelopes -/

def validateIntegratedEnvelope (record : Dict) : Except Exc Unit := do
  required record ["operation", "purpose", "action_result", "authority_manifest_fingerprint"] "integrated_envelope"
  raiseIfM (pyOr (pyOr ((record.get "operation").notIn OPERATIONS) ((record.get "purpose").notIn PURPOSES))
    ((record.get "action_result").notIn ACTIONS)) (contractViolation "integrated_vocabulary_invalid")
  raiseIfM (pyAnd (.ok !(record.get "reason_class").isNone) ((record.get "reason_class").notIn REASON_CLASSES))
    (contractViolation "integrated_reason_class_invalid")
  raiseIf (!isSha256 (record.get "authority_manifest_fingerprint")) (contractViolation "authority_fingerprint_invalid")
  raiseIf (!differs record "operation" "provider_call" && (record.get "fetched_content_lifecycle_ref").truthy)
    (contractViolation "provider_call_cannot_bind_fetched_content")

/-- What `validateIntegratedEnvelope` accepts. -/
structure IntegratedEnvelope (d : Dict) : Prop where
  operation : ∃ x ∈ OPERATIONS, d.get "operation" = .str x
  purpose : ∃ x ∈ PURPOSES, d.get "purpose" = .str x
  action : ∃ x ∈ ACTIONS, d.get "action_result" = .str x
  reason : d.get "reason_class" = .none ∨ ∃ x ∈ REASON_CLASSES, d.get "reason_class" = .str x
  authority : isSha256 (d.get "authority_manifest_fingerprint") = true
  providerCall : d.get "operation" = .str "provider_call" → (d.get "fetched_content_lifecycle_ref").truthy = false

omit [Runtime] in
theorem validateIntegratedEnvelope_ok {d : Dict} : validateIntegratedEnvelope d = .ok () ↔ IntegratedEnvelope d := by
  simp only [validateIntegratedEnvelope, seq_ok, required_ok, raiseIf_ok, raiseIfM_ok, Bool.and_eq_false_imp,
    Bool.not_eq_true', Bool.not_eq_false', differs_false, Val.notIn_ok_false, pyOr_ok_false, pyAnd_ok_false, ok_bool,
    Bool.not_eq_true', Val.isNone_iff]
  constructor
  · rintro ⟨-, ⟨⟨h₁, h₂⟩, h₃⟩, h₄, h₅, h₆⟩
    exact ⟨h₁, h₂, h₃, h₄.imp_right And.right, h₅, h₆⟩
  · intro h
    have hr : d.get "reason_class" = .none ∨
        (d.get "reason_class").isNone = false ∧ ∃ x ∈ REASON_CLASSES, d.get "reason_class" = .str x := by
      apply h.reason.imp_right
      intro hmem
      obtain ⟨x, hx, e⟩ := hmem
      rw [e]
      exact ⟨rfl, x, hx, rfl⟩
    refine ⟨?_, ⟨⟨h.operation, h.purpose⟩, h.action⟩, hr, h.authority, h.providerCall⟩
    obtain ⟨a, ha, -⟩ := isSha256_str h.authority
    simpa only [List.forall_mem_cons, List.not_mem_nil, false_imp_iff, implies_true, and_true] using
      ⟨contains_of_vocabulary h.operation, contains_of_vocabulary h.purpose, contains_of_vocabulary h.action,
        Dict.contains_of_str ha⟩

/-! ## Across the records -/

/-- The fields of the lifecycle that both other records project. -/
def exactFields : List (String × String) := [
  ("fetched_content_origin_binding_ref", "origin_binding_ref"),
  ("fetched_content_destination_binding_ref", "destination_binding_ref"),
  ("fetched_content_admission_state", "admission_state"),
  ("fetched_content_retrieval_visibility", "retrieval_visibility"),
  ("fetched_content_history_terminal_state", "history_terminal_state"),
  ("fetched_content_terminal_response_fingerprint", "terminal_response_fingerprint")]

/-- The rules for an operation that fetches content. -/
def checkContentEmission (s : Serialization) (envelope network : Dict) (lifecycle : Option Dict) : Except Exc Unit :=
  match lifecycle with
  | none => .error (contractViolation "lifecycle_required_for_content_operation")
  | some l => do
    lifecycleChecks s l
    let lifecycleFingerprint := l.getD "lifecycle_fingerprint" (l.get "fingerprint")
    raiseIf (!lifecycleFingerprint.isStr) (contractViolation "lifecycle_fingerprint_missing")
    forEach ["operation", "purpose"] fun field =>
      raiseIf (!l.agrees field envelope field || !l.agrees field network field)
        (contractViolation ("lifecycle_" ++ field ++ "_mismatch"))
    raiseIf (!network.agrees "destination_binding_ref" envelope "destination_binding_ref")
      (contractViolation "destination_binding_mismatch")
    raiseIf (!network.agrees "fetched_content_lifecycle_ref" envelope "fetched_content_lifecycle_ref")
      (contractViolation "lifecycle_ref_mismatch")
    raiseIf (!(network.get "fetched_content_lifecycle_fingerprint").eq lifecycleFingerprint ||
      !(envelope.get "fetched_content_lifecycle_fingerprint").eq lifecycleFingerprint)
      (contractViolation "lifecycle_fingerprint_mismatch")
    forEach exactFields fun (projectionField, lifecycleField) =>
      raiseIf (!network.agrees projectionField l lifecycleField || !envelope.agrees projectionField l lifecycleField)
        (contractViolation ("lifecycle_" ++ lifecycleField ++ "_mismatch"))
    raiseIf (!l.agrees "terminal_response_fingerprint" l "response_fingerprint")
      (contractViolation "lifecycle_terminal_response_mismatch")

/-- `a is not None and a != b`, for two fields. -/
def boundElsewhere (a : Dict) (k : String) (b : Dict) (l : String) : Bool := !(a.get k).isNone && !a.agrees k b l

/-- `validate_external_emission`, of a network decision and a lifecycle record that are serialized as `s` and `t` say. -/
def externalEmissionChecks (s t : Serialization) (envelope network : Dict) (lifecycle : Option Dict) : Except Exc Unit := do
  validateIntegratedEnvelope envelope
  outboundDecisionChecks s network
  raiseIfM (pyAnd ((envelope.get "action_result").isIn PERMITTING) ((network.get "action_result").notIn PERMITTING))
    (contractViolation "integrated_allow_without_network_allow")
  forEach ["operation", "purpose", "action_result"] fun field =>
    raiseIf (!envelope.agrees field network field) (contractViolation ("cross_record_" ++ field ++ "_mismatch"))
  raiseIf (boundElsewhere envelope "network_binding_fingerprint" network "connection_binding_fingerprint")
    (contractViolation "network_binding_fingerprint_mismatch")
  raiseIf (boundElsewhere envelope "outbound_network_decision_ref" network "decision_id")
    (contractViolation "outbound_network_decision_binding_mismatch")
  raiseIf (boundElsewhere envelope "outbound_network_decision_fingerprint" network "decision_fingerprint")
    (contractViolation "outbound_network_decision_binding_mismatch")
  raiseIf (!(envelope.get "destination_binding_ref").isNone && !(network.get "destination_binding_ref").isNone &&
    !envelope.agrees "destination_binding_ref" network "destination_binding_ref")
    (contractViolation "destination_binding_mismatch")
  if differs envelope "operation" "provider_call" then checkContentEmission t envelope network lifecycle

def validateExternalEmission (envelope network : Dict) (lifecycle : Option Dict) : Except Exc Unit :=
  externalEmissionChecks .written .written envelope network lifecycle

/-- The lifecycle that a content operation's envelope and outbound decision
are bound to. -/
structure ContentBound (envelope network lifecycle : Dict) : Prop where
  valid : Lifecycle lifecycle
  operation : ∀ d ∈ [network, envelope], d.get "operation" = lifecycle.get "operation"
  purpose : ∀ d ∈ [network, envelope], d.get "purpose" = lifecycle.get "purpose"
  destination : network.agrees "destination_binding_ref" envelope "destination_binding_ref" = true
  ref : network.agrees "fetched_content_lifecycle_ref" envelope "fetched_content_lifecycle_ref" = true
  fingerprint : ∀ d ∈ [network, envelope],
    d.get "fetched_content_lifecycle_fingerprint" = lifecycle.get "lifecycle_fingerprint"
  projection : ∀ d ∈ [network, envelope], ∀ f ∈ exactFields, d.agrees f.1 lifecycle f.2 = true

/-- What `validateExternalEmission` accepts. -/
structure ExternalEmission (e n : Dict) (lifecycle : Option Dict) : Prop where
  envelope : IntegratedEnvelope e
  network : OutboundDecision n
  same : ∀ f ∈ ["operation", "purpose", "action_result"], e.get f = n.get f
  connection : boundElsewhere e "network_binding_fingerprint" n "connection_binding_fingerprint" = false
  decision : boundElsewhere e "outbound_network_decision_ref" n "decision_id" = false
  fingerprint : boundElsewhere e "outbound_network_decision_fingerprint" n "decision_fingerprint" = false
  destination : e.get "destination_binding_ref" ≠ .none → n.get "destination_binding_ref" ≠ .none →
    e.agrees "destination_binding_ref" n "destination_binding_ref" = true
  content : e.get "operation" ≠ .str "provider_call" → ∃ l, lifecycle = some l ∧ ContentBound e n l

omit [Runtime] in
theorem agrees_of_vocabulary {a b : Dict} {f : String} {s : List String} (h : ∃ x ∈ s, a.get f = .str x) :
    a.agrees f b f = true ↔ a.get f = b.get f := by
  obtain ⟨x, -, e⟩ := h
  rw [Dict.agrees, e, Val.str_eq, eq_comm]

theorem Lifecycle.getD_fingerprint {l : Dict} (h : Lifecycle l) (v : Val) :
    l.getD "lifecycle_fingerprint" v = l.get "lifecycle_fingerprint" :=
  Dict.getD_of_contains v (Dict.contains_of_str h.fingerprint)

theorem Lifecycle.eq_fingerprint {l : Dict} (h : Lifecycle l) {v : Val} :
    v.eq (l.get "lifecycle_fingerprint") = true ↔ v = l.get "lifecycle_fingerprint" := by
  rw [h.fingerprint, Val.eq_str]

theorem checkContentEmission_ok {e n : Dict} {lifecycle : Option Dict} :
    checkContentEmission .written e n lifecycle = .ok () ↔ ∃ l, lifecycle = some l ∧ ContentBound e n l := by
  cases lifecycle with
  | none => simp [checkContentEmission]
  | some l =>
    simp only [checkContentEmission, seq_ok, raiseIf_ok, lifecycleChecks_ok, Serialization.passes_written, true_and,
      Bool.not_eq_false', Bool.or_eq_false_iff, forEach_ok, Option.some.injEq, exists_eq_left']
    constructor
    · rintro ⟨h₁, -, h₃, h₄, h₅, ⟨h₆, h₇⟩, h₈, -⟩
      rw [h₁.getD_fingerprint, h₁.eq_fingerprint] at h₆ h₇
      obtain ⟨ho, hp⟩ : (l.agrees "operation" e "operation" = true ∧ l.agrees "operation" n "operation" = true) ∧
          l.agrees "purpose" e "purpose" = true ∧ l.agrees "purpose" n "purpose" = true := by
        simpa only [List.forall_mem_cons, List.not_mem_nil, false_imp_iff, implies_true, and_true] using h₃
      rw [agrees_of_vocabulary h₁.operation, agrees_of_vocabulary h₁.operation] at ho
      rw [agrees_of_vocabulary h₁.purpose, agrees_of_vocabulary h₁.purpose] at hp
      refine ⟨h₁, by simpa using ⟨ho.2.symm, ho.1.symm⟩, by simpa using ⟨hp.2.symm, hp.1.symm⟩, h₄, h₅,
        by simpa using ⟨h₆, h₇⟩, ?_⟩
      simpa using ⟨fun a b h => (h₈ (a, b) h).1, fun a b h => (h₈ (a, b) h).2⟩
    · intro h
      have hv := h.valid
      have hs : (l.get "lifecycle_fingerprint").isStr = true := by rw [hv.fingerprint]; rfl
      have hn : n ∈ [n, e] := by simp
      have he : e ∈ [n, e] := by simp
      refine ⟨hv, by rw [hv.getD_fingerprint]; exact hs, ?_, h.destination, h.ref, ?_, fun f hf =>
        ⟨h.projection n hn f hf, h.projection e he f hf⟩, ?_⟩
      · simp only [List.forall_mem_cons, List.not_mem_nil, false_imp_iff, implies_true, and_true,
          agrees_of_vocabulary hv.operation, agrees_of_vocabulary hv.purpose]
        exact ⟨⟨(h.operation e he).symm, (h.operation n hn).symm⟩, (h.purpose e he).symm, (h.purpose n hn).symm⟩
      · rw [hv.getD_fingerprint, hv.eq_fingerprint, hv.eq_fingerprint]
        exact ⟨h.fingerprint n hn, h.fingerprint e he⟩
      · rw [Dict.agrees, hv.terminalResponse, Val.eq_refl]

theorem validateExternalEmission_ok {e n : Dict} {lifecycle : Option Dict} :
    validateExternalEmission e n lifecycle = .ok () ↔ ExternalEmission e n lifecycle := by
  have hcontent : (if differs e "operation" "provider_call" then checkContentEmission .written e n lifecycle else pure ()) =
      .ok () ↔ (e.get "operation" ≠ .str "provider_call" → ∃ l, lifecycle = some l ∧ ContentBound e n l) := by
    rw [← differs_true]
    cases differs e "operation" "provider_call" with
    | true => simp [checkContentEmission_ok]
    | false => simp [pure, Except.pure]
  simp only [validateExternalEmission, externalEmissionChecks, seq_ok, raiseIf_ok, raiseIfM_ok, validateIntegratedEnvelope_ok,
    outboundDecisionChecks_ok, Serialization.passes_written, implies_true, true_and, forEach_ok, Bool.not_eq_false', Bool.and_eq_false_imp, hcontent]
  have hsame : IntegratedEnvelope e →
      ((∀ f ∈ ["operation", "purpose", "action_result"], e.agrees f n f = true) ↔
        ∀ f ∈ ["operation", "purpose", "action_result"], e.get f = n.get f) := by
    intro h
    simp only [List.forall_mem_cons, List.not_mem_nil, false_imp_iff, implies_true, and_true,
      agrees_of_vocabulary h.operation, agrees_of_vocabulary h.purpose, agrees_of_vocabulary h.action]
  constructor
  · rintro ⟨h₁, h₂, h₃, h₄, h₅, h₆, h₇, h₈, h₉⟩
    have hn : ∀ v : Val, v.isNone = false ↔ v ≠ .none := fun v => by rw [← Bool.not_eq_true, Val.isNone_iff]
    refine ⟨h₁, h₂, (hsame h₁).mp h₄, h₅, h₆, h₇, fun he hn' => ?_, h₉⟩
    exact h₈ (by simp [(hn _).mpr he, (hn _).mpr hn'])
  · intro h
    have ha : pyAnd ((e.get "action_result").isIn PERMITTING) ((n.get "action_result").notIn PERMITTING) = .ok false := by
      rw [h.same "action_result" (by simp), pyAnd_ok_false, Val.notIn_ok_false, ← Val.isIn_true]
      obtain ⟨x, -, hx⟩ := h.network.action
      rw [hx, Val.isIn_str]
      cases PERMITTING.contains x <;> simp
    refine ⟨h.envelope, h.network, ha, (hsame h.envelope).mpr h.same, h.connection, h.decision, h.fingerprint, ?_, h.content⟩
    intro hs
    simp only [Bool.and_eq_true, Bool.not_eq_true', ← Bool.not_eq_true, Val.isNone_iff] at hs
    exact h.destination hs.1 hs.2

end Pmiri
