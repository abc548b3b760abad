import Pmiri.Decisions.Emission
import Pmiri.Python.Raises

/-!
# What the validators raise

Besides `ContractViolation` a validator raises `TypeError`, where a field that
it looks up in a vocabulary is a list or a dictionary, and what the
serialization of a record raises. Which fields it looks up, and whether it
serializes the record, depends on the checks before.
-/

namespace Pmiri

open Py

variable {α : Type}

/-- Nothing but `ContractViolation` is raised. -/
abbrev FailsClosed (x : Except Exc α) : Prop := OnlyRaises isContractViolation x

theorem isContractViolation_contractViolation (msg : String) : isContractViolation (contractViolation msg) = true := rfl

theorem isContractViolation_typeError (msg : String) : isContractViolation (.typeError msg) = false := rfl

theorem failsClosed_raiseIf (c : Bool) (msg : String) : FailsClosed (raiseIf c (contractViolation msg)) :=
  onlyRaises_raiseIf c (isContractViolation_contractViolation msg)

theorem failsClosed_raiseIfM {c : Except Exc Bool} {msg : String} :
    FailsClosed (raiseIfM c (contractViolation msg)) ↔ FailsClosed c :=
  onlyRaises_raiseIfM (isContractViolation_contractViolation msg)

theorem failsClosed_required (record : Dict) (fields : List String) (label : String) :
    FailsClosed (required record fields label) := failsClosed_raiseIf _ _

theorem failsClosed_isIn {v : Val} {s : List String} : FailsClosed (v.isIn s) ↔ v.hashable = true :=
  onlyRaises_isIn isContractViolation_typeError

theorem failsClosed_notIn {v : Val} {s : List String} : FailsClosed (v.notIn s) ↔ v.hashable = true :=
  onlyRaises_notIn isContractViolation_typeError

theorem Serialization.failsClosed_outcome {s : Serialization} : FailsClosed s.outcome ↔ s.Passes := by
  constructor
  · intro h
    rcases hs : s.outcome with e | _
    · exact absurd (h e hs) (by rw [s.uncaught e hs]; decide)
    · exact hs
  · intro h
    rw [h]
    exact onlyRaises_ok ()

section

variable [Runtime]

/-! ## Trust decisions -/

omit [Runtime] in
/-- The checks of a trust decision that come before it is serialized. -/
structure TrustScreened (d : Dict) : Prop where
  present : ∀ f ∈ trustDecisionFields, d.contains f = true
  known : ∀ k ∈ d.keys, k ∈ trustDecisionFields ++ trustDecisionOptional
  recordType : d.get "record_type" = .str "PMIRI_D2_TRUST_DECISION"
  schemaVersion : d.get "schema_version" = .str "0.3"
  assertions : (d.get "trust_assertion_refs").isNonemptyList = true ∧ (d.get "trust_assertion_refs").isStrList = true
  authority : isSha256 (d.get "authority_manifest_fingerprint") = true
  freshness : isSha256 (d.get "freshness_profile_fingerprint") = true
  shape : isSha256 (d.get "decision_fingerprint") = true

omit [Runtime] in
/-- The vocabularies of a trust decision, in the order they are looked up. -/
def trustVocabularies (d : Dict) : List (Val × List String) := [
  (d.get "trust_state", TRUST_STATES), (d.get "reason_class", REASON_CLASSES), (d.get "action_result", ACTIONS)]

/-- A trust decision that can be serialized, and then looked up, as far as its
validator gets to that. -/
def TrustTestable (s : Serialization) (d : Dict) : Prop :=
  TrustScreened d → s.Passes ∧ (SelfFingerprint d "decision_fingerprint" → Testable (trustVocabularies d))

theorem TrustDecision.screened {d : Dict} (h : TrustDecision d) : TrustScreened d :=
  ⟨h.present, h.known, h.recordType, h.schemaVersion, h.assertions, h.authority, h.freshness, by rw [h.fingerprint]; simp⟩

theorem trustDecisionChecks_failsClosed {s : Serialization} {d : Dict} :
    FailsClosed (trustDecisionChecks s d) ↔ TrustTestable s d := by
  simp only [trustDecisionChecks, TrustTestable, onlyRaises_seq, Serialization.failsClosed_outcome, failsClosed_required, failsClosed_raiseIf, failsClosed_raiseIfM, failsClosed_notIn,
    required_ok, raiseIf_ok, raiseIfM_ok, Bool.or_eq_false_iff, Bool.not_eq_false', differs_false, Val.notIn_ok_false,
    Dict.keysWithin_iff, true_and, onlyRaises_pyAnd, failsClosed_isIn, trustVocabularies, Testable]
  constructor
  · intro h hs
    obtain ⟨hpasses, h⟩ := h hs.present ⟨⟨hs.known, hs.recordType⟩, hs.schemaVersion⟩ hs.assertions.1 hs.assertions.2
      ⟨hs.authority, hs.freshness⟩ hs.shape
    refine ⟨hpasses, fun hf => ?_⟩
    obtain ⟨hstate, h⟩ := h hpasses hf
    refine ⟨hstate, fun hstate' => ?_⟩
    obtain ⟨hreason, h⟩ := h hstate'
    exact ⟨hreason, fun hreason' => ⟨(h hreason').1, fun _ => trivial⟩⟩
  · intro h h₁ h₂ h₃ h₄ h₅ h₆
    obtain ⟨hpasses, h⟩ := h ⟨h₁, h₂.1.1, h₂.1.2, h₂.2, ⟨h₃, h₄⟩, h₅.1, h₅.2, h₆⟩
    refine ⟨hpasses, fun _ hf => ?_⟩
    obtain ⟨hstate, h⟩ := h hf
    refine ⟨hstate, fun hstate' => ?_⟩
    obtain ⟨hreason, h⟩ := h hstate'
    refine ⟨hreason, fun hreason' => ?_⟩
    obtain ⟨haction, -⟩ := h hreason'
    exact ⟨haction, fun _ _ => ⟨⟨hstate, fun _ => haction⟩, by simp⟩⟩

/-! ## Capability decisions -/

omit [Runtime] in
/-- The checks of a capability decision that come before it is serialized. -/
structure CapabilityScreened (d : Dict) : Prop where
  present : ∀ f ∈ capabilityDecisionFields, d.contains f = true
  keys : ∀ k, k ∈ d.keys ↔ k ∈ capabilityDecisionFields
  recordType : d.get "record_type" = .str "PMIRI_D2_CAPABILITY_DECISION"
  schemaVersion : d.get "schema_version" = .str "0.2"
  observations : (d.get "observation_refs").isStrList = true
  observed : d.get "capability_state" ≠ .str "MISSING" → (d.get "observation_refs").truthy = true
  fingerprints : ∀ f ∈ capabilityFingerprints, isSha256 (d.get f) = true

omit [Runtime] in
/-- The vocabularies of a capability decision, in the order they are looked up. -/
def capabilityVocabularies (d : Dict) : List (Val × List String) := [
  (d.get "capability_state", CAPABILITY_STATES), (d.get "action_result", ACTIONS), (d.get "reason_class", REASON_CLASSES)]

/-- A capability decision that can be serialized, and then looked up, as far as
its validator gets to that. -/
def CapabilityTestable (s : Serialization) (d : Dict) : Prop :=
  CapabilityScreened d → s.Passes ∧
    (SelfFingerprint d "decision_fingerprint" → (d.get "invalidation_epoch").isNatural = true → Testable (capabilityVocabularies d))

theorem CapabilityDecision.screened {d : Dict} (h : CapabilityDecision d) : CapabilityScreened d :=
  ⟨fun f hf => Dict.contains_iff.mpr ((h.keys f).mpr hf), h.keys, h.recordType, h.schemaVersion, h.observations, h.observed,
    h.fingerprints⟩

theorem capabilityDecisionChecks_failsClosed {s : Serialization} {d : Dict} :
    FailsClosed (capabilityDecisionChecks s d) ↔ CapabilityTestable s d := by
  simp only [capabilityDecisionChecks, CapabilityTestable, onlyRaises_seq, Serialization.failsClosed_outcome, failsClosed_required, failsClosed_raiseIf, failsClosed_raiseIfM, failsClosed_notIn,
    required_ok, raiseIf_ok, raiseIfM_ok, Bool.or_eq_false_iff, Bool.and_eq_false_imp, Bool.not_eq_false', differs_false, differs_true,
    Val.notIn_ok_false, Dict.keysAre_iff, List.all_eq_true, true_and, onlyRaises_pyAnd, onlyRaises_pyOr, pyOr_ok_false,
    failsClosed_isIn, capabilityVocabularies, Testable]
  constructor
  · intro h hs
    obtain ⟨hpasses, h⟩ := h hs.present ⟨⟨hs.keys, hs.recordType⟩, hs.schemaVersion⟩ hs.observations hs.observed hs.fingerprints
    refine ⟨hpasses, fun hf hepoch => ?_⟩
    obtain ⟨⟨hstate, haction⟩, h⟩ := h hpasses hf hepoch
    exact ⟨hstate, fun hstate' => ⟨haction hstate', fun haction' => ⟨(h ⟨hstate', haction'⟩).1, fun _ => trivial⟩⟩⟩
  · intro h h₁ h₂ h₃ h₄ h₅
    obtain ⟨hpasses, h⟩ := h ⟨h₁, h₂.1.1, h₂.1.2, h₂.2, h₃, h₄, h₅⟩
    refine ⟨hpasses, fun _ hf hepoch => ?_⟩
    obtain ⟨hstate, h⟩ := h hf hepoch
    refine ⟨⟨hstate, fun hstate' => (h hstate').1⟩, fun hboth => ?_⟩
    obtain ⟨haction, h⟩ := h hboth.1
    exact ⟨(h hboth.2).1, fun _ => ⟨⟨onlyRaises_ok _, fun _ => haction⟩, by simp⟩⟩

/-! ## Envelopes -/

omit [Runtime] in
/-- The vocabularies of an envelope, in the order they are looked up. -/
def envelopeVocabularies (d : Dict) : List (Val × List String) := [
  (d.get "operation", OPERATIONS), (d.get "purpose", PURPOSES), (d.get "action_result", ACTIONS),
  (d.get "reason_class", REASON_CLASSES)]

omit [Runtime] in
/-- The fields that an envelope needs before its vocabularies are looked up. -/
def envelopeRequired : List String := ["operation", "purpose", "action_result", "authority_manifest_fingerprint"]

omit [Runtime] in
theorem validateIntegratedEnvelope_failsClosed {d : Dict} :
    FailsClosed (validateIntegratedEnvelope d) ↔
      ((∀ f ∈ envelopeRequired, d.contains f = true) → Testable (envelopeVocabularies d)) := by
  simp only [validateIntegratedEnvelope, onlyRaises_seq, failsClosed_required, failsClosed_raiseIf, failsClosed_raiseIfM,
    failsClosed_notIn, required_ok, raiseIf_ok, raiseIfM_ok, Val.notIn_ok_false, true_and, onlyRaises_pyAnd, onlyRaises_pyOr,
    pyOr_ok_false, ok_bool, onlyRaises_ok, envelopeRequired, envelopeVocabularies, Testable, implies_true, and_true]
  have hreason : ((!(d.get "reason_class").isNone) = true → (d.get "reason_class").hashable = true) ↔
      (d.get "reason_class").hashable = true := by
    cases d.get "reason_class" <;> simp [Val.isNone, Val.hashable]
  constructor
  · intro h hpresent
    obtain ⟨⟨⟨hoperation, hpurpose⟩, haction⟩, h⟩ := h hpresent
    exact ⟨hoperation, fun ho => ⟨hpurpose ho, fun hp => ⟨haction ⟨ho, hp⟩, fun ha => hreason.mp (h ⟨⟨ho, hp⟩, ha⟩)⟩⟩⟩
  · intro h hpresent
    obtain ⟨hoperation, h⟩ := h hpresent
    refine ⟨⟨⟨hoperation, fun ho => (h ho).1⟩, fun hop => ((h hop.1).2 hop.2).1⟩, fun hall => ?_⟩
    exact hreason.mpr (((h hall.1.1).2 hall.1.2).2 hall.2)

/-! ## Outbound decisions -/

omit [Runtime] in
/-- The vocabularies of an outbound decision, in the order they are looked up. -/
def outboundVocabularies (d : Dict) : List (Val × List String) := [
  (d.get "operation", OPERATIONS), (d.get "purpose", PURPOSES), (d.get "reason_class", REASON_CLASSES),
  (d.get "action_result", ACTIONS), (d.get "content_lifecycle", LIFECYCLES)]

omit [Runtime] in
/-- The fields that an outbound decision needs before its vocabularies are looked up. -/
def outboundRequired : List String := ["operation", "purpose", "action_result", "content_lifecycle", "reason_class"]

omit [Runtime] in
theorem checkLifecycleProjection_failsClosed (d : Dict) : FailsClosed (checkLifecycleProjection d) := by
  rw [checkLifecycleProjection]
  split
  · simp only [onlyRaises_seq, failsClosed_required, failsClosed_raiseIf, implies_true, and_self]
  · exact failsClosed_raiseIf _ _

omit [Runtime] in
theorem checkAllow_failsClosed {d : Dict} (h : (d.get "action_result").hashable = true) : FailsClosed (checkAllow d) := by
  rw [checkAllow]
  refine onlyRaises_bind.mpr ⟨failsClosed_isIn.mpr h, fun b _ => ?_⟩
  cases b
  · exact onlyRaises_ok ()
  · exact onlyRaises_forEach fun kv _ => failsClosed_raiseIf _ _

theorem checkDecisionFingerprint_failsClosed {s : Serialization} {d : Dict} :
    FailsClosed (checkDecisionFingerprint s d) ↔ (isSha256 (d.get "decision_fingerprint") = true → s.Passes) := by
  rw [checkDecisionFingerprint]
  split <;> rename_i ht
  · simp only [onlyRaises_seq, failsClosed_raiseIf, Serialization.failsClosed_outcome, raiseIf_ok, Bool.not_eq_false', implies_true,
      and_true, true_and]
  · exact iff_of_true (onlyRaises_ok ()) fun h => absurd (isSha256_truthy h) ht

omit [Runtime] in
/-- The checks of an outbound decision that come before its fingerprint. -/
structure OutboundScreened (d : Dict) : Prop where
  operation : ∃ x ∈ OPERATIONS, d.get "operation" = .str x
  purpose : ∃ x ∈ PURPOSES, d.get "purpose" = .str x
  reason : ∃ x ∈ REASON_CLASSES, d.get "reason_class" = .str x
  action : ∃ x ∈ ACTIONS, d.get "action_result" = .str x
  lifecycle : ∃ x ∈ LIFECYCLES, d.get "content_lifecycle" = .str x
  providerCall : d.get "operation" = .str "provider_call" → d.get "content_lifecycle" = .str "NOT_APPLICABLE"
  projection : checkLifecycleProjection d = .ok ()
  allow : checkAllow d = .ok ()

theorem OutboundDecision.screened {d : Dict} (h : OutboundDecision d) : OutboundScreened d :=
  ⟨h.operation, h.purpose, h.reason, h.action, h.lifecycle, fun e => (h.providerCall e).1,
    checkLifecycleProjection_ok.mpr ⟨fun e => (h.providerCall e).2, h.content⟩,
    (checkAllow_ok (h.action.imp fun _ => And.right)).mpr h.allow⟩

omit [Runtime] in
theorem OutboundScreened.present {d : Dict} (h : OutboundScreened d) : ∀ f ∈ outboundRequired, d.contains f = true := by
  simpa only [outboundRequired, List.forall_mem_cons, List.not_mem_nil, false_imp_iff, implies_true, and_true] using
    ⟨contains_of_vocabulary h.operation, contains_of_vocabulary h.purpose, contains_of_vocabulary h.action,
      contains_of_vocabulary h.lifecycle, contains_of_vocabulary h.reason⟩

omit [Runtime] in
/-- An outbound decision that can be looked up, and serialized, as far as its
validator gets to that. -/
structure OutboundTestable (s : Serialization) (d : Dict) : Prop where
  vocabularies : (∀ f ∈ outboundRequired, d.contains f = true) → Testable (outboundVocabularies d)
  written : OutboundScreened d → isSha256 (d.get "decision_fingerprint") = true → s.Passes

theorem outboundDecisionChecks_failsClosed {s : Serialization} {d : Dict} :
    FailsClosed (outboundDecisionChecks s d) ↔ OutboundTestable s d := by
  simp only [outboundDecisionChecks, onlyRaises_seq, failsClosed_required, failsClosed_raiseIf, failsClosed_raiseIfM,
    failsClosed_notIn, required_ok, raiseIf_ok, raiseIfM_ok, Val.notIn_ok_false, true_and, onlyRaises_pyOr, pyOr_ok_false,
    checkLifecycleProjection_failsClosed, checkDecisionFingerprint_failsClosed, Bool.and_eq_false_imp, Bool.not_eq_true', differs_false]
  constructor
  · intro h
    refine ⟨fun hpresent => ?_, fun hs hf => ?_⟩
    · obtain ⟨⟨hoperation, hpurpose⟩, h⟩ := h hpresent
      refine ⟨hoperation, fun ho => ⟨hpurpose ho, fun hp => ?_⟩⟩
      obtain ⟨hreason, h⟩ := h ⟨ho, hp⟩
      exact ⟨hreason, fun hr => ⟨(h hr).1.1, fun ha => ⟨(h hr).1.2 ha, fun _ => trivial⟩⟩⟩
    · obtain ⟨-, h⟩ := h hs.present
      obtain ⟨-, h⟩ := h ⟨hs.operation, hs.purpose⟩
      obtain ⟨-, h⟩ := h hs.reason
      exact (h ⟨hs.action, hs.lifecycle⟩ hs.providerCall hs.projection).2 hs.allow hf
  · intro h hpresent
    obtain ⟨hoperation, hrest⟩ := h.vocabularies hpresent
    refine ⟨⟨hoperation, fun ho => (hrest ho).1⟩, fun hop => ?_⟩
    obtain ⟨hreason, hrest⟩ := (hrest hop.1).2 hop.2
    refine ⟨hreason, fun hr => ⟨⟨(hrest hr).1, fun ha => ((hrest hr).2 ha).1⟩, fun hal hcall hprojection => ?_⟩⟩
    refine ⟨checkAllow_failsClosed (hrest hr).1, fun hallow => ?_⟩
    exact h.written ⟨hop.1, hop.2, hr, hal.1, hal.2, hcall, hprojection, hallow⟩

/-! ## Lifecycle records -/

/-- The transitions that are reached name their reasons by something that can
be looked up. -/
def TransitionsTestable (sequence : Nat) (previous : Val × Option Int) : List Val → Prop
  | [] => True
  | t :: ts =>
    (∀ d, t.asDict = some d → (∀ k, k ∈ d.keys ↔ k ∈ transitionFields) → (d.get "sequence").eq (.int sequence) = true →
      (d.get "from_state").eq previous.1 = true → (d.get "reason_class").hashable = true) ∧
    ∀ next, checkTransition sequence previous t = .ok next → TransitionsTestable (sequence + 1) next ts

theorem checkTransition_failsClosed {sequence : Nat} {previous : Val × Option Int} {t : Val} :
    FailsClosed (checkTransition sequence previous t) ↔
      ∀ d, t.asDict = some d → (∀ k, k ∈ d.keys ↔ k ∈ transitionFields) → (d.get "sequence").eq (.int sequence) = true →
        (d.get "from_state").eq previous.1 = true → (d.get "reason_class").hashable = true := by
  rw [checkTransition]
  split
  · rename_i hnone
    simp only [hnone, reduceCtorEq, false_imp_iff, implies_true, iff_true]
    exact onlyRaises_error.mpr rfl
  · rename_i d hd
    simp only [hd, Option.some.injEq, forall_eq', onlyRaises_seq, failsClosed_raiseIf, failsClosed_raiseIfM, failsClosed_notIn, raiseIf_ok,
      Bool.or_eq_false_iff, Bool.not_eq_false', Dict.keysAre_iff, true_and]
    refine forall_congr' fun hkeys => ⟨fun h hsequence hfrom => (h ⟨hsequence, hfrom⟩).1, fun h hboth => ⟨h hboth.1 hboth.2, ?_⟩⟩
    intro _
    split
    · exact onlyRaises_error.mpr rfl
    · split
      · exact onlyRaises_error.mpr rfl
      · exact onlyRaises_seq.mpr ⟨failsClosed_raiseIf _ _, fun _ => onlyRaises_ok _⟩

theorem checkTransitions_failsClosed {sequence : Nat} {previous : Val × Option Int} {ts : List Val} :
    FailsClosed (checkTransitions sequence previous ts) ↔ TransitionsTestable sequence previous ts := by
  induction ts generalizing sequence previous with
  | nil => exact ⟨fun _ => trivial, fun _ => onlyRaises_ok _⟩
  | cons t ts ih =>
    rw [checkTransitions, TransitionsTestable, ← checkTransition_failsClosed]
    refine onlyRaises_bind.trans (and_congr_right fun _ => ?_)
    exact forall_congr' fun next => imp_congr_right fun _ => ih

theorem checkHistory_failsClosed {d : Dict} :
    FailsClosed (checkHistory d) ↔
      ∀ ts, d.get "transitions" = .list ts → TransitionsTestable 0 (.str "NOT_APPLICABLE", none) ts := by
  rw [checkHistory]
  split
  · rename_i ts hts
    simp only [hts, Val.list.injEq, forall_eq']
    rw [← checkTransitions_failsClosed]
    refine onlyRaises_bind.trans ⟨And.left, fun h => ⟨h, fun _ _ => onlyRaises_seq.mpr ⟨failsClosed_raiseIf _ _, fun _ => failsClosed_raiseIf _ _⟩⟩⟩
  · rename_i hnot
    exact ⟨fun _ ts hts => absurd hts (hnot ts), fun _ => onlyRaises_error.mpr rfl⟩

omit [Runtime] in
theorem checkProjection_failsClosed (d : Dict) : FailsClosed (checkProjection d) := by
  rw [checkProjection]
  split
  · rw [checkAdmission]
    split
    · exact onlyRaises_error.mpr rfl
    · simp only [onlyRaises_seq, failsClosed_required, failsClosed_raiseIf, implies_true, and_self]
  · exact failsClosed_raiseIf _ _

omit [Runtime] in
/-- The checks of a lifecycle record that come before its vocabularies. -/
structure LifecycleScreened (d : Dict) : Prop where
  present : ∀ f ∈ lifecycleFields, d.contains f = true
  known : ∀ k ∈ d.keys, k ∈ lifecycleFields ++ lifecycleOptional
  recordType : d.get "record_type" = .str "PMIRI_D2_FETCHED_CONTENT_LIFECYCLE"
  schemaVersion : d.get "schema_version" = .str "0.3"
  identity : ∀ f ∈ lifecycleIdentity, (d.get f).isNonemptyStr = true

omit [Runtime] in
/-- The checks of a lifecycle record that come before it is serialized. -/
structure LifecycleShaped (d : Dict) : Prop extends LifecycleScreened d where
  operation : ∃ x ∈ OPERATIONS, d.get "operation" = .str x
  purpose : ∃ x ∈ PURPOSES, d.get "purpose" = .str x
  start : d.get "history_start_state" = .str "NOT_APPLICABLE"
  terminal : ∃ x ∈ LIFECYCLES, d.get "history_terminal_state" = .str x
  admission : (d.get "admission_state").eq (d.get "history_terminal_state") = true
  response : isSha256 (d.get "response_fingerprint") = true
  terminalResponse : isSha256 (d.get "terminal_response_fingerprint") = true ∧
    (d.get "terminal_response_fingerprint").eq (d.get "response_fingerprint") = true
  authority : isSha256 (d.get "authority_manifest_fingerprint") = true
  size : (d.get "response_size_bytes").isNatural = true
  inert : (d.get "canonical_or_control_influence_prohibited").isTrue = true

/-- The checks of a lifecycle record that come before its history. -/
structure LifecycleChecked (d : Dict) : Prop extends LifecycleShaped d where
  fingerprint : SelfFingerprint d "lifecycle_fingerprint"
  projection : checkProjection d = .ok ()

/-- A lifecycle record whose vocabularies and reasons can be looked up, and
that can be serialized, as far as its validator gets to that. -/
structure LifecycleTestable (s : Serialization) (d : Dict) : Prop where
  vocabularies : LifecycleScreened d → Testable [(d.get "operation", OPERATIONS), (d.get "purpose", PURPOSES)]
  terminal : LifecycleScreened d → (∃ x ∈ OPERATIONS, d.get "operation" = .str x) → (∃ x ∈ PURPOSES, d.get "purpose" = .str x) →
    d.get "history_start_state" = .str "NOT_APPLICABLE" → (d.get "history_terminal_state").hashable = true
  written : LifecycleShaped d → s.Passes
  history : LifecycleChecked d →
    ∀ ts, d.get "transitions" = .list ts → TransitionsTestable 0 (.str "NOT_APPLICABLE", none) ts

theorem lifecycleChecks_failsClosed {s : Serialization} {d : Dict} :
    FailsClosed (lifecycleChecks s d) ↔ LifecycleTestable s d := by
  simp only [lifecycleChecks, onlyRaises_seq, Serialization.failsClosed_outcome, failsClosed_required, failsClosed_raiseIf, failsClosed_raiseIfM, failsClosed_notIn,
    required_ok, raiseIf_ok, raiseIfM_ok, Bool.or_eq_false_iff, Bool.not_eq_false', differs_false, Val.notIn_ok_false,
    Dict.keysWithin_iff, List.all_eq_true, true_and, onlyRaises_pyOr, pyOr_ok_false, onlyRaises_ok, ok_bool,
    checkProjection_failsClosed, checkHistory_failsClosed]
  constructor
  · intro h
    have hwritten : ∀ hc : LifecycleShaped d, s.Passes ∧ _ := fun hc => by
      obtain ⟨-, h⟩ := h hc.present ⟨⟨hc.known, hc.recordType⟩, hc.schemaVersion⟩ hc.identity
      obtain ⟨-, h⟩ := h ⟨hc.operation, hc.purpose⟩
      exact h ⟨hc.start, hc.terminal⟩ hc.admission ⟨⟨hc.response, hc.terminalResponse.1⟩, hc.authority⟩ hc.terminalResponse.2 hc.size
        hc.inert
    refine ⟨fun hs => ?_, fun hs ho hp hstart => ?_, fun hc => (hwritten hc).1, fun hc ts hts => ?_⟩
    · obtain ⟨⟨hoperation, hpurpose⟩, -⟩ := h hs.present ⟨⟨hs.known, hs.recordType⟩, hs.schemaVersion⟩ hs.identity
      exact ⟨hoperation, fun ho => ⟨hpurpose ho, fun _ => trivial⟩⟩
    · obtain ⟨-, h⟩ := h hs.present ⟨⟨hs.known, hs.recordType⟩, hs.schemaVersion⟩ hs.identity
      exact (h ⟨ho, hp⟩).1 hstart
    · have hf : isSha256 (d.get "lifecycle_fingerprint") = true := by rw [hc.fingerprint]; simp
      obtain ⟨hpasses, h⟩ := hwritten hc.toLifecycleShaped
      exact h hpasses ⟨hf, hc.fingerprint⟩ hc.projection ts hts
  · intro h h₁ h₂ h₃
    have hs : LifecycleScreened d := ⟨h₁, h₂.1.1, h₂.1.2, h₂.2, h₃⟩
    obtain ⟨hoperation, hrest⟩ := h.vocabularies hs
    refine ⟨⟨hoperation, fun ho => (hrest ho).1⟩, fun hknown => ?_⟩
    obtain ⟨ho, hp⟩ := hknown
    refine ⟨h.terminal hs ho hp, fun hends h₄ h₅ h₆ h₇ h₈ => ?_⟩
    obtain ⟨hstart, hterminal⟩ := hends
    have hshaped : LifecycleShaped d := ⟨hs, ho, hp, hstart, hterminal, h₄, h₅.1.1, ⟨h₅.1.2, h₆⟩, h₅.2, h₇, h₈⟩
    exact ⟨h.written hshaped, fun _ hf hprojection => h.history ⟨hshaped, hf.2, hprojection⟩⟩

/-! ## Across the records -/

theorem checkContentEmission_failsClosed {s : Serialization} {e n : Dict} {lifecycle : Option Dict} :
    FailsClosed (checkContentEmission s e n lifecycle) ↔ ∀ l, lifecycle = some l → LifecycleTestable s l := by
  cases lifecycle with
  | none =>
    simp only [reduceCtorEq, false_imp_iff, implies_true, iff_true]
    exact onlyRaises_error.mpr rfl
  | some l =>
    simp only [checkContentEmission, onlyRaises_seq, lifecycleChecks_failsClosed, failsClosed_raiseIf, Option.some.injEq, forall_eq']
    have heach : ∀ (fs : List String) (c : String → Bool) (m : String → String),
        FailsClosed (forEach fs fun f => raiseIf (c f) (contractViolation (m f))) :=
      fun fs c m => onlyRaises_forEach fun f _ => failsClosed_raiseIf _ _
    have hexact : ∀ c : String × String → Bool, ∀ m : String × String → String,
        FailsClosed (forEach exactFields fun f => raiseIf (c f) (contractViolation (m f))) :=
      fun c m => onlyRaises_forEach fun f _ => failsClosed_raiseIf _ _
    exact ⟨And.left, fun h => ⟨h, fun _ => ⟨trivial, fun _ => ⟨heach _ _ _, fun _ => ⟨trivial, fun _ => ⟨trivial, fun _ =>
      ⟨trivial, fun _ => ⟨hexact _ _, fun _ => trivial⟩⟩⟩⟩⟩⟩⟩⟩

/-- Envelope and outbound decision pass the checks that come before the lifecycle. -/
structure EmissionChecked (e n : Dict) : Prop where
  envelope : IntegratedEnvelope e
  network : OutboundDecision n
  same : ∀ f ∈ ["operation", "purpose", "action_result"], e.get f = n.get f
  connection : boundElsewhere e "network_binding_fingerprint" n "connection_binding_fingerprint" = false
  decision : boundElsewhere e "outbound_network_decision_ref" n "decision_id" = false
  fingerprint : boundElsewhere e "outbound_network_decision_fingerprint" n "decision_fingerprint" = false
  destination : e.get "destination_binding_ref" ≠ .none → n.get "destination_binding_ref" ≠ .none →
    e.agrees "destination_binding_ref" n "destination_binding_ref" = true

omit [Runtime] in
/-- An envelope permits no more than a network decision with its action. -/
theorem pyAnd_permitting_ok {e n : Dict} (hn : ∃ x ∈ ACTIONS, n.get "action_result" = .str x)
    (h : e.get "action_result" = n.get "action_result") :
    pyAnd ((e.get "action_result").isIn PERMITTING) ((n.get "action_result").notIn PERMITTING) = .ok false := by
  rw [h, pyAnd_ok_false, Val.notIn_ok_false, ← Val.isIn_true]
  obtain ⟨x, -, hx⟩ := hn
  rw [hx, Val.isIn_str]
  cases PERMITTING.contains x <;> simp

omit [Runtime] in
theorem destination_agrees {e n : Dict} :
    (!(e.get "destination_binding_ref").isNone && !(n.get "destination_binding_ref").isNone &&
        !e.agrees "destination_binding_ref" n "destination_binding_ref") = false ↔
      (e.get "destination_binding_ref" ≠ .none → n.get "destination_binding_ref" ≠ .none →
        e.agrees "destination_binding_ref" n "destination_binding_ref" = true) := by
  rw [Bool.and_eq_false_imp, Bool.and_eq_true, Bool.not_eq_true', Bool.not_eq_true', Bool.not_eq_false', ← Bool.not_eq_true,
    ← Bool.not_eq_true, Val.isNone_iff, Val.isNone_iff, and_imp]

/-- The records of an external emission can be looked up and serialized, as far
as `validateExternalEmission` gets to that. -/
structure EmissionTestable (s t : Serialization) (e n : Dict) (lifecycle : Option Dict) : Prop where
  envelope : (∀ f ∈ envelopeRequired, e.contains f = true) → Testable (envelopeVocabularies e)
  network : IntegratedEnvelope e → OutboundTestable s n
  lifecycle : EmissionChecked e n → e.get "operation" ≠ .str "provider_call" → ∀ l, lifecycle = some l → LifecycleTestable t l

theorem externalEmissionChecks_failsClosed {s t : Serialization} {e n : Dict} {lifecycle : Option Dict} :
    FailsClosed (externalEmissionChecks s t e n lifecycle) ↔ EmissionTestable s t e n lifecycle := by
  have hcontent : FailsClosed (if differs e "operation" "provider_call" then checkContentEmission t e n lifecycle else pure ()) ↔
      (e.get "operation" ≠ .str "provider_call" → ∀ l, lifecycle = some l → LifecycleTestable t l) := by
    rw [← differs_true]
    cases differs e "operation" "provider_call" with
    | true => simp [checkContentEmission_failsClosed]
    | false =>
      simp only [Bool.false_eq_true, ↓reduceIte, false_imp_iff, iff_true]
      exact onlyRaises_ok ()
  have hsame : ∀ (c : String → Bool) (m : String → String),
      FailsClosed (forEach ["operation", "purpose", "action_result"] fun f => raiseIf (c f) (contractViolation (m f))) :=
    fun c m => onlyRaises_forEach fun f _ => failsClosed_raiseIf _ _
  have hagree : IntegratedEnvelope e →
      ((∀ f ∈ ["operation", "purpose", "action_result"], (!e.agrees f n f) = false) ↔
        ∀ f ∈ ["operation", "purpose", "action_result"], e.get f = n.get f) := by
    intro h
    simp only [List.forall_mem_cons, List.not_mem_nil, false_imp_iff, implies_true, and_true, Bool.not_eq_false',
      agrees_of_vocabulary h.operation, agrees_of_vocabulary h.purpose, agrees_of_vocabulary h.action]
  have hpermit : IntegratedEnvelope e → OutboundDecision n →
      FailsClosed (pyAnd ((e.get "action_result").isIn PERMITTING) ((n.get "action_result").notIn PERMITTING)) := fun he hn =>
    onlyRaises_pyAnd.mpr ⟨failsClosed_isIn.mpr (hashable_of_mem he.action), fun _ => failsClosed_notIn.mpr (hashable_of_mem hn.action)⟩
  simp only [externalEmissionChecks, onlyRaises_seq, validateIntegratedEnvelope_failsClosed, outboundDecisionChecks_failsClosed,
    failsClosed_raiseIf, failsClosed_raiseIfM, hsame, hcontent, validateIntegratedEnvelope_ok, outboundDecisionChecks_ok, forEach_ok,
    raiseIf_ok, raiseIfM_ok, true_and]
  constructor
  · rintro ⟨henvelope, h⟩
    refine ⟨henvelope, fun he => (h he).1, fun hc => ?_⟩
    have ha : pyAnd ((e.get "action_result").isIn PERMITTING) ((n.get "action_result").notIn PERMITTING) = .ok false :=
      pyAnd_permitting_ok hc.network.action (hc.same "action_result" (by simp))
    have hwritten : (n.get "decision_fingerprint").truthy = true → s.Passes := fun ht => by
      refine (h hc.envelope).1.written hc.network.screened ?_
      rw [hc.network.fingerprint ht]
      simp [decisionFingerprint]
    refine ((h hc.envelope).2 ⟨hwritten, hc.network⟩).2 ha ((hagree hc.envelope).mpr hc.same) hc.connection hc.decision hc.fingerprint ?_
    exact destination_agrees.mpr hc.destination
  · intro h
    refine ⟨h.envelope, fun he => ⟨h.network he, fun hn => ⟨hpermit he hn.2, fun _ h₁ h₂ h₃ h₄ h₅ => ?_⟩⟩⟩
    exact h.lifecycle ⟨he, hn.2, (hagree he).mp h₁, h₂, h₃, h₄, destination_agrees.mp h₅⟩

end

end Pmiri
