import Pmiri.GateD.Observation
import Pmiri.Network.Builder

/-!
# The decision engine

`gate_d.py`: the engine that evaluates trust, capability and network
observations at its own time and policy epoch. What it returns is a record
like any other: nothing but its fields ties it to the evaluation it came from.
-/

namespace Pmiri

open Py

structure FreshnessProfile where
  profileId : String
  algorithmVersion : String
  validForSeconds : Int
deriving DecidableEq

def FreshnessProfile.fingerprint [Runtime] (p : FreshnessProfile) : String :=
  sha256Json (Dict.ofItems [
    ("profile_id", .str p.profileId),
    ("algorithm_version", .str p.algorithmVersion),
    ("valid_for_seconds", .int p.validForSeconds)]).toVal

/-- An engine. Its policy epoch is its own, or that of the store it was given. -/
structure GateDDecisionEngine where
  authorityManifestFingerprint : String
  authority_valid : isHex 64 authorityManifestFingerprint = true
  freshnessProfile : FreshnessProfile := ⟨"pmiri-local-0.1", "0.1", 300⟩
  policyVersion : String := "local-policy-0.1"
  now : String
  networkExecutionEnabled : Bool := false
  policyEpochStore : Option Nat := none
  epoch : Nat := 0

namespace GateDDecisionEngine

def invalidationEpoch (g : GateDDecisionEngine) : Nat := g.policyEpochStore.getD g.epoch

/-- "Invalidate all previously compiled decisions before emission." -/
def invalidate (g : GateDDecisionEngine) : GateDDecisionEngine :=
  match g.policyEpochStore with
  | some current => { g with policyEpochStore := some (current + 1) }
  | none => { g with epoch := g.epoch + 1 }

@[simp] theorem invalidationEpoch_invalidate (g : GateDDecisionEngine) :
    g.invalidate.invalidationEpoch = g.invalidationEpoch + 1 := by
  rcases h : g.policyEpochStore with _ | n <;> simp [invalidate, invalidationEpoch, h]

/-- What `invalidate` leaves as it is. -/
theorem invalidate_settings (g : GateDDecisionEngine) :
    g.invalidate.now = g.now ∧ g.invalidate.policyVersion = g.policyVersion ∧
      g.invalidate.authorityManifestFingerprint = g.authorityManifestFingerprint ∧
      g.invalidate.freshnessProfile = g.freshnessProfile ∧
      g.invalidate.networkExecutionEnabled = g.networkExecutionEnabled := by
  rcases h : g.policyEpochStore with _ | n <;> simp [invalidate, h]

end GateDDecisionEngine

/-- `list(dict.fromkeys(l))` -/
def dictFromKeys (l : List String) : List String := Keyed.firsts id l

section Builders

variable [Runtime]

/-- `_finalize` -/
def finalize (record : Dict) : Dict := record.insert "decision_fingerprint" (.str (decisionFingerprint record))

/-- `str(item.get(key) or _ref(kind, item))` -/
def refOf (item : Dict) (key kind : String) : String :=
  if (item.get key).truthy then (item.get key).toStr else ref kind item.toVal

/-- `_reason_class` -/
def reasonClass (value fallback : String) : String := if REASON_CLASSES.contains value then value else fallback

/-- `_ref("validity", {"now": …, "epoch": …})` -/
def validityRef (now : String) (epoch : Nat) : String :=
  ref "validity" (Dict.ofItems [("now", .str now), ("epoch", .int epoch)]).toVal

/-- A finalized record fingerprints what was finalized. -/
theorem decisionFingerprint_finalize (record : Dict) : decisionFingerprint (finalize record) = decisionFingerprint record := by
  rw [decisionFingerprint, finalize, Dict.filterKeys_insert (by simp)]
  rfl

theorem finalize_fingerprint (record : Dict) :
    (finalize record).get "decision_fingerprint" = .str (decisionFingerprint (finalize record)) := by
  rw [decisionFingerprint_finalize, finalize, Dict.get_insert_self]

theorem get_finalize (record : Dict) {key : String} (h : key ≠ "decision_fingerprint") :
    (finalize record).get key = record.get key := by
  rw [finalize, Dict.get_insert, if_neg h]

theorem mem_keys_finalize {record : Dict} {key : String} :
    key ∈ (finalize record).keys ↔ key ∈ record.keys ∨ key = "decision_fingerprint" := Dict.mem_keys_insert

/-- The fingerprint is that of all other fields where none of them is a capture time. -/
theorem selfFingerprint_finalize {record : Dict} (h : "captured_at" ∉ record.keys) :
    SelfFingerprint (finalize record) "decision_fingerprint" := by
  rw [SelfFingerprint, finalize, Dict.get_insert_self, Dict.without, Dict.filterKeys_insert (by simp),
    decisionFingerprint]
  congr 3
  exact Dict.filterKeys_eq rfl fun k hk => by
    have : k ≠ "captured_at" := fun e => h (e ▸ hk)
    simp [this]

theorem refOf_ne_empty {item : Dict} {key kind : String} (h : kind ≠ "") : refOf item key kind ≠ "" := by
  rw [refOf]
  split
  · exact Val.toStr_ne_empty ‹_›
  · exact ref_ne_empty h _

namespace GateDDecisionEngine

variable (g : GateDDecisionEngine)

/-! ## Trust -/

structure TrustInput where
  subject : Dict
  purpose : String
  materialClass : String
  feature : Option String
  zone : String
  assertions : List Dict
  destinationBindingRef : String := "binding://destination"
  materialManifestRef : String := "material://request"
  capabilityDecisionRef : String := "decision://capability/pending"

/-- The assertion is for what is asked. -/
def inScope (i : TrustInput) (item : Dict) : Except Exc Bool :=
  pyAnd (.ok !differs item "purpose" i.purpose) <|
  pyAnd ((item.getD "allowed_material_classes" (.list [])).containsStr i.materialClass) <|
  pyAnd ((item.getD "allowed_zones" (.list [])).containsStr i.zone) <|
    match i.feature with
    | none => .ok true
    | some feature =>
      if !(item.get "allowed_features").truthy then .ok true
      else (item.getD "allowed_features" (.list [])).containsStr feature

/-- Trust state, action and reason. -/
def trustVerdict (i : TrustInput) : Except Exc (String × String × String) := do
  let exactSubject := i.assertions.filter fun item => (item.get "subject").eq i.subject.toVal
  let assertionsInScope ← exactSubject.filterM (inScope i)
  let revoked ← exactSubject.filterM fun item => (item.get "status").isIn ["REVOKED", "CONTRADICTED", "INVALID"]
  if !revoked.isEmpty then return ("REVOKED", "DENY", "AUTHORITY_CONFLICT")
  else if exactSubject.isEmpty then return ("UNKNOWN", "DENY", "AUTHORITY_MISSING")
  else if assertionsInScope.isEmpty then return ("UNTRUSTED", "DENY", "SCOPE_MISMATCH")
  else if !(← assertionsInScope.anyM fun item => pyAnd (.ok !differs item "status" "ACTIVE") (freshWindow item g.now)) then
    return ("EXPIRED", "DENY", "POLICY_STALE")
  else if ← assertionsInScope.anyM fun item => pyNot
      ((item.get "authority_manifest_fingerprint").inSet [.none, .str g.authorityManifestFingerprint]) then
    return ("INVALID", "DENY", "MATERIAL_FINGERPRINT_MISMATCH")
  else return ("TRUSTED_FOR_BOUND_PURPOSE", "ALLOW", "NONE")

/-- The references of the assertions, never none. -/
def assertionRefs (i : TrustInput) : List String :=
  let refs := i.assertions.map fun item => refOf item "trust_assertion_id" "assertion"
  let subjectAndPurpose := (Dict.ofItems [("subject", i.subject.toVal), ("purpose", .str i.purpose)]).toVal
  if refs.isEmpty then [ref "assertion" subjectAndPurpose] else refs

/-- The fields every trust decision has. -/
def trustFields (i : TrustInput) (verdict : String × String × String) : Dict :=
  .ofItems [
    ("record_type", .str "PMIRI_D2_TRUST_DECISION"),
    ("schema_version", .str "0.3"),
    ("decision_id", .str (ref "decision" (Dict.ofItems [
      ("kind", .str "trust"), ("subject", i.subject.toVal), ("purpose", .str i.purpose)]).toVal)),
    ("destination_binding_ref", .str i.destinationBindingRef),
    ("purpose_binding_ref", .str (ref "purpose" (Dict.ofItems [("purpose", .str i.purpose)]).toVal)),
    ("material_manifest_ref", .str i.materialManifestRef),
    ("trust_assertion_refs", strList (assertionRefs i)),
    ("capability_decision_ref", .str i.capabilityDecisionRef),
    ("authority_manifest_fingerprint", .str g.authorityManifestFingerprint),
    ("freshness_profile_id", .str g.freshnessProfile.profileId),
    ("freshness_profile_fingerprint", .str g.freshnessProfile.fingerprint),
    ("validity_ref", .str (validityRef g.now g.invalidationEpoch)),
    ("trust_state", .str verdict.1),
    ("action_result", .str verdict.2.1),
    ("content_lifecycle", .str "NOT_APPLICABLE"),
    ("reason_class", .str verdict.2.2)]

/-- `[feature] if feature else []` -/
def allowedFeatures (i : TrustInput) : List String :=
  match i.feature with
  | some feature => if feature = "" then [] else [feature]
  | none => []

def trustRecord (i : TrustInput) (verdict : String × String × String) : Dict :=
  finalize <|
    if verdict.2.1 = "ALLOW" then
      (g.trustFields i verdict).insert "allowed_feature_refs" (strList (allowedFeatures i))
    else g.trustFields i verdict

/-- The verdicts `trustVerdict` can reach. -/
def trustVerdicts : List (String × String × String) := [
  ("REVOKED", "DENY", "AUTHORITY_CONFLICT"), ("UNKNOWN", "DENY", "AUTHORITY_MISSING"),
  ("UNTRUSTED", "DENY", "SCOPE_MISMATCH"), ("EXPIRED", "DENY", "POLICY_STALE"),
  ("INVALID", "DENY", "MATERIAL_FINGERPRINT_MISMATCH"), ("TRUSTED_FOR_BOUND_PURPOSE", "ALLOW", "NONE")]

def evaluateTrust (i : TrustInput) : Except Exc Dict := do
  let record := g.trustRecord i (← g.trustVerdict i)
  validateTrustDecision record
  return record

theorem trustVerdict_mem {i : TrustInput} {v : String × String × String} (h : g.trustVerdict i = .ok v) :
    v ∈ trustVerdicts := by
  obtain ⟨inScope, -, h⟩ := bind_ok.mp h
  obtain ⟨revoked, -, h⟩ := bind_ok.mp h
  split at h
  · cases h; decide
  split at h
  · cases h; decide
  split at h
  · cases h; decide
  obtain ⟨fresh, -, h⟩ := bind_ok.mp h
  split at h
  · cases h; decide
  obtain ⟨foreign, -, h⟩ := bind_ok.mp h
  split at h
  · cases h; decide
  · cases h; decide

theorem assertionRefs_ne_nil (i : TrustInput) : assertionRefs i ≠ [] := by
  simp only [assertionRefs]
  split <;> rename_i h
  · simp
  · exact fun e => h (by rw [e]; rfl)

theorem ne_empty_of_mem_assertionRefs {i : TrustInput} {r : String} (h : r ∈ assertionRefs i) : r ≠ "" := by
  simp only [assertionRefs] at h
  split at h
  · rw [List.mem_singleton.mp h]
    exact ref_ne_empty (by decide) _
  · obtain ⟨item, -, rfl⟩ := List.mem_map.mp h
    exact refOf_ne_empty (by decide)

theorem get_trustRecord {i : TrustInput} {v : String × String × String} {key : String}
    (h : key ≠ "allowed_feature_refs") (h' : key ≠ "decision_fingerprint") :
    (g.trustRecord i v).get key = (g.trustFields i v).get key := by
  rw [trustRecord, get_finalize _ h']
  split
  · rw [Dict.get_insert, if_neg h]
  · rfl

theorem mem_keys_trustRecord {i : TrustInput} {v : String × String × String} {k : String} :
    k ∈ (g.trustRecord i v).keys ↔ k ∈ trustDecisionFields ∨ v.2.1 = "ALLOW" ∧ k = "allowed_feature_refs" := by
  have hf : k ∈ (g.trustFields i v).keys ↔ k ∈ trustDecisionFields.dropLast := Dict.mem_keys_ofItems
  have hd : k ∈ trustDecisionFields ↔ k ∈ trustDecisionFields.dropLast ∨ k = "decision_fingerprint" :=
    (@List.mem_append _ k trustDecisionFields.dropLast ["decision_fingerprint"]).trans (or_congr_right List.mem_singleton)
  rw [trustRecord, mem_keys_finalize, hd]
  split <;> rename_i ha
  · rw [Dict.mem_keys_insert, hf]
    simp only [ha, true_and]
    exact or_right_comm
  · simp only [hf, ha, false_and, or_false]

omit [Runtime] in
theorem trustVerdicts_valid : ∀ v ∈ trustVerdicts, v.1 ∈ TRUST_STATES ∧ v.2.1 ∈ ACTIONS ∧ v.2.2 ∈ REASON_CLASSES ∧
    (v.1 ∈ nonTrustedStates → v.2.1 ∉ PERMITTING) ∧ v.1 ≠ "CONDITIONALLY_TRUSTED" ∧
    v.2.1 ≠ "ALLOW_WITH_CONSTRAINTS" := by decide

/-- The record of a verdict is a valid trust decision. -/
theorem trustRecord_valid {i : TrustInput} {v : String × String × String} (hv : v ∈ trustVerdicts) :
    TrustDecision (g.trustRecord i v) := by
  have hget : ∀ {key val}, key ≠ "allowed_feature_refs" → key ≠ "decision_fingerprint" →
      (g.trustFields i v).get key = val → (g.trustRecord i v).get key = val :=
    fun h h' e => (g.get_trustRecord h h').trans e
  have hs : (g.trustRecord i v).get "trust_state" = .str v.1 :=
    hget (by decide) (by decide) (by simp [trustFields, Dict.get_insert, Dict.ofItems])
  have ha : (g.trustRecord i v).get "action_result" = .str v.2.1 :=
    hget (by decide) (by decide) (by simp [trustFields, Dict.get_insert, Dict.ofItems])
  have hr : (g.trustRecord i v).get "reason_class" = .str v.2.2 :=
    hget (by decide) (by decide) (by simp [trustFields, Dict.ofItems])
  have hassertions : (g.trustRecord i v).get "trust_assertion_refs" = strList (assertionRefs i) :=
    hget (by decide) (by decide) (by simp [trustFields, Dict.get_insert, Dict.ofItems])
  have hauthority : (g.trustRecord i v).get "authority_manifest_fingerprint" = .str g.authorityManifestFingerprint :=
    hget (by decide) (by decide) (by simp [trustFields, Dict.get_insert, Dict.ofItems])
  have hfreshness : (g.trustRecord i v).get "freshness_profile_fingerprint" = .str g.freshnessProfile.fingerprint :=
    hget (by decide) (by decide) (by simp [trustFields, Dict.get_insert, Dict.ofItems])
  obtain ⟨hstate, haction, hreason, hnon, hcond, hconstraints⟩ := trustVerdicts_valid v hv
  refine ⟨?_, ?_, ?_, ?_, ?_, ?_, ?_, ?_, ?_, ?_, ?_, ?_, ?_, ?_, ?_, ?_⟩
  · exact fun f hf => Dict.contains_iff.mpr (g.mem_keys_trustRecord.mpr (.inl hf))
  · intro k hk
    rcases g.mem_keys_trustRecord.mp hk with h | ⟨-, rfl⟩
    · exact List.mem_append_left _ h
    · decide
  · exact hget (by decide) (by decide) (by simp [trustFields, Dict.get_insert, Dict.ofItems])
  · exact hget (by decide) (by decide) (by simp [trustFields, Dict.get_insert, Dict.ofItems])
  · rw [hassertions]
    exact ⟨isNonemptyList_strList.mpr (assertionRefs_ne_nil i),
      isStrList_strList.mpr fun _ => ne_empty_of_mem_assertionRefs⟩
  · rw [hauthority]; exact g.authority_valid
  · rw [hfreshness]; exact isSha256_sha256Json _
  · refine selfFingerprint_finalize fun hm => ?_
    have : "captured_at" ∈ (g.trustRecord i v).keys := mem_keys_finalize.mpr (.inl hm)
    rcases g.mem_keys_trustRecord.mp this with h | h
    · exact absurd h (by decide)
    · exact absurd h.2 (by decide)
  · exact ⟨_, hstate, hs⟩
  · exact ⟨_, hreason, hr⟩
  · exact ⟨_, haction, ha⟩
  · exact hget (by decide) (by decide) (by simp [trustFields, Dict.get_insert, Dict.ofItems])
  · rintro ⟨x, hx, e⟩ y hy e'
    rw [hs, Val.str.injEq] at e
    rw [ha, Val.str.injEq] at e'
    exact hnon (e ▸ hx) (e' ▸ hy)
  · intro e
    rw [hs, Val.str.injEq] at e
    exact absurd e hcond
  · intro e
    rw [ha, Val.str.injEq] at e
    exact absurd e hconstraints
  · intro hc
    have hallow : v.2.1 = "ALLOW" := by
      rcases g.mem_keys_trustRecord.mp (Dict.contains_iff.mp hc) with h | h
      · exact absurd h (by decide)
      · exact h.1
    rw [trustRecord, get_finalize _ (by decide), if_pos hallow, Dict.get_insert_self, isStrList_strList]
    intro f hf
    simp only [allowedFeatures] at hf
    split at hf
    · split at hf
      · cases hf
      · rw [List.mem_singleton.mp hf]; assumption
    · cases hf

theorem evaluateTrust_ok {i : TrustInput} {r : Dict} :
    g.evaluateTrust i = .ok r ↔ ∃ v, g.trustVerdict i = .ok v ∧ r = g.trustRecord i v := by
  constructor
  · intro h
    obtain ⟨v, hv, h⟩ := bind_ok.mp h
    obtain ⟨-, h⟩ := seq_ok.mp h
    cases h
    exact ⟨v, hv, rfl⟩
  · rintro ⟨v, hv, rfl⟩
    exact bind_ok.mpr ⟨v, hv, seq_ok.mpr ⟨validateTrustDecision_ok.mpr (g.trustRecord_valid (g.trustVerdict_mem hv)), rfl⟩⟩

/-! ## Capability -/

structure CapabilityInput where
  subjectBinding : String
  purpose : String
  requiredCapabilities : List String
  observations : List Dict
  materialManifestRef : String := "material://request"

/-- Capability state, action and reason. -/
def capabilityVerdict (i : CapabilityInput) : Except Exc (String × String × String) := do
  let required := dictFromKeys i.requiredCapabilities
  let candidates := i.observations.filter fun item =>
    !differs item "subject_binding" i.subjectBinding &&
      required.any (fun key => (item.get "capability_key").eq (.str key)) && !differs item "status" "ACTIVE"
  let missing := required.filter fun key => !candidates.any fun item => !differs item "capability_key" key
  let stale ← candidates.filterM fun item =>
    pyOr (.ok !(item.get "invalidation_epoch").eq (.int g.invalidationEpoch)) (pyNot (freshWindow item g.now))
  let unsupported := candidates.filter fun item =>
    ((item.get "observed_value").asDict.map fun value => (value.get "supported").isFalse).getD false
  if !missing.isEmpty then return ("MISSING", "DENY", "CAPABILITY_MISSING")
  else if !stale.isEmpty then return ("STALE", "REQUIRE_REVALIDATION", "STALE_EVIDENCE")
  else if !unsupported.isEmpty then return ("OUT_OF_SCOPE", "DENY", "CAPABILITY_OUT_OF_SCOPE")
  else return ("FRESH", "ALLOW", "NONE")

def capabilityRecord (i : CapabilityInput) (verdict : String × String × String) : Dict :=
  finalize <| .ofItems [
    ("record_type", .str "PMIRI_D2_CAPABILITY_DECISION"),
    ("schema_version", .str "0.2"),
    ("decision_id", .str (ref "decision" (Dict.ofItems [
      ("kind", .str "capability"), ("subject", .str i.subjectBinding), ("purpose", .str i.purpose)]).toVal)),
    ("subject_binding", .str i.subjectBinding),
    ("purpose", .str i.purpose),
    ("material_manifest_ref", .str i.materialManifestRef),
    ("material_manifest_fingerprint", .str (sha256Json (Dict.ofItems [("ref", .str i.materialManifestRef)]).toVal)),
    ("capability_profile_fingerprint", .str (sha256Json (strList (dictFromKeys i.requiredCapabilities)))),
    ("observation_refs", strList (i.observations.map fun item => refOf item "capability_observation_id" "observation")),
    ("policy_version", .str g.policyVersion),
    ("invalidation_epoch", .int g.invalidationEpoch),
    ("authority_manifest_fingerprint", .str g.authorityManifestFingerprint),
    ("freshness_profile_id", .str g.freshnessProfile.profileId),
    ("freshness_profile_fingerprint", .str g.freshnessProfile.fingerprint),
    ("capability_state", .str verdict.1),
    ("action_result", .str verdict.2.1),
    ("reason_class", .str verdict.2.2),
    ("validity_ref", .str (validityRef g.now g.invalidationEpoch))]

/-- The verdicts `capabilityVerdict` can reach. -/
def capabilityVerdicts : List (String × String × String) := [
  ("MISSING", "DENY", "CAPABILITY_MISSING"), ("STALE", "REQUIRE_REVALIDATION", "STALE_EVIDENCE"),
  ("OUT_OF_SCOPE", "DENY", "CAPABILITY_OUT_OF_SCOPE"), ("FRESH", "ALLOW", "NONE")]

def evaluateCapability (i : CapabilityInput) : Except Exc Dict := do
  forEach i.observations validateCapabilityObservation
  let record := g.capabilityRecord i (← g.capabilityVerdict i)
  validateCapabilityDecision record
  return record

theorem capabilityVerdict_mem {i : CapabilityInput} {v : String × String × String} (h : g.capabilityVerdict i = .ok v) :
    v ∈ capabilityVerdicts := by
  obtain ⟨stale, -, h⟩ := bind_ok.mp h
  split at h
  · cases h; decide
  split at h
  · cases h; decide
  dsimp only at h
  split at h
  · cases h; decide
  · cases h; decide

omit [Runtime] in
theorem capabilityVerdicts_valid : ∀ v ∈ capabilityVerdicts, v.1 ∈ CAPABILITY_STATES ∧ v.2.1 ∈ ACTIONS ∧
    v.2.2 ∈ REASON_CLASSES ∧ (v.1 ≠ "FRESH" → v.2.1 ∉ PERMITTING) ∧
    (v.1 = "MISSING" → v.2.2 = "CAPABILITY_MISSING") := by decide

theorem mem_keys_capabilityRecord {i : CapabilityInput} {v : String × String × String} {k : String} :
    k ∈ (g.capabilityRecord i v).keys ↔ k ∈ capabilityDecisionFields := by
  rw [capabilityRecord, mem_keys_finalize, Dict.mem_keys_ofItems]
  exact ((@List.mem_append _ k capabilityDecisionFields.dropLast ["decision_fingerprint"]).trans
    (or_congr_right List.mem_singleton)).symm

/-- The record of a verdict is a valid capability decision exactly if it
refers to an observation where it has to. -/
theorem capabilityRecord_valid {i : CapabilityInput} {v : String × String × String} (hv : v ∈ capabilityVerdicts) :
    CapabilityDecision (g.capabilityRecord i v) ↔ (v.1 ≠ "MISSING" → i.observations ≠ []) := by
  have hs : (g.capabilityRecord i v).get "capability_state" = .str v.1 := by
    simp [capabilityRecord, get_finalize, Dict.get_insert, Dict.ofItems]
  have ha : (g.capabilityRecord i v).get "action_result" = .str v.2.1 := by
    simp [capabilityRecord, get_finalize, Dict.get_insert, Dict.ofItems]
  have hr : (g.capabilityRecord i v).get "reason_class" = .str v.2.2 := by
    simp [capabilityRecord, get_finalize, Dict.get_insert, Dict.ofItems]
  have ho : (g.capabilityRecord i v).get "observation_refs" =
      strList (i.observations.map fun item => refOf item "capability_observation_id" "observation") := by
    simp [capabilityRecord, get_finalize, Dict.get_insert, Dict.ofItems]
  have htruthy : ((g.capabilityRecord i v).get "observation_refs").truthy = true ↔ i.observations ≠ [] := by
    rw [ho]
    simp [strList, Val.truthy]
  constructor
  · intro h hm
    exact htruthy.mp (h.observed (by simpa [hs] using hm))
  intro hobserved
  obtain ⟨hstate, haction, hreason, hfresh, hmissing⟩ := capabilityVerdicts_valid v hv
  refine ⟨fun k => g.mem_keys_capabilityRecord, ?_, ?_, ?_, ?_, ?_, ?_, ?_, ⟨_, hstate, hs⟩, ⟨_, haction, ha⟩,
    ⟨_, hreason, hr⟩, ?_, ?_⟩
  · simp [capabilityRecord, get_finalize, Dict.get_insert, Dict.ofItems]
  · simp [capabilityRecord, get_finalize, Dict.get_insert, Dict.ofItems]
  · rw [ho, isStrList_strList]
    intro s hs'
    obtain ⟨item, -, rfl⟩ := List.mem_map.mp hs'
    exact refOf_ne_empty (by decide)
  · intro hm
    exact htruthy.mpr (hobserved (by simpa [hs] using hm))
  · have hf : (g.capabilityRecord i v).get "decision_fingerprint" =
        .str (decisionFingerprint (g.capabilityRecord i v)) := finalize_fingerprint _
    simp only [capabilityFingerprints, List.forall_mem_cons, List.not_mem_nil, false_imp_iff, implies_true, and_true, hf]
    refine ⟨?_, ?_, ?_, ?_, isSha256_sha256Json _⟩
    · simp [capabilityRecord, get_finalize, Dict.get_insert, Dict.ofItems]
    · simp [capabilityRecord, get_finalize, Dict.get_insert, Dict.ofItems]
    · simp [capabilityRecord, get_finalize, Dict.get_insert, Dict.ofItems]
      exact g.authority_valid
    · simp [capabilityRecord, get_finalize, Dict.get_insert, Dict.ofItems, FreshnessProfile.fingerprint]
  · refine selfFingerprint_finalize fun hm => ?_
    rw [Dict.mem_keys_ofItems] at hm
    exact absurd hm (by simp)
  · simp [capabilityRecord, get_finalize, Dict.get_insert, Dict.ofItems, Val.isNatural]
  · intro h x hx e
    rw [ha, Val.str.injEq] at e
    exact hfresh (by simpa [hs] using h) (e ▸ hx)
  · intro h
    rw [hr, hmissing (by simpa [hs] using h)]

theorem evaluateCapability_ok {i : CapabilityInput} {r : Dict} :
    g.evaluateCapability i = .ok r ↔ (∀ o ∈ i.observations, validateCapabilityObservation o = .ok ()) ∧
      ∃ v, g.capabilityVerdict i = .ok v ∧ (v.1 ≠ "MISSING" → i.observations ≠ []) ∧ r = g.capabilityRecord i v := by
  rw [evaluateCapability, seq_ok, forEach_ok]
  refine and_congr_right fun _ => ?_
  constructor
  · intro h
    obtain ⟨v, hv, h⟩ := bind_ok.mp h
    obtain ⟨hvalid, h⟩ := seq_ok.mp h
    obtain rfl : g.capabilityRecord i v = r := Except.ok.inj h
    exact ⟨v, hv, (g.capabilityRecord_valid (g.capabilityVerdict_mem hv)).mp (validateCapabilityDecision_ok.mp hvalid), rfl⟩
  · rintro ⟨v, hv, ho, rfl⟩
    have hvalid := (g.capabilityRecord_valid (g.capabilityVerdict_mem hv)).mpr ho
    exact bind_ok.mpr ⟨v, hv, seq_ok.mpr ⟨validateCapabilityDecision_ok.mpr hvalid, rfl⟩⟩

end GateDDecisionEngine

end Builders

end Pmiri
