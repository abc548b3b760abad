import Pmiri.GateD.Engine
import Pmiri.Python.Sha256

/-!
# Freshness of policy observations

`policy.py`: the typed records of a provider's policies with their validator,
and the two tests of freshness. The test of a record compares instants on both
sides; that of an observation compares texts, and with the end only.
-/

namespace Pmiri

open Py

/-! ## Policy values -/

def POLICY_VALUE_FIELDS : List (String × List String) := [
  ("destination_identity", ["value_type", "identity_ref", "normalized_authority", "scheme"]),
  ("retention_deletion", ["value_type", "retention_mode", "deletion_mode"]),
  ("training_use", ["value_type", "training_use"]),
  ("subprocessors", ["value_type", "subprocessors_fingerprint", "subprocessor_count"]),
  ("processing_region", ["value_type", "region", "region_scope"]),
  ("feature_capability", ["value_type", "capability_key", "supported", "capability_profile_ref"]),
  ("structured_output_attachment",
    ["value_type", "structured_output_supported", "attachment_types", "max_attachment_bytes"]),
  ("logging_diagnostics", ["value_type", "logging_scope"]),
  ("credential_operation_scope", ["value_type", "allowed_operations", "audience"]),
  ("redirect_fetch_behavior", ["value_type", "redirects_allowed", "max_redirect_hops", "revalidate_each_hop"])]

/-- `len(set(v)) == len(v)`, for a list of strings. -/
def distinctStrs : Val → Bool
  | .list xs => decide (xs.filterMap fun | .str s => some s | _ => none).Nodup
  | _ => false

/-- `_validate_policy_value`, as the condition it tests. -/
def policyValueValid (dimension : String) (value : Dict) : Except Exc Bool :=
  let nonempty (field : String) : Bool := (value.get field).isNonemptyStr
  let boolean (field : String) : Bool := isBool (value.get field)
  let nonnegativeInteger (field : String) : Bool := (value.get field).isNatural
  match dimension with
  | "destination_identity" =>
    .ok (nonempty "identity_ref" && nonempty "normalized_authority" && !differs value "scheme" "HTTPS")
  | "retention_deletion" =>
    pyAnd ((value.get "retention_mode").isIn ["NONE", "LIMITED", "INDEFINITE", "UNKNOWN"])
      ((value.get "deletion_mode").isIn ["SUPPORTED", "NOT_SUPPORTED", "CONDITIONAL", "UNKNOWN"])
  | "training_use" => (value.get "training_use").isIn ["PROHIBITED", "ALLOWED", "CONDITIONAL", "UNKNOWN"]
  | "subprocessors" =>
    .ok (isSha256 (value.get "subprocessors_fingerprint") && nonnegativeInteger "subprocessor_count")
  | "processing_region" =>
    pyAnd (.ok (nonempty "region")) ((value.get "region_scope").isIn ["SINGLE_REGION", "MULTI_REGION", "UNKNOWN"])
  | "feature_capability" => .ok (nonempty "capability_key" && boolean "supported" && nonempty "capability_profile_ref")
  | "structured_output_attachment" =>
    .ok (boolean "structured_output_supported" && (value.get "attachment_types").isStrList &&
      distinctStrs (value.get "attachment_types") && nonnegativeInteger "max_attachment_bytes")
  | "logging_diagnostics" => (value.get "logging_scope").isIn ["NONE", "METADATA_ONLY", "CONTENT_POSSIBLE", "UNKNOWN"]
  | "credential_operation_scope" => .ok (isOperationList (value.get "allowed_operations") && nonempty "audience")
  | "redirect_fetch_behavior" => .ok (boolean "redirects_allowed" && nonnegativeInteger "max_redirect_hops" &&
      (value.get "revalidate_each_hop").isTrue)
  | _ => .ok false

/-! ## Records -/

def policyObservationFields : List String := [
  "record_type", "schema_version", "observation_id", "subject_binding_ref", "policy_dimension", "observed_value", "purpose",
  "material_classes", "source_authority_class", "source_ref", "issuer", "observed_at", "valid_until", "policy_version",
  "freshness_profile_id", "freshness_profile_fingerprint", "invalidation_epoch", "status", "observation_fingerprint"]

def policyObservationIdentity : List String :=
  ["observation_id", "subject_binding_ref", "source_ref", "issuer", "policy_version", "freshness_profile_id"]

/-- `_parse_policy_timestamp` -/
def parsePolicyTimestamp : Val → Except Exc Int
  | .str value => parseTime value
  | _ => .error (valueError "timestamp_invalid")

/-- `except (TypeError, ValueError)` catches it. -/
def isTypeOrValueError : Exc → Bool
  | .typeError _ | .valueError .. => true
  | _ => false

/-- The instants of a record are in order. -/
def checkPolicyTimes (record : Dict) : Except Exc Unit := do
  let instants : Except Exc (Int × Int) := do
    let observedAt ← parsePolicyTimestamp (record.get "observed_at")
    let validUntil ← parsePolicyTimestamp (record.get "valid_until")
    return (observedAt, validUntil)
  match instants with
  | .error e =>
    .error (if isTypeOrValueError e then contractViolation "provider_policy_observation_timestamp_invalid" else e)
  | .ok (observedAt, validUntil) =>
    raiseIf (decide (validUntil < observedAt)) (contractViolation "provider_policy_observation_timestamp_order_invalid")

section

variable [Runtime]

def validateProviderPolicyObservation (record : Dict) : Except Exc Unit := do
  raiseIf (!policyObservationFields.all record.contains) (contractViolation "provider_policy_observation_missing")
  raiseIf (!record.keysAre policyObservationFields || differs record "record_type" "PMIRI_D2_PROVIDER_POLICY_OBSERVATION" ||
    differs record "schema_version" "0.3") (contractViolation "provider_policy_observation_schema_invalid")
  raiseIf (!policyObservationIdentity.all fun field => (record.get field).isNonemptyStr)
    (contractViolation "provider_policy_observation_identity_invalid")
  raiseIfM (pyOr ((record.get "policy_dimension").notIn (POLICY_VALUE_FIELDS.map Prod.fst))
    (.ok !(record.get "observed_value").isMapping)) (contractViolation "provider_policy_observation_dimension_invalid")
  let dimension := (record.get "policy_dimension").strText
  let value := (record.get "observed_value").asDict.getD .empty
  raiseIf (!value.keysAre ((POLICY_VALUE_FIELDS.lookup dimension).getD []) || differs value "value_type" dimension)
    (contractViolation "provider_policy_observation_value_binding_invalid")
  raiseIfM (pyNot (policyValueValid dimension value)) (contractViolation "provider_policy_observation_value_type_invalid")
  raiseIfM ((record.get "status").notIn OBSERVATION_STATUSES) (contractViolation "provider_policy_observation_status_invalid")
  raiseIf (!(record.get "material_classes").isNonemptyList)
    (contractViolation "provider_policy_observation_material_scope_invalid")
  raiseIf (!(record.get "material_classes").isStrList)
    (contractViolation "provider_policy_observation_material_scope_invalid")
  raiseIf (!distinctStrs (record.get "material_classes"))
    (contractViolation "provider_policy_observation_material_scope_invalid")
  raiseIf (!(record.get "invalidation_epoch").isNatural) (contractViolation "provider_policy_observation_epoch_invalid")
  checkPolicyTimes record
  raiseIf (!isSha256 (record.get "freshness_profile_fingerprint"))
    (contractViolation "provider_policy_observation_freshness_fingerprint_invalid")
  raiseIf (!isSha256 (record.get "observation_fingerprint") ||
    differs record "observation_fingerprint" (sha256Json (record.without "observation_fingerprint").toVal))
    (contractViolation "provider_policy_observation_fingerprint_invalid")

def providerPolicyObservationIsFresh (record : Dict) (now : String) (profile : FreshnessProfile) (currentEpoch : Int) :
    Except Exc Bool :=
  falseOn isTypeOrValueError do
    validateProviderPolicyObservation record
    if differs record "status" "ACTIVE" then return false
    else if differs record "freshness_profile_id" profile.profileId ||
      differs record "freshness_profile_fingerprint" profile.fingerprint then return false
    else if !(record.get "invalidation_epoch").eq (.int currentEpoch) then return false
    else
      let observedAt ← parsePolicyTimestamp (record.get "observed_at")
      let current ← parsePolicyTimestamp (.str now)
      if observedAt ≤ current then
        let validUntil ← parsePolicyTimestamp (record.get "valid_until")
        return decide (current ≤ validUntil)
      else return false

/-! ## Observations -/

omit [Runtime] in
structure PolicyObservation where
  dimension : String
  value : String
  observedAt : String
  validUntil : String
  invalidationEpoch : Int
  freshnessProfile : FreshnessProfile
  fingerprint : String

namespace PolicyObservation

def create (dimension value observedAt validUntil : String) (invalidationEpoch : Int) (profile : FreshnessProfile) :
    PolicyObservation where
  dimension := dimension
  value := value
  observedAt := observedAt
  validUntil := validUntil
  invalidationEpoch := invalidationEpoch
  freshnessProfile := profile
  fingerprint := sha256Json (Dict.ofItems [
    ("dimension", .str dimension),
    ("value", .str value),
    ("observed_at", .str observedAt),
    ("valid_until", .str validUntil),
    ("invalidation_epoch", .int invalidationEpoch),
    ("freshness_profile_id", .str profile.profileId),
    ("freshness_profile_fingerprint", .str profile.fingerprint)]).toVal

def isFresh (o : PolicyObservation) (now : String) (currentEpoch : Int) (profile : FreshnessProfile) : Bool :=
  if profile.profileId ≠ o.freshnessProfile.profileId ∨ profile.fingerprint ≠ o.freshnessProfile.fingerprint then false
  else if currentEpoch ≠ o.invalidationEpoch then false
  else decide (now ≤ o.validUntil)

/-- The profile and the epoch are those of the observation. -/
def Matches (o : PolicyObservation) (currentEpoch : Int) (profile : FreshnessProfile) : Prop :=
  profile.profileId = o.freshnessProfile.profileId ∧ profile.fingerprint = o.freshnessProfile.fingerprint ∧
    currentEpoch = o.invalidationEpoch

/-- As instants, `observed_at <= now <= valid_until`, and the profile and the epoch match. -/
def FreshAt (o : PolicyObservation) (now : String) (currentEpoch : Int) (profile : FreshnessProfile) : Prop :=
  o.Matches currentEpoch profile ∧ ∃ observed until_ current, parseTime o.observedAt = .ok observed ∧
    parseTime o.validUntil = .ok until_ ∧ parseTime now = .ok current ∧ observed ≤ current ∧ current ≤ until_

/-- A record of the same times, epoch and profile. -/
structure Recorded (o : PolicyObservation) (record : Dict) : Prop where
  valid : validateProviderPolicyObservation record = .ok ()
  active : record.get "status" = .str "ACTIVE"
  observedAt : record.get "observed_at" = .str o.observedAt
  validUntil : record.get "valid_until" = .str o.validUntil
  epoch : record.get "invalidation_epoch" = .int o.invalidationEpoch
  profileId : record.get "freshness_profile_id" = .str o.freshnessProfile.profileId
  profileFingerprint : record.get "freshness_profile_fingerprint" = .str o.freshnessProfile.fingerprint

theorem isFresh_iff {o : PolicyObservation} {now : String} {currentEpoch : Int} {profile : FreshnessProfile} :
    o.isFresh now currentEpoch profile = true ↔ o.Matches currentEpoch profile ∧ now ≤ o.validUntil := by
  simp only [isFresh, Matches]
  split
  · rename_i h
    exact ⟨nofun, fun h' => absurd h (by simp [h'.1.1, h'.1.2.1])⟩
  · rename_i h
    simp only [not_or, ne_eq, not_not] at h
    split
    · rename_i hepoch
      exact ⟨nofun, fun h' => absurd h'.1.2.2 hepoch⟩
    · rename_i hepoch
      rw [decide_eq_true_eq]
      exact ⟨fun hle => ⟨⟨h.1, h.2, not_not.mp hepoch⟩, hle⟩, And.right⟩

/-- The test of a record, by what it compares. -/
theorem Recorded.isFresh_eq {o : PolicyObservation} {record : Dict} (h : o.Recorded record) (now : String) (currentEpoch : Int)
    (profile : FreshnessProfile) :
    providerPolicyObservationIsFresh record now profile currentEpoch =
      open Classical in
      if o.Matches currentEpoch profile then falseOn isTypeOrValueError do
        let observed ← parseTime o.observedAt
        let current ← parseTime now
        if observed ≤ current then
          let until_ ← parseTime o.validUntil
          return decide (current ≤ until_)
        else return false
      else .ok false := by
  have hactive : differs record "status" "ACTIVE" = false := differs_false.mpr h.active
  simp only [providerPolicyObservationIsFresh, h.valid, ok_bind, hactive, Bool.false_eq_true, ↓reduceIte, h.observedAt,
    h.validUntil, parsePolicyTimestamp]
  by_cases hmatches : o.Matches currentEpoch profile
  · have hid : differs record "freshness_profile_id" profile.profileId = false :=
      differs_false.mpr (by rw [h.profileId, hmatches.1])
    have hfingerprint : differs record "freshness_profile_fingerprint" profile.fingerprint = false :=
      differs_false.mpr (by rw [h.profileFingerprint, hmatches.2.1])
    have hepoch : (record.get "invalidation_epoch").eq (.int currentEpoch) = true := by
      rw [h.epoch, hmatches.2.2, Val.int_eq_int, beq_self_eq_true]
    rw [if_pos hmatches]
    simp only [hid, hfingerprint, hepoch, Bool.or_self, Bool.not_true, Bool.false_eq_true, ↓reduceIte]
  · rw [if_neg hmatches]
    by_cases hprofile : profile.profileId = o.freshnessProfile.profileId ∧ profile.fingerprint = o.freshnessProfile.fingerprint
    · have hid : differs record "freshness_profile_id" profile.profileId = false :=
        differs_false.mpr (by rw [h.profileId, hprofile.1])
      have hfingerprint : differs record "freshness_profile_fingerprint" profile.fingerprint = false :=
        differs_false.mpr (by rw [h.profileFingerprint, hprofile.2])
      have hepoch : (record.get "invalidation_epoch").eq (.int currentEpoch) = false := by
        rw [h.epoch, Val.int_eq_int, beq_eq_false_iff_ne]
        exact fun he => hmatches ⟨hprofile.1, hprofile.2, he.symm⟩
      simp only [hid, hfingerprint, hepoch, Bool.or_self, Bool.not_false, Bool.false_eq_true, ↓reduceIte]
      rfl
    · have hdiffers : (differs record "freshness_profile_id" profile.profileId ||
          differs record "freshness_profile_fingerprint" profile.fingerprint) = true := by
        rw [Bool.or_eq_true, differs_true, differs_true, h.profileId, h.profileFingerprint]
        simp only [ne_eq, Val.str.injEq]
        by_contra hboth
        simp only [not_or, not_not] at hboth
        exact hprofile ⟨hboth.1.symm, hboth.2.symm⟩
      simp only [hdiffers, ↓reduceIte]
      rfl

/-! ## Agreement -/

/-- The texts of `now` and the end are ordered as the instants are, and a `now` before the start, or none at all, comes
after the end as a text. -/
def ComparesAsInstants (observed until_ : Int) (validUntil now : String) : Prop :=
  match parseTime now with
  | .ok current => if current < observed then validUntil < now else (now ≤ validUntil ↔ current ≤ until_)
  | .error _ => validUntil < now

/-- The instant of `now` is one that a `datetime` can hold, if it has one. -/
def Representable (now : String) : Prop := ∀ e, parseTime now = .error e → isTypeOrValueError e = true

variable {o : PolicyObservation} {observed until_ : Int}

theorem freshAt_iff (hobserved : parseTime o.observedAt = .ok observed) (huntil : parseTime o.validUntil = .ok until_)
    (now : String) {currentEpoch : Int} {profile : FreshnessProfile} (hmatches : o.Matches currentEpoch profile) :
    o.FreshAt now currentEpoch profile ↔ ∃ current, parseTime now = .ok current ∧ observed ≤ current ∧ current ≤ until_ := by
  constructor
  · rintro ⟨-, observed', until', current, ho, hu, hc, h⟩
    obtain rfl := Except.ok.inj (hobserved.symm.trans ho)
    obtain rfl := Except.ok.inj (huntil.symm.trans hu)
    exact ⟨current, hc, h⟩
  · rintro ⟨current, hc, h⟩
    exact ⟨hmatches, observed, until_, current, hobserved, huntil, hc, h⟩

/-- The test of an observation is right where the texts compare as the instants do. -/
theorem isFresh_right_iff (hobserved : parseTime o.observedAt = .ok observed) (huntil : parseTime o.validUntil = .ok until_)
    (now : String) (currentEpoch : Int) (profile : FreshnessProfile) :
    (o.isFresh now currentEpoch profile = true ↔ o.FreshAt now currentEpoch profile) ↔
      (o.Matches currentEpoch profile → ComparesAsInstants observed until_ o.validUntil now) := by
  rw [isFresh_iff]
  by_cases hmatches : o.Matches currentEpoch profile
  · rw [freshAt_iff hobserved huntil now hmatches]
    simp only [hmatches, true_and, forall_const, ComparesAsInstants]
    cases hnow : parseTime now with
    | error e => simp
    | ok current =>
      simp only [Except.ok.injEq, exists_eq_left']
      split
      · rename_i hlt
        have hnot : ¬ observed ≤ current := not_le.mpr hlt
        simp [hnot]
      · rename_i hge
        have hle : observed ≤ current := not_lt.mp hge
        simp [hle]
  · have hfresh : ¬ o.FreshAt now currentEpoch profile := fun h => hmatches h.1
    simp [hmatches, hfresh]

/-- The test of a record is right, unless the instant of `now` is out of range. -/
theorem Recorded.right_iff {record : Dict} (h : o.Recorded record) (hobserved : parseTime o.observedAt = .ok observed)
    (huntil : parseTime o.validUntil = .ok until_) (now : String) (currentEpoch : Int) (profile : FreshnessProfile) :
    (∃ b, providerPolicyObservationIsFresh record now profile currentEpoch = .ok b ∧
        (b = true ↔ o.FreshAt now currentEpoch profile)) ↔
      (o.Matches currentEpoch profile → Representable now) := by
  rw [h.isFresh_eq]
  by_cases hmatches : o.Matches currentEpoch profile
  · rw [if_pos hmatches, freshAt_iff hobserved huntil now hmatches, hobserved, huntil]
    simp only [hmatches, forall_const, ok_bind, Representable]
    cases hnow : parseTime now with
    | error e =>
      show (∃ b, falseOn isTypeOrValueError (.error e) = .ok b ∧ _) ↔ _
      rw [falseOn]
      cases hcaught : isTypeOrValueError e with
      | true => simp [hcaught]
      | false => simp [hcaught]
    | ok current =>
      refine ⟨fun _ e herror => absurd herror (by simp), fun _ => ?_⟩
      rw [ok_bind]
      by_cases hle : observed ≤ current
      · rw [if_pos hle]
        exact ⟨_, rfl, by simp [hle]⟩
      · rw [if_neg hle]
        exact ⟨_, rfl, by simp [hle]⟩
  · have hfresh : ¬ o.FreshAt now currentEpoch profile := fun h => hmatches h.1
    rw [if_neg hmatches]
    refine ⟨fun _ h' => absurd h' hmatches, fun _ => ⟨false, rfl, ?_⟩⟩
    simp [hfresh]

/-- An observation is tested rightly exactly where the texts of `now` and of its end compare as the instants do; it agrees
with the test of a record of the same policy exactly if, besides, the instant of `now` is not out of range. -/
theorem freshness_agrees_iff (o : PolicyObservation) {observed until_ : Int} (hobserved : parseTime o.observedAt = .ok observed)
    (huntil : parseTime o.validUntil = .ok until_) (now : String) (currentEpoch : Int) (profile : FreshnessProfile) :
    ((o.isFresh now currentEpoch profile = true ↔ o.FreshAt now currentEpoch profile) ↔
      (o.Matches currentEpoch profile → ComparesAsInstants observed until_ o.validUntil now)) ∧
    ∀ record, o.Recorded record →
      ((o.isFresh now currentEpoch profile = true ↔ o.FreshAt now currentEpoch profile) ∧
          (∃ b, providerPolicyObservationIsFresh record now profile currentEpoch = .ok b ∧
            (b = true ↔ o.FreshAt now currentEpoch profile)) ↔
        (o.Matches currentEpoch profile → ComparesAsInstants observed until_ o.validUntil now ∧ Representable now)) := by
  have hright := isFresh_right_iff hobserved huntil now currentEpoch profile
  refine ⟨hright, fun record hrecorded => ?_⟩
  rw [hright, hrecorded.right_iff hobserved huntil]
  exact forall_and.symm

end PolicyObservation

/-! ## A record -/

def examplePolicyValue : Dict := .ofItems [("value_type", .str "logging_diagnostics"), ("logging_scope", .str "NONE")]

def exampleProfile : FreshnessProfile := ⟨"profile-1", "1.0", 60⟩

/-- A record of a minute of 2026, without its fingerprint. -/
def examplePolicyObserved : Dict :=
  .ofItems [
    ("record_type", .str "PMIRI_D2_PROVIDER_POLICY_OBSERVATION"),
    ("schema_version", .str "0.3"),
    ("observation_id", .str "observation://policy"),
    ("subject_binding_ref", .str "provider://example"),
    ("policy_dimension", .str "logging_diagnostics"),
    ("observed_value", examplePolicyValue.toVal),
    ("purpose", .str "provider_call"),
    ("material_classes", strList ["text"]),
    ("source_authority_class", .str "PROVIDER"),
    ("source_ref", .str "source://example"),
    ("issuer", .str "issuer://example"),
    ("observed_at", .str "2026-01-01T00:00:00Z"),
    ("valid_until", .str "2026-01-01T00:01:00Z"),
    ("policy_version", .str "1"),
    ("freshness_profile_id", .str exampleProfile.profileId),
    ("freshness_profile_fingerprint", .str exampleProfile.fingerprint),
    ("invalidation_epoch", .int 3),
    ("status", .str "ACTIVE")]

def examplePolicyRecord : Dict :=
  examplePolicyObserved.insert "observation_fingerprint" (.str (sha256Json examplePolicyObserved.toVal))

def examplePolicyObservation : PolicyObservation :=
  .create "retention" "NO_TRAINING" "2026-01-01T00:00:00Z" "2026-01-01T00:01:00Z" 3 exampleProfile

theorem get_examplePolicyRecord {key : String} (h : key ≠ "observation_fingerprint") :
    examplePolicyRecord.get key = examplePolicyObserved.get key := by
  rw [examplePolicyRecord, Dict.get_insert, if_neg h]

theorem examplePolicyRecord_fields :
    examplePolicyRecord.get "record_type" = .str "PMIRI_D2_PROVIDER_POLICY_OBSERVATION" ∧
      examplePolicyRecord.get "schema_version" = .str "0.3" ∧
      examplePolicyRecord.get "observation_id" = .str "observation://policy" ∧
      examplePolicyRecord.get "subject_binding_ref" = .str "provider://example" ∧
      examplePolicyRecord.get "policy_dimension" = .str "logging_diagnostics" ∧
      examplePolicyRecord.get "observed_value" = examplePolicyValue.toVal ∧
      examplePolicyRecord.get "material_classes" = strList ["text"] ∧
      examplePolicyRecord.get "source_ref" = .str "source://example" ∧
      examplePolicyRecord.get "issuer" = .str "issuer://example" ∧
      examplePolicyRecord.get "observed_at" = .str "2026-01-01T00:00:00Z" ∧
      examplePolicyRecord.get "valid_until" = .str "2026-01-01T00:01:00Z" ∧
      examplePolicyRecord.get "policy_version" = .str "1" ∧
      examplePolicyRecord.get "freshness_profile_id" = .str exampleProfile.profileId ∧
      examplePolicyRecord.get "freshness_profile_fingerprint" = .str exampleProfile.fingerprint ∧
      examplePolicyRecord.get "invalidation_epoch" = .int 3 ∧
      examplePolicyRecord.get "status" = .str "ACTIVE" := by
  simp [get_examplePolicyRecord, examplePolicyObserved, Dict.get_insert, Dict.ofItems]

omit [Runtime] in
theorem parseTime_exampleMinute :
    parseTime "2026-01-01T00:00:00Z" = .ok 63902822400000000 ∧ parseTime "2026-01-01T00:01:00Z" = .ok 63902822460000000 ∧
      parseTime "2025-12-31T23:59:59Z" = .ok 63902822399000000 ∧ parseTime "2026-01-01T00:00:30Z" = .ok 63902822430000000 := by
  refine ⟨?_, ?_, ?_, ?_⟩ <;> rfl

theorem examplePolicyRecord_valid : validateProviderPolicyObservation examplePolicyRecord = .ok () := by
  have hkeys : examplePolicyRecord.keysAre policyObservationFields = true := by
    refine Dict.keysAre_iff.mpr fun k => ?_
    rw [examplePolicyRecord, Dict.mem_keys_insert, examplePolicyObserved, Dict.mem_keys_ofItems]
    exact ((@List.mem_append _ k policyObservationFields.dropLast ["observation_fingerprint"]).trans
      (or_congr_right List.mem_singleton)).symm
  have hall : policyObservationFields.all examplePolicyRecord.contains = true := (Bool.and_eq_true_iff.mp hkeys).2
  have hwithout : examplePolicyRecord.without "observation_fingerprint" = examplePolicyObserved :=
    Dict.without_insert (by rw [examplePolicyObserved, Dict.mem_keys_ofItems]; simp)
  have hfingerprint : examplePolicyRecord.get "observation_fingerprint" = .str (sha256Json examplePolicyObserved.toVal) :=
    Dict.get_insert_self ..
  have hprofile : isSha256 (.str exampleProfile.fingerprint) = true := isSha256_sha256Json _
  have hvalue : examplePolicyValue.keysAre ["value_type", "logging_scope"] = true :=
    Dict.keysAre_iff.mpr fun _ => Dict.mem_keys_ofItems
  have hvalid : policyValueValid "logging_diagnostics" examplePolicyValue = .ok true ∧
      examplePolicyValue.get "value_type" = .str "logging_diagnostics" := ⟨rfl, rfl⟩
  obtain ⟨htype, hschema, hid, hsubject, hdimension, hobserved, hclasses, hsource, hissuer, hat, huntil, hversion, hprofileId,
    hprofileFingerprint, hepoch, hstatus⟩ := examplePolicyRecord_fields
  have htimes : checkPolicyTimes examplePolicyRecord = .ok () := by
    simp only [checkPolicyTimes, hat, huntil, parsePolicyTimestamp, parseTime_exampleMinute.1, parseTime_exampleMinute.2.1, ok_bind]
    rfl
  simp only [validateProviderPolicyObservation, seq_ok, raiseIf_ok, raiseIfM_ok, hall, hkeys, differs, htype, hschema,
    policyObservationIdentity, List.all_cons, List.all_nil, hid, hsubject, hdimension, hobserved, hclasses, hsource, hissuer,
    hversion, hprofileId, hprofileFingerprint, hepoch, hstatus, htimes, hfingerprint, hwithout, hprofile, isSha256_sha256Json,
    Val.strText, Val.asDict_toVal, Option.getD_some, hvalid, Val.eq_refl]
  have hlookup : (POLICY_VALUE_FIELDS.lookup "logging_diagnostics").getD [] = ["value_type", "logging_scope"] := by decide
  rw [hlookup, hvalue]
  exact ⟨rfl, rfl, by decide, pyOr_ok_false.mpr ⟨Val.notIn_ok_false.mpr ⟨_, by decide, rfl⟩, rfl⟩, rfl, rfl,
    Val.notIn_ok_false.mpr ⟨_, by decide, rfl⟩, rfl, rfl, by decide, rfl, trivial, rfl, rfl⟩

theorem examplePolicyRecord_recorded : examplePolicyObservation.Recorded examplePolicyRecord := by
  obtain ⟨-, -, -, -, -, -, -, -, -, hat, huntil, -, hprofileId, hprofileFingerprint, hepoch, hstatus⟩ :=
    examplePolicyRecord_fields
  exact ⟨examplePolicyRecord_valid, hstatus, hat, huntil, hepoch, hprofileId, hprofileFingerprint⟩

end

/-- Within the minute, both tests say that the policy is fresh. -/
theorem freshness_agrees_iff_example :
    letI := asciiRuntime
    (examplePolicyObservation.isFresh "2026-01-01T00:00:30Z" 3 exampleProfile = true ↔
        examplePolicyObservation.FreshAt "2026-01-01T00:00:30Z" 3 exampleProfile) ∧
      ∃ b, providerPolicyObservationIsFresh examplePolicyRecord "2026-01-01T00:00:30Z" exampleProfile 3 = .ok b ∧
        (b = true ↔ examplePolicyObservation.FreshAt "2026-01-01T00:00:30Z" 3 exampleProfile) := by
  let := asciiRuntime
  obtain ⟨hobserved, huntil, -, hnow⟩ := parseTime_exampleMinute
  refine ((PolicyObservation.freshness_agrees_iff examplePolicyObservation hobserved huntil "2026-01-01T00:00:30Z" 3
    exampleProfile).2 _ examplePolicyRecord_recorded).mpr fun _ => ⟨?_, ?_⟩
  · rw [PolicyObservation.ComparesAsInstants, hnow]
    exact iff_of_true (by decide) (by decide)
  · rw [PolicyObservation.Representable, hnow]
    exact nofun

/-- Before the policy was observed, the observation is said to be fresh. -/
theorem freshness_disagrees :
    letI := asciiRuntime
    examplePolicyObservation.isFresh "2025-12-31T23:59:59Z" 3 exampleProfile = true ∧
      ¬ examplePolicyObservation.FreshAt "2025-12-31T23:59:59Z" 3 exampleProfile := by
  let := asciiRuntime
  obtain ⟨hobserved, huntil, hnow, -⟩ := parseTime_exampleMinute
  have hmatches : examplePolicyObservation.Matches 3 exampleProfile := ⟨rfl, rfl, rfl⟩
  refine ⟨PolicyObservation.isFresh_iff.mpr ⟨hmatches, by decide⟩, ?_⟩
  rw [PolicyObservation.freshAt_iff hobserved huntil _ hmatches, hnow]
  rintro ⟨current, hcurrent, hle, -⟩
  obtain rfl := Except.ok.inj hcurrent
  exact absurd hle (by decide)

end Pmiri
