import Pmiri.RequestAuth.Principal
import Pmiri.Python.Comprehension
import Pmiri.Python.Sha256

/-!
# Egress decisions

`security.py`: what is sent (the manifest), what was found about it (the
classification bindings and the sensitivity assessment), what a decision is
valid for, and `EgressDecision.evaluate`, which looks at the bindings it is
given and not at the sources that the manifest lists.
-/

namespace Pmiri

open Py

/-! ## Classifications -/

def CLASSIFICATIONS : List String := ["PUBLIC", "CLOUD_OK", "RESTRICTED", "LOCAL_ONLY"]

/-- `_valid_interval` of `security.py`: every time stamp is read before any two
are compared, and an interval may be open at its end. -/
def validWithin (validFrom : String) (validUntil : Option String) (now : String) : Except Exc Bool :=
  falseOn Exc.isValueError do
    let start ← parseTime validFrom
    let stop ← match validUntil with
      | none | some "" => pure none
      | some t => some <$> parseTime t
    let current ← parseTime now
    return decide (start ≤ current) && stop.all (decide <| current ≤ ·)

structure SecurityClassificationBinding where
  bindingId : String
  targetKind : String
  targetId : String
  classification : String
  assigningAuthorityRef : String
  policyBasisRef : String
  provenanceRef : String
  validFrom : String
  validUntil : Option String
deriving DecidableEq

namespace SecurityClassificationBinding

/-- The `target_ref` of a classification. -/
def targetRef (b : SecurityClassificationBinding) : String := b.targetKind ++ "://" ++ b.targetId

def isValid (b : SecurityClassificationBinding) (now : String) : Except Exc Bool :=
  pyAnd (.ok (CLASSIFICATIONS.contains b.classification)) (validWithin b.validFrom b.validUntil now)

/-- What an external provider may not be sent: what is unclassified, not valid
now or kept local. -/
def unfit (now : String) : Option SecurityClassificationBinding → Except Exc Bool
  | none => .ok true
  | some b => pyOr (pyNot (b.isValid now)) (.ok (b.classification == "LOCAL_ONLY"))

/-- The binding is valid at `now` and does not keep its target local. -/
def Fit (b : SecurityClassificationBinding) (now : String) : Prop :=
  b.isValid now = .ok true ∧ b.classification ≠ "LOCAL_ONLY"

theorem unfit_ok_false {now : String} {binding : Option SecurityClassificationBinding} :
    unfit now binding = .ok false ↔ ∃ b, binding = some b ∧ b.Fit now := by
  cases binding with
  | none => simp [unfit]
  | some b => simp [unfit, Fit, pyOr_ok_false, pyNot_ok]

end SecurityClassificationBinding

/-! ## Assessments, manifests and validity -/

structure DerivedSensitivityAssessment where
  assessmentId : String
  derivedArtifactRef : String
  inputSecurityLineageRefs : List String
  aggregationSemanticsRef : Option String
  policyEpoch : Int
  result : String
  requiredSecurityBindings : List String
  fingerprint : String
deriving DecidableEq

structure SecurityDecisionValidity where
  subjectChainFingerprint : String
  trustZoneFingerprint : String
  purpose : String
  materialManifestFingerprint : String
  operation : String
  policyVersion : String
  policyEpoch : Int
  destinationBindingFingerprint : Option String
  validUntil : String
deriving DecidableEq

structure EgressMaterialManifest where
  manifestId : String
  sourceRefs : List String
  securityLineageRefs : List String
  derivedSensitivityRefs : List String
  semanticObligationRefs : List String
  materialMembersDigest : String
  policyEpoch : Int
  fingerprint : String
deriving DecidableEq

namespace DerivedSensitivityAssessment

/-- The result of `assess`. -/
def outcome (lineage : List String) (aggregationSemanticsRef : Option String)
    (additionalRestrictionRequired : Bool) : String :=
  if lineage.isEmpty || aggregationSemanticsRef.getD "" == "" then "INDETERMINATE"
  else if additionalRestrictionRequired then "ADDITIONAL_RESTRICTION_REQUIRED"
  else "NO_NEW_RESTRICTION_IDENTIFIED"

def assess [Runtime] (derivedArtifactRef : String) (inputSecurityLineageRefs : List String)
    (aggregationSemanticsRef : Option String) (policyEpoch : Int) (additionalRestrictionRequired : Bool)
    (requiredSecurityBindings : List String) : DerivedSensitivityAssessment :=
  let lineage := sortedSet inputSecurityLineageRefs
  let bindings := sortedSet requiredSecurityBindings
  let result := outcome lineage aggregationSemanticsRef additionalRestrictionRequired
  let payload := (Dict.ofItems [
    ("derived_artifact_ref", .str derivedArtifactRef),
    ("input_security_lineage_refs", strList lineage),
    ("aggregation_semantics_ref", optStr aggregationSemanticsRef),
    ("policy_epoch", .int policyEpoch),
    ("result", .str result),
    ("required_security_bindings", strList bindings)]).toVal
  ⟨ref "assessment" payload, derivedArtifactRef, lineage, aggregationSemanticsRef, policyEpoch, result, bindings,
    sha256Json payload⟩

end DerivedSensitivityAssessment

namespace SecurityDecisionValidity

def isValid (v current : SecurityDecisionValidity) (now : String) : Except Exc Bool :=
  pyAnd (.ok (v == current)) (validWithin "1970-01-01T00:00:00Z" (some v.validUntil) now)

/-- `__dict__` -/
def record (v : SecurityDecisionValidity) : Dict := Dict.ofItems [
  ("subject_chain_fingerprint", .str v.subjectChainFingerprint),
  ("trust_zone_fingerprint", .str v.trustZoneFingerprint),
  ("purpose", .str v.purpose),
  ("material_manifest_fingerprint", .str v.materialManifestFingerprint),
  ("operation", .str v.operation),
  ("policy_version", .str v.policyVersion),
  ("policy_epoch", .int v.policyEpoch),
  ("destination_binding_fingerprint", optStr v.destinationBindingFingerprint),
  ("valid_until", .str v.validUntil)]

end SecurityDecisionValidity

namespace EgressMaterialManifest

def create [Runtime] (sourceRefs securityLineageRefs derivedSensitivityRefs semanticObligationRefs
    materialMembers : List String) (policyEpoch : Int) : EgressMaterialManifest :=
  let sources := sortedSet sourceRefs
  let lineage := sortedSet securityLineageRefs
  let assessments := sortedSet derivedSensitivityRefs
  let obligations := sortedSet semanticObligationRefs
  let membersDigest := sha256Json (strList materialMembers)
  let payload := (Dict.ofItems [
    ("source_refs", strList sources),
    ("security_lineage_refs", strList lineage),
    ("derived_sensitivity_refs", strList assessments),
    ("semantic_obligation_refs", strList obligations),
    ("material_members_digest", .str membersDigest),
    ("policy_epoch", .int policyEpoch)]).toVal
  ⟨ref "manifest" payload, sources, lineage, assessments, obligations, membersDigest, policyEpoch, sha256Json payload⟩

end EgressMaterialManifest

/-! ## Decisions -/

inductive EgressResult
  | allowAsIs
  | allowWithConstraints
  | recompileRequiredWithConstraints
  | deny
  | indeterminate
deriving DecidableEq

def EgressResult.name : EgressResult → String
  | allowAsIs => "ALLOW_AS_IS"
  | allowWithConstraints => "ALLOW_WITH_CONSTRAINTS"
  | recompileRequiredWithConstraints => "RECOMPILE_REQUIRED_WITH_CONSTRAINTS"
  | deny => "DENY"
  | indeterminate => "INDETERMINATE"

structure EgressDecision where
  result : EgressResult
  reason : String
  validity : SecurityDecisionValidity
  materialManifestFingerprint : String
  destinationBindingFingerprint : Option String
  fingerprint : String
deriving DecidableEq

/-- What `EgressDecision.evaluate` is asked about. -/
structure EgressRequest where
  validity : SecurityDecisionValidity
  currentValidity : SecurityDecisionValidity
  manifest : EgressMaterialManifest
  destinationBindingFingerprint : Option String
  destinationKind : String
  classifications : List (Option SecurityClassificationBinding)
  sensitivity : DerivedSensitivityAssessment
  now : String
  constrained : Bool

namespace EgressDecision

/-- The result and the reason of `evaluate`. -/
def verdict (r : EgressRequest) : Except Exc (EgressResult × String) := do
  if !(← r.validity.isValid r.currentValidity r.now) then
    return (.recompileRequiredWithConstraints, "POLICY_EPOCH_CHANGED")
  if r.validity.materialManifestFingerprint != r.manifest.fingerprint then
    return (.deny, "MATERIAL_FINGERPRINT_MISMATCH")
  if r.destinationBindingFingerprint != r.validity.destinationBindingFingerprint then
    return (.deny, "EXACT_BINDING_MISSING")
  if ← pyAnd (.ok (r.destinationKind == "EXTERNAL_PROVIDER"))
      (r.classifications.anyM (SecurityClassificationBinding.unfit r.now)) then
    return (.deny, "CLASSIFICATION_MISMATCH")
  if r.sensitivity.result == "INDETERMINATE" then return (.indeterminate, "CLASSIFICATION_UNKNOWN")
  if r.sensitivity.result == "ADDITIONAL_RESTRICTION_REQUIRED" then
    return (.recompileRequiredWithConstraints, "ADDITIONAL_RESTRICTION_REQUIRED")
  return (if r.constrained then .allowWithConstraints else .allowAsIs, "NONE")

def evaluate [Runtime] (r : EgressRequest) : Except Exc EgressDecision := do
  let (result, reason) ← verdict r
  let payload := Dict.ofItems [
    ("result", .str result.name),
    ("reason", .str reason),
    ("validity", r.validity.record.toVal),
    ("material_manifest_fingerprint", .str r.manifest.fingerprint),
    ("destination", optStr r.destinationBindingFingerprint)]
  return ⟨result, reason, r.validity, r.manifest.fingerprint, r.destinationBindingFingerprint, sha256Json payload.toVal⟩

def Allows (d : EgressDecision) : Prop := d.result = .allowAsIs ∨ d.result = .allowWithConstraints

/-- What an allow rests on: the request is current, is about this manifest and
this destination, and every binding supplied for an external provider is fit. -/
structure Grounds (r : EgressRequest) : Prop where
  valid : r.validity.isValid r.currentValidity r.now = .ok true
  manifest : r.validity.materialManifestFingerprint = r.manifest.fingerprint
  destination : r.destinationBindingFingerprint = r.validity.destinationBindingFingerprint
  bindings : r.destinationKind = "EXTERNAL_PROVIDER" →
    ∀ binding ∈ r.classifications, ∃ b, binding = some b ∧ b.Fit r.now
  sensitivity : r.sensitivity.result ≠ "INDETERMINATE" ∧ r.sensitivity.result ≠ "ADDITIONAL_RESTRICTION_REQUIRED"

theorem bindings_ok_false {r : EgressRequest} :
    pyAnd (.ok (r.destinationKind == "EXTERNAL_PROVIDER"))
        (r.classifications.anyM (SecurityClassificationBinding.unfit r.now)) = .ok false ↔
      (r.destinationKind = "EXTERNAL_PROVIDER" →
        ∀ binding ∈ r.classifications, ∃ b, binding = some b ∧ b.Fit r.now) := by
  simp only [pyAnd_ok_false, ok_bool, anyM_ok_false, SecurityClassificationBinding.unfit_ok_false, beq_eq_false_iff_ne,
    beq_iff_eq]
  by_cases hkind : r.destinationKind = "EXTERNAL_PROVIDER" <;> simp [hkind]

theorem verdict_grounds {r : EgressRequest} {result : EgressResult} {reason : String}
    (h : verdict r = .ok (result, reason)) (ha : result = .allowAsIs ∨ result = .allowWithConstraints) :
    Grounds r := by
  obtain ⟨valid, hvalid, h⟩ := bind_ok.mp h
  split at h
  · cases h; simp at ha
  rename_i hv
  split at h
  · cases h; simp at ha
  rename_i hm
  split at h
  · cases h; simp at ha
  rename_i hd
  obtain ⟨unfit, hunfit, h⟩ := bind_ok.mp h
  split at h
  · cases h; simp at ha
  rename_i hu
  split at h
  · cases h; simp at ha
  rename_i hi
  split at h
  · cases h; simp at ha
  rename_i hrestricted
  obtain rfl : valid = true := by simpa using hv
  obtain rfl : unfit = false := by simpa using hu
  exact ⟨hvalid, by simpa using hm, by simpa using hd, bindings_ok_false.mp hunfit, by simpa using hi,
    by simpa using hrestricted⟩

theorem verdict_of_grounds {r : EgressRequest} (h : Grounds r) :
    verdict r = .ok (if r.constrained then .allowWithConstraints else .allowAsIs, "NONE") := by
  simp only [verdict, h.valid, bindings_ok_false.mpr h.bindings, ok_bind, h.manifest, h.destination, bne_self_eq_false,
    beq_eq_false_iff_ne.mpr h.sensitivity.1, beq_eq_false_iff_ne.mpr h.sensitivity.2, Bool.not_true, Bool.false_eq_true,
    ↓reduceIte]
  rfl

section

variable [Runtime]

theorem evaluate_ok {r : EgressRequest} {d : EgressDecision} (h : evaluate r = .ok d) :
    ∃ reason, verdict r = .ok (d.result, reason) := by
  obtain ⟨⟨result, reason⟩, hv, h⟩ := bind_ok.mp h
  cases h
  exact ⟨reason, hv⟩

theorem evaluate_of_grounds {r : EgressRequest} (h : Grounds r) : ∃ d, evaluate r = .ok d ∧ d.Allows := by
  rw [evaluate, verdict_of_grounds h]
  refine ⟨_, rfl, ?_⟩
  cases r.constrained
  · exact .inl rfl
  · exact .inr rfl

/-- Everything to be sent is the target of a fit binding, the bindings are
about something to be sent, and all three records are of one epoch. -/
structure Classified (r : EgressRequest) : Prop where
  sources : ∀ source ∈ r.manifest.sourceRefs, ∃ b, some b ∈ r.classifications ∧ b.targetRef = source ∧ b.Fit r.now
  related : ∃ b, some b ∈ r.classifications ∧ b.targetRef ∈ r.manifest.sourceRefs
  epochs : r.manifest.policyEpoch = r.validity.policyEpoch ∧ r.sensitivity.policyEpoch = r.validity.policyEpoch

/-- What no check of `evaluate` is about: that there is something to send, that
each source of the manifest has a binding among those supplied, and that the
epochs are one. -/
def Unchecked (r : EgressRequest) : Prop :=
  r.manifest.sourceRefs ≠ [] ∧
    (∀ source ∈ r.manifest.sourceRefs, ∃ b, some b ∈ r.classifications ∧ b.targetRef = source) ∧
    r.manifest.policyEpoch = r.validity.policyEpoch ∧ r.sensitivity.policyEpoch = r.validity.policyEpoch

/-- Where an external egress is allowed, what is sent is classified exactly if
what no check is about is so. -/
theorem classified_iff {r : EgressRequest} {d : EgressDecision} (hkind : r.destinationKind = "EXTERNAL_PROVIDER")
    (h : evaluate r = .ok d) (ha : d.Allows) : Classified r ↔ Unchecked r := by
  obtain ⟨reason, hv⟩ := evaluate_ok h
  have hfit := (verdict_grounds hv ha).bindings hkind
  constructor
  · rintro ⟨hsources, ⟨b, -, hb⟩, hepochs⟩
    refine ⟨List.ne_nil_of_mem hb, fun source hsource => ?_, hepochs⟩
    obtain ⟨b, hb, htarget, -⟩ := hsources source hsource
    exact ⟨b, hb, htarget⟩
  · rintro ⟨hne, hsources, hepochs⟩
    obtain ⟨source, hsource⟩ := List.exists_mem_of_ne_nil _ hne
    obtain ⟨b, hb, htarget⟩ := hsources source hsource
    refine ⟨fun source hsource => ?_, ⟨b, hb, htarget ▸ hsource⟩, hepochs⟩
    obtain ⟨b, hb, htarget⟩ := hsources source hsource
    obtain ⟨_, hsome, hbfit⟩ := hfit _ hb
    cases hsome
    exact ⟨b, hb, htarget, hbfit⟩

end

end EgressDecision

/-! ## A manifest that nothing was said about -/

def exampleClassification : SecurityClassificationBinding where
  bindingId := "classification://1"
  targetKind := "evidence"
  targetId := "1"
  classification := "CLOUD_OK"
  assigningAuthorityRef := "authority://r1"
  policyBasisRef := "policy://r1"
  provenanceRef := "source://1"
  validFrom := "2026-01-01T00:00:00Z"
  validUntil := none

section

variable [Runtime]

def exampleMaterial : EgressMaterialManifest :=
  .create ["evidence://1"] ["classification://1"] ["assessment://1"] ["obligation://1"] ["span://1"] 1

def exampleSensitivity : DerivedSensitivityAssessment :=
  .assess "artifact://1" ["classification://1"] (some "semantics://concat") 1 false []

def exampleValidity : SecurityDecisionValidity where
  subjectChainFingerprint := "subject"
  trustZoneFingerprint := "zone"
  purpose := "provider_call"
  materialManifestFingerprint := exampleMaterial.fingerprint
  operation := "provider_call"
  policyVersion := "r1"
  policyEpoch := 1
  destinationBindingFingerprint := some "destination"
  validUntil := "2026-12-31T00:00:00Z"

def exampleEgress (classifications : List (Option SecurityClassificationBinding)) : EgressRequest where
  validity := exampleValidity
  currentValidity := exampleValidity
  manifest := exampleMaterial
  destinationBindingFingerprint := some "destination"
  destinationKind := "EXTERNAL_PROVIDER"
  classifications := classifications
  sensitivity := exampleSensitivity
  now := "2026-01-01T00:00:00Z"
  constrained := false

omit [Runtime] in
theorem exampleValidity_within :
    validWithin "1970-01-01T00:00:00Z" (some "2026-12-31T00:00:00Z") "2026-01-01T00:00:00Z" = .ok true := by
  decide +kernel

theorem exampleSensitivity_result : exampleSensitivity.result = "NO_NEW_RESTRICTION_IDENTIFIED" := by
  simp [exampleSensitivity, DerivedSensitivityAssessment.assess, DerivedSensitivityAssessment.outcome,
    sortedSet_singleton]

theorem exampleEgress_grounds {classifications : List (Option SecurityClassificationBinding)}
    (h : ∀ binding ∈ classifications, ∃ b, binding = some b ∧ b.Fit "2026-01-01T00:00:00Z") :
    EgressDecision.Grounds (exampleEgress classifications) where
  valid := pyAnd_ok_true.mpr ⟨by simp [exampleEgress], exampleValidity_within⟩
  manifest := rfl
  destination := rfl
  bindings := fun _ => h
  sensitivity := by
    rw [show (exampleEgress classifications).sensitivity.result = _ from exampleSensitivity_result]
    decide

/-- Nothing supplied is nothing objected to. -/
theorem exampleEgress_unclassified :
    ∃ d, EgressDecision.evaluate (exampleEgress []) = .ok d ∧ d.Allows ∧ ¬ EgressDecision.Classified (exampleEgress []) := by
  have hnone : ∀ binding ∈ ([] : List (Option SecurityClassificationBinding)),
      ∃ b, binding = some b ∧ b.Fit "2026-01-01T00:00:00Z" := List.forall_mem_nil _
  obtain ⟨d, hd, ha⟩ := EgressDecision.evaluate_of_grounds (exampleEgress_grounds hnone)
  refine ⟨d, hd, ha, ?_⟩
  rintro ⟨-, ⟨b, hb, -⟩, -⟩
  cases hb

omit [Runtime] in
theorem exampleClassification_fit : exampleClassification.Fit "2026-01-01T00:00:00Z" :=
  ⟨pyAnd_ok_true.mpr ⟨by decide, by decide +kernel⟩, by decide⟩

theorem exampleEgress_classified :
    EgressDecision.Grounds (exampleEgress [some exampleClassification]) :=
  exampleEgress_grounds fun _ h => ⟨_, List.mem_singleton.mp h, exampleClassification_fit⟩

end

theorem allowed_without_classification :
    letI := asciiRuntime
    ∃ d, EgressDecision.evaluate (exampleEgress []) = .ok d ∧ d.Allows ∧
      ¬ EgressDecision.Classified (exampleEgress []) :=
  let := asciiRuntime
  exampleEgress_unclassified

theorem classified_iff_example :
    letI := asciiRuntime
    EgressDecision.Classified (exampleEgress [some exampleClassification]) ↔
      EgressDecision.Unchecked (exampleEgress [some exampleClassification]) := by
  let := asciiRuntime
  obtain ⟨d, hd, ha⟩ := EgressDecision.evaluate_of_grounds exampleEgress_classified
  exact EgressDecision.classified_iff rfl hd ha

end Pmiri
