import Pmiri.Deployment.Completeness
import Pmiri.Deployment.FinalGate
import Pmiri.Python.Raises

/-!
# Verifying evidence

What is wrong with evidence is raised as a failure of the evidence, but for what
loading a key may raise. Evidence that is verified has an item for each
requirement, with texts as its references; the final gate makes a check of each.
-/

namespace Pmiri

open Py

theorem evidenceFailure_raiseIf (c : Bool) (cls msg : String) : OnlyRaises isEvidenceFailure (raiseIf c (.valueError cls msg)) :=
  onlyRaises_raiseIf c rfl

theorem evidenceFailure_isIn (v : Val) (s : List String) : OnlyRaises isEvidenceFailure (v.isIn s) := by
  cases v with
  | list _ | dict _ => exact onlyRaises_error.mpr rfl
  | _ => exact onlyRaises_ok _

theorem evidenceFailure_dictOr (v : Val) (cls msg : String) : OnlyRaises isEvidenceFailure (dictOr v (.valueError cls msg)) := by
  unfold dictOr
  split
  · exact onlyRaises_ok _
  · exact onlyRaises_error.mpr rfl

theorem evidenceFailure_readRecord (file : Option Val) : OnlyRaises isEvidenceFailure (readRecord file) := by
  cases file with
  | none => exact onlyRaises_error.mpr rfl
  | some v => exact evidenceFailure_dictOr v _ _

namespace EvidenceForm

variable {form : EvidenceForm}

theorem evidenceFailure_parties (record : Dict) : OnlyRaises isEvidenceFailure (form.parties record) := by
  refine onlyRaises_bind.mpr ⟨evidenceFailure_dictOr _ _ _, fun issuer _ => ?_⟩
  refine onlyRaises_seq.mpr ⟨evidenceFailure_raiseIf _ _ _, fun _ => ?_⟩
  refine onlyRaises_seq.mpr ⟨evidenceFailure_raiseIf _ _ _, fun _ => ?_⟩
  refine onlyRaises_bind.mpr ⟨evidenceFailure_dictOr _ _ _, fun review _ => ?_⟩
  refine onlyRaises_seq.mpr ⟨evidenceFailure_raiseIf _ _ _, fun _ => ?_⟩
  refine onlyRaises_seq.mpr ⟨evidenceFailure_raiseIf _ _ _, fun _ => ?_⟩
  exact onlyRaises_seq.mpr ⟨evidenceFailure_raiseIf _ _ _, fun _ => onlyRaises_ok _⟩

theorem evidenceFailure_items (record : Dict) : OnlyRaises isEvidenceFailure (form.items record) := by
  unfold items
  split
  · dsimp only
    split
    · exact onlyRaises_ok _
    · exact onlyRaises_error.mpr rfl
  · exact onlyRaises_error.mpr rfl

theorem evidenceFailure_identified (item : Dict) : OnlyRaises isEvidenceFailure (form.identified item) := by
  refine onlyRaises_bind.mpr ⟨evidenceFailure_isIn _ _, fun known _ => ?_⟩
  split
  · exact onlyRaises_seq.mpr ⟨onlyRaises_raiseIf _ rfl, fun _ => onlyRaises_ok _⟩
  · exact onlyRaises_error.mpr rfl

section

variable [Runtime]

theorem evidenceFailure_verifyItem (item : Option Dict) : OnlyRaises isEvidenceFailure (form.verifyItem item) := by
  cases item with
  | none => exact onlyRaises_error.mpr rfl
  | some item =>
    refine onlyRaises_seq.mpr ⟨evidenceFailure_raiseIf _ _ _, fun _ => ?_⟩
    refine onlyRaises_bind.mpr ⟨evidenceFailure_identified item, fun requirement _ => ?_⟩
    refine onlyRaises_seq.mpr ⟨evidenceFailure_raiseIf _ _ _, fun _ => ?_⟩
    refine onlyRaises_seq.mpr ⟨evidenceFailure_raiseIf _ _ _, fun _ => ?_⟩
    refine onlyRaises_seq.mpr ⟨evidenceFailure_raiseIf _ _ _, fun _ => ?_⟩
    exact onlyRaises_seq.mpr ⟨evidenceFailure_raiseIf _ _ _, fun _ => onlyRaises_ok _⟩

theorem evidenceFailure_verifyItems (items : List (Option Dict)) : OnlyRaises isEvidenceFailure (form.verifyItems items) := by
  induction items with
  | nil => exact onlyRaises_ok _
  | cons item items ih =>
    refine onlyRaises_bind.mpr ⟨evidenceFailure_verifyItem item, fun check _ => ?_⟩
    exact onlyRaises_bind.mpr ⟨ih, fun checks _ => onlyRaises_ok _⟩

/-! ## What is verified before the signature -/

/-- The record, its issuer and its reviewer, and its checks. -/
structure Examined where
  record : Dict
  issuer : Dict
  issuerId : String
  reviewerId : String
  checks : List (String × Dict)

/-- What `verify` does before it looks at the signature. -/
def examine (form : EvidenceForm) (file : Option Val) (profileId profileFingerprint : String) : Except Exc Examined := do
  let record ← readRecord file
  raiseIf (!record.keysAre form.fields) (form.error "fields_invalid")
  raiseIf (differs record "artifact_kind" form.artifactKind || differs record "version" form.version ||
    differs record "status" "VERIFIED") (form.error "identity_invalid")
  raiseIf (differs record "profile_id" profileId || differs record "profile_fingerprint" profileFingerprint)
    (form.error "profile_binding_mismatch")
  raiseIf (form.bindings.any fun b => differs record b.1 b.2) (form.error form.bindingError)
  raiseIf (!(isHex 64 profileFingerprint && form.bindings.all fun b => isHex 64 b.2)) (form.error "fingerprint_invalid")
  let parties ← form.parties record
  let items ← form.items record
  let checks ← form.verifyItems items
  return ⟨record, parties.1, parties.2.1, parties.2.2, checks⟩

theorem evidenceFailure_examine (file : Option Val) (profileId profileFingerprint : String) :
    OnlyRaises isEvidenceFailure (form.examine file profileId profileFingerprint) := by
  refine onlyRaises_bind.mpr ⟨evidenceFailure_readRecord file, fun record _ => ?_⟩
  refine onlyRaises_seq.mpr ⟨evidenceFailure_raiseIf _ _ _, fun _ => ?_⟩
  refine onlyRaises_seq.mpr ⟨evidenceFailure_raiseIf _ _ _, fun _ => ?_⟩
  refine onlyRaises_seq.mpr ⟨evidenceFailure_raiseIf _ _ _, fun _ => ?_⟩
  refine onlyRaises_seq.mpr ⟨evidenceFailure_raiseIf _ _ _, fun _ => ?_⟩
  refine onlyRaises_seq.mpr ⟨evidenceFailure_raiseIf _ _ _, fun _ => ?_⟩
  refine onlyRaises_bind.mpr ⟨evidenceFailure_parties record, fun parties _ => ?_⟩
  refine onlyRaises_bind.mpr ⟨evidenceFailure_items record, fun items _ => ?_⟩
  exact onlyRaises_bind.mpr ⟨evidenceFailure_verifyItems items, fun checks _ => onlyRaises_ok _⟩

variable [Cryptography]

theorem verify_eq (file : Option Val) (trustedPublicKey : ByteArray) (profileId profileFingerprint : String) :
    form.verify file trustedPublicKey profileId profileFingerprint = do
      let examined ← form.examine file profileId profileFingerprint
      let evidenceFingerprint ← form.verifySignature examined.record examined.issuer trustedPublicKey
      return ⟨evidenceFingerprint, examined.checks, examined.issuerId, examined.reviewerId⟩ := by
  simp only [verify, examine, bind_assoc, pure_bind]

theorem evidenceFailure_verifySignature {record issuer : Dict} {trustedPublicKey : ByteArray} :
    OnlyRaises isEvidenceFailure (form.verifySignature record issuer trustedPublicKey) ↔
      OnlyRaises isEvidenceFailure (decodePublicKey trustedPublicKey) := by
  refine onlyRaises_bind.trans (and_iff_left fun publicKey _ => ?_)
  refine onlyRaises_seq.mpr ⟨evidenceFailure_raiseIf _ _ _, fun _ => ?_⟩
  refine onlyRaises_seq.mpr ⟨evidenceFailure_raiseIf _ _ _, fun _ => ?_⟩
  split
  · split
    · exact onlyRaises_error.mpr rfl
    · exact onlyRaises_seq.mpr ⟨evidenceFailure_raiseIf _ _ _, fun _ => onlyRaises_ok _⟩
  · exact onlyRaises_error.mpr rfl

/-- Whatever is raised is a failure of the evidence, unless loading the key raises something else once the evidence is examined. -/
theorem evidenceFailure_verify {file : Option Val} {trustedPublicKey : ByteArray} {profileId profileFingerprint : String} :
    OnlyRaises isEvidenceFailure (form.verify file trustedPublicKey profileId profileFingerprint) ↔
      (Returns (form.examine file profileId profileFingerprint) → OnlyRaises isEvidenceFailure (decodePublicKey trustedPublicKey)) := by
  rw [verify_eq]
  refine onlyRaises_bind.trans ((and_iff_right (evidenceFailure_examine file profileId profileFingerprint)).trans ?_)
  have hlast : ∀ examined : Examined, OnlyRaises isEvidenceFailure (do
      let evidenceFingerprint ← form.verifySignature examined.record examined.issuer trustedPublicKey
      return (⟨evidenceFingerprint, examined.checks, examined.issuerId, examined.reviewerId⟩ : VerifiedEvidence)) ↔
      OnlyRaises isEvidenceFailure (decodePublicKey trustedPublicKey) :=
    fun examined => onlyRaises_bind.trans ((and_iff_left fun _ _ => onlyRaises_ok _).trans evidenceFailure_verifySignature)
  simp only [hlast, Returns]
  exact ⟨fun h hexamined => hexamined.elim h, fun h examined hexamined => h ⟨examined, hexamined⟩⟩

/-! ## What is verified -/

omit [Cryptography] in
/-- An item that passes is returned under its id. -/
theorem verifyItem_check {item : Option Dict} {check : String × Dict} (h : form.verifyItem item = .ok check) :
    item = some check.2 ∧ check.2.get "check_id" = .str check.1 ∧ (check.2.get "evidence_refs").isStrList = true := by
  cases item with
  | none => cases h
  | some d =>
    obtain ⟨-, h⟩ := seq_ok.mp h
    obtain ⟨requirement, hr, h⟩ := bind_ok.mp h
    obtain ⟨-, h⟩ := seq_ok.mp h
    obtain ⟨hrefs, h⟩ := seq_ok.mp h
    obtain ⟨-, h⟩ := seq_ok.mp h
    obtain ⟨-, h⟩ := seq_ok.mp h
    obtain rfl := Except.ok.inj h
    rw [raiseIf_ok, Bool.or_eq_false_iff, Bool.not_eq_false', Bool.not_eq_false'] at hrefs
    exact ⟨rfl, (identified_ok hr).2.1, hrefs.2⟩

omit [Cryptography] in
theorem verifyItems_checks {items : List (Option Dict)} {checks : List (String × Dict)} (h : form.verifyItems items = .ok checks) :
    items = checks.map (fun check => some check.2) ∧
      ∀ check ∈ checks, check.2.get "check_id" = .str check.1 ∧ (check.2.get "evidence_refs").isStrList = true := by
  induction items generalizing checks with
  | nil =>
    obtain rfl := Except.ok.inj h
    exact ⟨rfl, nofun⟩
  | cons item items ih =>
    obtain ⟨check, hcheck, h⟩ := bind_ok.mp h
    obtain ⟨rest, hrest, h⟩ := bind_ok.mp h
    obtain rfl := Except.ok.inj h
    obtain ⟨rfl, hitem⟩ := verifyItem_check hcheck
    obtain ⟨rfl, hitems⟩ := ih hrest
    exact ⟨rfl, List.forall_mem_cons.mpr ⟨hitem, hitems⟩⟩

theorem verifySignature_fingerprint {record issuer : Dict} {trustedPublicKey : ByteArray} {fingerprint : String}
    (h : form.verifySignature record issuer trustedPublicKey = .ok fingerprint) : ∃ v, fingerprint = sha256Json v := by
  obtain ⟨key, -, h⟩ := bind_ok.mp h
  obtain ⟨-, h⟩ := seq_ok.mp h
  obtain ⟨-, h⟩ := seq_ok.mp h
  split at h
  · split at h
    · cases h
    · obtain ⟨-, h⟩ := seq_ok.mp h
      exact ⟨_, (Except.ok.inj h).symm⟩
  · cases h

/-- What evidence says once it is verified. -/
structure Says (form : EvidenceForm) (verified : VerifiedEvidence) : Prop where
  fingerprint : isSha256 (.str verified.evidenceFingerprint) = true
  checks : ∀ requirement ∈ form.requirements, ∃ item, verified.checks.lookup requirement.checkId = some item ∧
    (item.get "evidence_refs").isStrList = true

theorem verify_stated (hform : form.WellFormed) {file : Option Val} {trustedPublicKey : ByteArray} {profileId profileFingerprint : String}
    {verified : VerifiedEvidence} (h : form.verify file trustedPublicKey profileId profileFingerprint = .ok verified) :
    form.Says verified := by
  rw [verify_eq] at h
  obtain ⟨examined, hexamined, h⟩ := bind_ok.mp h
  obtain ⟨fingerprint, hsignature, h⟩ := bind_ok.mp h
  obtain rfl := Except.ok.inj h
  obtain ⟨v, rfl⟩ := verifySignature_fingerprint hsignature
  refine ⟨isSha256_sha256Json v, fun requirement hrequirement => ?_⟩
  obtain ⟨record, -, h⟩ := bind_ok.mp hexamined
  simp only [seq_ok] at h
  obtain ⟨-, -, -, -, -, h⟩ := h
  obtain ⟨parties, -, h⟩ := bind_ok.mp h
  obtain ⟨items, hitems, h⟩ := bind_ok.mp h
  obtain ⟨checks, hchecks, h⟩ := bind_ok.mp h
  obtain rfl := Except.ok.inj h
  obtain ⟨xs, -, -, hids⟩ := items_ok hitems
  obtain ⟨rfl, hall⟩ := verifyItems_checks hchecks
  have hnames : checks.map (fun check => Val.str check.1) = form.requirements.map fun r => Val.str r.checkId :=
    calc checks.map (fun check => Val.str check.1)
        = checks.map (fun check => check.2.get "check_id") := List.map_congr_left fun check hcheck => (hall check hcheck).1.symm
      _ = form.checkIds.map .str := by rw [← hids, List.filterMap_map]; exact (congrFun List.filterMap_eq_map checks).symm
      _ = form.requirements.map fun r => Val.str r.checkId := by rw [hform.sorted, List.map_map]; rfl
  have hmem : Val.str requirement.checkId ∈ checks.map fun check => Val.str check.1 :=
    hnames ▸ List.mem_map_of_mem hrequirement
  obtain ⟨check, hcheck, hid⟩ := List.mem_map.mp hmem
  have hsome : (checks.lookup requirement.checkId).isSome = true := by
    rw [lookup_isSome_iff, ← Val.str.inj hid]
    exact List.mem_map_of_mem hcheck
  obtain ⟨item, hitem⟩ := Option.isSome_iff_exists.mp hsome
  exact ⟨item, hitem, (hall _ (mem_of_lookup hitem)).2⟩

end

end EvidenceForm

/-! ## The steps of the final gate -/

section

variable [Runtime]

/-- A readiness report has no errors if its validator finds none, and it is of the project. -/
theorem readinessErrors_nil {fs : FileSystem} {workingDirectory root : List String} {readiness : Option Dict} :
    readinessErrors fs workingDirectory root readiness = .ok [] ↔
      ∃ report, readiness = some report ∧ validateReadinessReport report = .ok [] ∧ belongsTo fs workingDirectory root report = true := by
  cases readiness with
  | none => exact iff_of_false nofun fun h => nomatch h.choose_spec.1
  | some report =>
    simp only [Option.some.injEq, exists_eq_left']
    refine bind_ok.trans ?_
    constructor
    · intro h
      obtain ⟨errors, herrors, h⟩ := h
      have h := Except.ok.inj h
      split at h
      · cases h
      · rename_i hcondition
        subst h
        exact ⟨herrors, by simpa using hcondition⟩
    · intro h
      refine ⟨[], h.1, ?_⟩
      rw [h.2]
      rfl

/-- The check of a readiness report that is there has been validated. -/
theorem readinessCheck_returns {readiness : Option Dict} (h : ∀ report, readiness = some report → validateReadinessReport report = .ok []) :
    Returns (readinessCheck readiness) := by
  cases readiness with
  | none => exact returns_ok _
  | some report =>
    have hvalid := h report rfl
    obtain ⟨⟨xs, hxs, -⟩, -⟩ := validateReadinessReport_nil hvalid
    refine returns_bind.mpr ⟨[], hvalid, ?_⟩
    dsimp only
    rw [hxs]
    refine returns_bind.mpr ⟨xs, rfl, ?_⟩
    split <;> exact returns_ok _

variable [Cryptography] [FloatText] {fs : FileSystem} {root : List String} {request : AcceptanceRequest} {errors : List String}
  {binding : ReadinessBinding}

/-- The evidence that the request names is verified with the key that it names, for this readiness report. -/
def VerifiedFor (fs : FileSystem) (root : List String) (request : AcceptanceRequest) (binding : ReadinessBinding)
    (evidence : VerifiedEvidence) : Prop :=
  ∃ evidencePath publicKeyPath key, request.evidencePath = some evidencePath ∧ request.publicKeyPath = some publicKeyPath ∧
    readBytes fs (resolveBelow fs root publicKeyPath) = .ok key ∧
    verifyFinalAcceptanceEvidence (readJsonFile fs (resolveBelow fs root evidencePath)) key binding.profileId binding.profileFingerprint
      binding.authorityFingerprint binding.readinessFingerprint = .ok evidence

/-- There is evidence if it is verified, and then the readiness report has no errors. -/
theorem finalEvidence_ok {outcome : EvidenceOutcome} (h : finalEvidence fs root request errors binding = .ok outcome) :
    (outcome.evidence = none ∧ (outcome.status = "NOT_SUPPLIED" ∨ outcome.status = "INVALID")) ∨
      ∃ evidence, outcome.evidence = some evidence ∧ outcome.status = "VERIFIED" ∧ errors = [] ∧
        VerifiedFor fs root request binding evidence := by
  unfold finalEvidence at h
  split at h
  · obtain rfl := Except.ok.inj h
    exact .inl ⟨rfl, .inl rfl⟩
  · rename_i evidencePath publicKeyPath hevidence hkey
    split at h
    · obtain rfl := Except.ok.inj h
      exact .inl ⟨rfl, .inr rfl⟩
    · dsimp only at h
      split at h
      · rename_i evidence hverified
        obtain rfl := Except.ok.inj h
        obtain ⟨key, hread, hverify⟩ := bind_ok.mp hverified
        exact .inr ⟨evidence, rfl, rfl, rfl, evidencePath, publicKeyPath, key, hevidence, hkey, hread, hverify⟩
      · split at h
        · obtain rfl := Except.ok.inj h
          exact .inl ⟨rfl, .inr rfl⟩
        · cases h
  · obtain rfl := Except.ok.inj h
    exact .inl ⟨rfl, .inr rfl⟩

theorem VerifiedFor.says {evidence : VerifiedEvidence} (h : VerifiedFor fs root request binding evidence) :
    (finalAcceptanceEvidence binding.authorityFingerprint binding.readinessFingerprint).Says evidence := by
  obtain ⟨evidencePath, publicKeyPath, key, -, -, -, hverify⟩ := h
  exact EvidenceForm.verify_stated (wellFormed_finalAcceptanceEvidence _ _) hverify

theorem finalEvidence_stated {outcome : EvidenceOutcome} (h : finalEvidence fs root request errors binding = .ok outcome)
    (evidence : VerifiedEvidence) (hevidence : outcome.evidence = some evidence) :
    (finalAcceptanceEvidence binding.authorityFingerprint binding.readinessFingerprint).Says evidence := by
  rcases finalEvidence_ok h with ⟨hnone, -⟩ | ⟨evidence', hevidence', -, -, hverified⟩
  · rw [hnone] at hevidence
    cases hevidence
  · obtain rfl := Option.some.inj (hevidence'.symm.trans hevidence)
    exact hverified.says

omit [Cryptography] [FloatText] in
/-- With verified evidence, or without, each assertion has its check. -/
theorem assertionCheck_returns {outcome : EvidenceOutcome} {authorityFingerprint readinessFingerprint : String}
    (h : ∀ evidence, outcome.evidence = some evidence →
      (finalAcceptanceEvidence authorityFingerprint readinessFingerprint).Says evidence) :
    Returns (FINAL_ACCEPTANCE_ASSERTIONS.mapM (assertionCheck outcome)) := by
  refine returns_mapM.mpr fun requirement hrequirement => ?_
  unfold assertionCheck
  split
  · exact returns_ok _
  · rename_i evidence hevidence
    obtain ⟨item, hitem, hrefs⟩ := (h evidence hevidence).checks requirement hrequirement
    rw [hitem]
    dsimp only
    refine returns_map.mpr ?_
    cases hv : item.get "evidence_refs" with
    | list xs => exact returns_ok _
    | _ => rw [hv] at hrefs; cases hrefs

/-- Where the evidence of the request is examined, loading its key raises nothing but failures of the evidence. -/
def KeyLoads (fs : FileSystem) (root : List String) (request : AcceptanceRequest) (binding : ReadinessBinding) : Prop :=
  ∀ evidencePath, request.evidencePath = some evidencePath → ∀ publicKeyPath, request.publicKeyPath = some publicKeyPath →
    ∀ key, readBytes fs (resolveBelow fs root publicKeyPath) = .ok key →
      Returns ((finalAcceptanceEvidence binding.authorityFingerprint binding.readinessFingerprint).examine
        (readJsonFile fs (resolveBelow fs root evidencePath)) binding.profileId binding.profileFingerprint) →
      OnlyRaises isEvidenceFailure (decodePublicKey key)

theorem finalEvidence_returns : Returns (finalEvidence fs root request errors binding) ↔ (errors = [] → KeyLoads fs root request binding) := by
  unfold finalEvidence KeyLoads
  split
  · rename_i hevidence _
    exact iff_of_true (returns_ok _) fun _ _ h => by rw [hevidence] at h; cases h
  · rename_i evidencePath publicKeyPath hevidence hkey
    split
    · exact iff_of_true (returns_ok _) nofun
    · have hread : OnlyRaises isEvidenceFailure (readBytes fs (resolveBelow fs root publicKeyPath)) := by
        unfold readBytes
        split
        · exact onlyRaises_ok _
        · exact onlyRaises_error.mpr rfl
      have hverified : OnlyRaises isEvidenceFailure ((readBytes fs (resolveBelow fs root publicKeyPath)).bind fun key =>
          verifyFinalAcceptanceEvidence (readJsonFile fs (resolveBelow fs root evidencePath)) key binding.profileId
            binding.profileFingerprint binding.authorityFingerprint binding.readinessFingerprint) ↔
          ∀ key, readBytes fs (resolveBelow fs root publicKeyPath) = .ok key →
            Returns ((finalAcceptanceEvidence binding.authorityFingerprint binding.readinessFingerprint).examine
              (readJsonFile fs (resolveBelow fs root evidencePath)) binding.profileId binding.profileFingerprint) →
            OnlyRaises isEvidenceFailure (decodePublicKey key) :=
        onlyRaises_bind.trans ((and_iff_right hread).trans (forall₂_congr fun key _ => EvidenceForm.evidenceFailure_verify))
      simp only [hevidence, hkey, Option.some.injEq, forall_eq', forall_const, ← hverified]
      rw [OnlyRaises]
      split
      · rename_i evidence hevidence
        exact iff_of_true (returns_ok _) fun e he => by rw [hevidence] at he; cases he
      · rename_i e he
        split
        · rename_i hcaught
          refine iff_of_true (returns_ok _) fun e' he' => ?_
          rwa [← Except.error.inj (he.symm.trans he')]
        · rename_i hcaught
          exact iff_of_false (not_returns_error _) fun h => hcaught (h e he)
  · rename_i _ hboth
    exact iff_of_true (returns_ok _) fun _ evidencePath h publicKeyPath h' => (hboth evidencePath publicKeyPath h h').elim

/-- The readiness report at the path of a request. -/
def AcceptanceRequest.readiness (request : AcceptanceRequest) (fs : FileSystem) : Option Dict :=
  readJsonObject fs (resolveBelow fs (fs.resolve request.projectRoot) request.readinessPath)

/-- The steps to a report, for the readiness report that has been validated. -/
structure Built (fs : FileSystem) (request : AcceptanceRequest) (valid : Option Dict) (report : Dict) (first : Dict)
    (outcome : EvidenceOutcome) (checks : List Dict) : Prop where
  readiness : readinessCheck valid = .ok first
  assertions : FINAL_ACCEPTANCE_ASSERTIONS.mapM (assertionCheck outcome) = .ok checks
  report : report = finalReport (unsignedFinalReport (absoluteAsPosix (fs.resolve request.projectRoot)) request.captured
    (readinessBinding valid) outcome (first :: checks))

theorem buildWithReadiness_ok {readiness : Option Dict} {report : Dict} (h : buildWithReadiness fs request readiness = .ok report) :
    ∃ errors valid first outcome checks,
      readinessErrors fs request.workingDirectory (fs.resolve request.projectRoot) readiness = .ok errors ∧
      valid = (if errors.isEmpty then readiness else none) ∧
      finalEvidence fs (fs.resolve request.projectRoot) request errors (readinessBinding valid) = .ok outcome ∧
      Built fs request valid report first outcome checks := by
  unfold buildWithReadiness at h
  extract_lets root at h
  obtain ⟨errors, herrors, h⟩ := bind_ok.mp h
  extract_lets valid binding at h
  obtain ⟨first, hfirst, h⟩ := bind_ok.mp h
  obtain ⟨outcome, houtcome, h⟩ := bind_ok.mp h
  obtain ⟨checks, hchecks, h⟩ := bind_ok.mp h
  exact ⟨errors, valid, first, outcome, checks, herrors, rfl, houtcome, hfirst, hchecks, (Except.ok.inj h).symm⟩

theorem buildFinalAcceptanceReport_ok {report : Dict} (h : buildFinalAcceptanceReport fs request = .ok report) :
    ∃ errors valid first outcome checks,
      readinessErrors fs request.workingDirectory (fs.resolve request.projectRoot) (request.readiness fs) = .ok errors ∧
      valid = (if errors.isEmpty then request.readiness fs else none) ∧
      finalEvidence fs (fs.resolve request.projectRoot) request errors (readinessBinding valid) = .ok outcome ∧
      Built fs request valid report first outcome checks := buildWithReadiness_ok h

end

end Pmiri
