import Pmiri.Replay.Runner

/-!
# The gate of a case

What holds of a run whenever the handler of a case is invoked: of the
fingerprints, of operator and reviewer, of the preflight record and the
attestation of this very case, of the handler manifest and of the identity of
the runner. Each check of the gate has one lemma that says what follows where
it has no objection.
-/

namespace Pmiri

open Py

/-- No objection is raised where the first does not apply and the others are not raised. -/
theorem noObjection_iff {c : Prop} [Decidable c] {reason : String} {x : Except Exc (Option String)} :
    (if c then pure (some reason) else x) = .ok none ↔ ¬ c ∧ x = .ok none := by
  split <;> rename_i h <;> simp [h, pure, Except.pure]

/-! ## Runs -/

/-- The runner that may run the cases. -/
structure PinnedRunner (identity : Dict) : Prop where
  runnerId : identity.get "runner_id" = .str RUNNER_ID
  runnerVersion : identity.get "runner_version" = .str RUNNER_VERSION
  noAlias : identity.get "latest_alias_allowed" = .bool false
  noUpgrade : identity.get "self_upgrade_allowed" = .bool false

theorem verifyIdentity_ok {identity : Dict} : verifyIdentity identity = .ok () ↔ PinnedRunner identity := by
  simp only [verifyIdentity, seq_ok, raiseIf_ok, Bool.or_eq_false_iff, differs_false, Bool.not_eq_false', Val.isFalse_iff]
  constructor
  · intro h
    obtain ⟨⟨hid, hversion⟩, halias, hupgrade⟩ := h
    exact ⟨hid, hversion, halias, hupgrade⟩
  · intro h
    exact ⟨⟨h.runnerId, h.runnerVersion⟩, h.noAlias, h.noUpgrade⟩

theorem fingerprintsOk_iff {fingerprints : Dict} :
    fingerprintsOk fingerprints = true ↔ ∀ name ∈ REPLAY_FINGERPRINTS, isSha256 (fingerprints.get name) = true :=
  List.all_eq_true

/-- An operator and another reviewer are named. -/
def Separated (run : CandidateRun) : Prop :=
  ∃ operator reviewer, run.operatorRef = some operator ∧ run.independentReviewerRef = some reviewer ∧
    operator ≠ "" ∧ reviewer ≠ "" ∧ operator ≠ reviewer

theorem reviewerSeparated_iff {run : CandidateRun} : reviewerSeparated run = true ↔ Separated run := by
  unfold reviewerSeparated Separated
  split
  · rename_i operator reviewer hoperator hreviewer
    simp [hoperator, hreviewer, and_assoc]
  · rename_i hnone
    refine ⟨nofun, fun h => ?_⟩
    obtain ⟨operator, reviewer, hoperator, hreviewer, -⟩ := h
    exact absurd hreviewer (hnone operator reviewer hoperator)

/-! ## Preflight records -/

/-- A preflight record that lets a case of a fixture run with these fingerprints. -/
structure ReadyFor (record : Dict) (fixtureId caseId : String) (fingerprints : Dict) : Prop where
  overall : record.get "overall_result" = .str "READY_FOR_REPLAY"
  fixture : record.get "selected_fixture_id" = .str fixtureId
  case : record.get "selected_case_id" = .str caseId
  checks : ∃ items, record.get "checks" = .list items ∧
    List.Forall₂ (fun item checkId => item.getOf "check_id" = .ok (.str checkId)) items preflightCheckIds ∧
    ∀ item ∈ items, item.getOf "result" = .ok (.str "READY")
  source : (record.getD "runner" (.dict [])).getOf "source_fingerprint" = .ok (fingerprints.get "runner_source")
  inputs : ∀ binding ∈ inputBindings,
    (record.getD "inputs" (.dict [])).getOf binding.1 = .ok (fingerprints.get binding.2)

section

variable [Runtime]

/-- The checks of a record without errors are the sixteen checks, in their order. -/
theorem preflightChecksErrors_ok {checks : Val} (h : preflightChecksErrors checks = .ok []) :
    ∃ items, checks = .list items ∧ (items.mapM fun item => item.getOf "check_id") = .ok (preflightCheckIds.map .str) := by
  unfold preflightChecksErrors at h
  split at h
  · rename_i items
    split at h
    · obtain ⟨ids, hids, h⟩ := bind_ok.mp h
      obtain ⟨errors, -, h⟩ := bind_ok.mp h
      obtain ⟨hordered, -⟩ := List.append_eq_nil_iff.mp (Except.ok.inj h)
      rw [errorIf_nil, Bool.not_eq_false', Val.eqList_str] at hordered
      exact ⟨items, rfl, hordered ▸ hids⟩
    · cases h
  · cases h

omit [Runtime] in
theorem mem_inputBindings {binding : String × String} (h : binding ∈ inputBindings) : binding.2 ∈ REPLAY_FINGERPRINTS := by
  revert binding
  decide

/-- A record with the shape of one that raises no objection lets its case run. -/
theorem ReadyFor.of_checked {record : Dict} {fixtureId caseId : String} {fingerprints : Dict}
    (hfp : ∀ name ∈ REPLAY_FINGERPRINTS, isSha256 (fingerprints.get name) = true)
    (hshape : validatePreflightRecordShape record = .ok [])
    (h : preflightReason record fixtureId caseId fingerprints = .ok none) : ReadyFor record fixtureId caseId fingerprints := by
  obtain ⟨items, hitems, hids⟩ : ∃ items, record.get "checks" = .list items ∧
      (items.mapM fun item => item.getOf "check_id") = .ok (preflightCheckIds.map .str) := by
    unfold validatePreflightRecordShape at hshape
    simp only [bind_ok] at hshape
    obtain ⟨status, -, identity, -, unbound, -, observed, -, artifacts, -, sealed, -, errors, herrors, hshape⟩ := hshape
    obtain ⟨-, rfl⟩ := List.append_eq_nil_iff.mp (Except.ok.inj hshape)
    exact preflightChecksErrors_ok herrors
  have hchecks : record.getD "checks" (.list []) = .list items := by
    rw [Dict.getD_of_contains _ (Dict.contains_of_get (by rw [hitems]; nofun)), hitems]
  unfold preflightReason at h
  simp only [noObjection_iff, bind_ok, hchecks, Val.elements, Except.ok.injEq, exists_eq_left', Bool.not_eq_true,
    Bool.or_eq_false_iff, differs_false, Bool.not_eq_false'] at h
  obtain ⟨hoverall, ⟨hfixture, hcase⟩, ready, hready, rfl, source, hsource, hrunner, bound, hbound, rfl, -⟩ := h
  refine ⟨hoverall, hfixture, hcase, ⟨items, hitems, ?_, fun item hitem => ?_⟩, ?_, fun binding hbinding => ?_⟩
  · rwa [mapM_iff_forall₂, List.forall₂_map_right_iff] at hids
  · exact fieldDiffers_ok_false.mp (anyM_ok_false.mp hready item hitem)
  · rw [hsource, eq_of_isSha256 (hfp "runner_source" (by decide)) hrunner]
  · obtain ⟨value, hvalue, hne⟩ := bind_ok.mp (anyM_ok_false.mp hbound binding hbinding)
    simp only [pure, Except.pure, Except.ok.injEq, Bool.not_eq_false'] at hne
    rw [hvalue, eq_of_isSha256 (hfp binding.2 (mem_inputBindings hbinding)) hne]

theorem preflightFileReason_none {content : Val} {fixtureId caseId : String} {fingerprints : Dict}
    (hfp : ∀ name ∈ REPLAY_FINGERPRINTS, isSha256 (fingerprints.get name) = true)
    (h : preflightFileReason content fixtureId caseId fingerprints = .ok none) :
    ∃ record, content.asDict = some record ∧ ReadyFor record fixtureId caseId fingerprints := by
  unfold preflightFileReason at h
  split at h
  · cases h
  · rename_i record hrecord
    obtain ⟨errors, herrors, h⟩ := bind_ok.mp h
    split at h
    · rename_i hempty
      rw [List.isEmpty_iff.mp hempty] at herrors
      exact ⟨record, hrecord, .of_checked hfp herrors h⟩
    · cases h

/-- The preflight of a case has no objection only where its own file holds a record that lets it run. -/
theorem casePreflight_none {env : Surroundings} {run : CandidateRun} {fixtureId caseId : String}
    (hfp : ∀ name ∈ REPLAY_FINGERPRINTS, isSha256 (run.fingerprints.get name) = true)
    (h : casePreflight env run fixtureId caseId = .ok none) :
    ∃ path content record, run.preflightPaths.lookup caseId = some path ∧ env.preflight caseId path = .ok content ∧
      content.asDict = some record ∧ ReadyFor record fixtureId caseId run.fingerprints := by
  unfold casePreflight at h
  split at h
  · cases h
  · rename_i path hpath
    split at h
    · split at h <;> cases h
    · rename_i content hcontent
      obtain ⟨record, hrecord, hready⟩ := preflightFileReason_none hfp h
      exact ⟨path, content, record, hpath, hcontent, hrecord, hready⟩

/-! ## Attestations -/

/-- An attestation that lets a case run with these fingerprints. -/
structure AttestedFor (record : Dict) (caseId : String) (fingerprints : Dict) : Prop where
  digest : record.get "attestation_sha256" = .str (sha256Json (record.without "attestation_sha256").toVal)
  status : record.get "status" = .str "VERIFIED"
  outcome : record.get "outcome" = .str "READY_FOR_REPLAY"
  case : (record.getD "case" (.dict [])).getOf "case_id" = .ok (.str caseId)
  fingerprints : ∀ name ∈ REPLAY_FINGERPRINTS.dropLast,
    (record.getD "fingerprints" (.dict [])).getOf name = .ok (fingerprints.get name)

omit [Runtime] in
theorem fingerprintMismatch_none {attested : Val} {fingerprints : Dict} {names : List String}
    (hfp : ∀ name ∈ names, isSha256 (fingerprints.get name) = true)
    (h : fingerprintMismatch attested fingerprints names = .ok none) :
    ∀ name ∈ names, attested.getOf name = .ok (fingerprints.get name) := by
  induction names with
  | nil => exact List.forall_mem_nil _
  | cons name names ih =>
    rw [fingerprintMismatch] at h
    obtain ⟨value, hvalue, h⟩ := bind_ok.mp h
    split at h
    · rename_i heq
      rw [List.forall_mem_cons] at hfp ⊢
      rw [hvalue, eq_of_isSha256 hfp.1 heq]
      exact ⟨rfl, ih hfp.2 h⟩
    · cases h

/-- What is loaded is the record of the file, with its digest; a record that is verified has its observations. -/
theorem loadAttestation_ok {file : Except Exc Val} {record : Dict} {isolation : Isolation}
    (h : loadAttestation file = .ok (record, isolation)) :
    ∃ content, file = .ok content ∧ content.asDict = some record ∧
      record.get "attestation_sha256" = .str (sha256Json (record.without "attestation_sha256").toVal) ∧
      (record.get "status" = .str "VERIFIED" → (verifyAttestation isolation).1 = true) := by
  unfold loadAttestation at h
  simp only [bind_ok] at h
  obtain ⟨content, hcontent, record', hrecord, ⟨⟩, -, ⟨⟩, hdigest, ⟨⟩, -, ⟨⟩, -, ⟨⟩, -, rootPolicy, -, ⟨⟩, -, ⟨⟩, -, ⟨⟩, -,
    observations, -, ⟨⟩, hstatus, h⟩ := h
  obtain ⟨rfl, rfl⟩ := Prod.mk.inj (Except.ok.inj h)
  simp only [raiseIf_ok, Bool.or_eq_false_iff, Bool.not_eq_false', Val.eq_str, differs_false] at hdigest hstatus
  have hfile : file = .ok content := by
    unfold readJson at hcontent
    split at hcontent
    · exact congrArg Except.ok (Except.ok.inj hcontent)
    · cases hcontent
  refine ⟨content, hfile, dictOr_ok.mp hrecord, hdigest.2, fun hverified => ?_⟩
  rw [hstatus.1, Val.str.injEq] at hverified
  split at hverified
  · rename_i hready
    exact (Bool.and_eq_true _ _ ▸ hready).1
  · split at hverified <;> exact absurd hverified (by decide)

/-- The attestation of a case is accepted only where its own file holds one that lets it run. -/
theorem caseAttestation_ok {env : Surroundings} {run : CandidateRun} {caseId : String} {record : Dict} {isolation : Isolation}
    (hfp : ∀ name ∈ REPLAY_FINGERPRINTS, isSha256 (run.fingerprints.get name) = true)
    (h : caseAttestation env run caseId = .ok (.ok (record, isolation))) :
    ∃ path content, run.attestationPaths.lookup caseId = some path ∧ env.attestation caseId path = .ok content ∧
      content.asDict = some record ∧ AttestedFor record caseId run.fingerprints ∧ (verifyAttestation isolation).1 = true := by
  unfold caseAttestation at h
  split at h
  · cases h
  · rename_i path hpath
    split at h
    · split at h <;> cases h
    · rename_i record' observations hload
      obtain ⟨reason, hreason, h⟩ := bind_ok.mp h
      split at h
      · cases h
      · obtain ⟨rfl, rfl⟩ := Prod.mk.inj (Except.ok.inj (Except.ok.inj h))
        obtain ⟨content, hcontent, hrecord, hdigest, hverified⟩ := loadAttestation_ok hload
        unfold attestationReason at hreason
        simp only [noObjection_iff, bind_ok, Bool.not_eq_true, Bool.or_eq_false_iff, differs_false] at hreason
        obtain ⟨⟨hstatus, houtcome⟩, differs, hcase, rfl, hfingerprints⟩ := hreason
        have hnames := fingerprintMismatch_none (fun name hname => hfp name (List.dropLast_subset _ hname)) hfingerprints
        exact ⟨path, content, hpath, hcontent, hrecord,
          ⟨hdigest, hstatus, houtcome, fieldDiffers_ok_false.mp hcase, hnames⟩, hverified hstatus⟩

/-! ## Handlers -/

/-- A manifest that declares a handler for a case: its own digest, and the module, the source file with its content and
the symbol of the handler. -/
structure DeclaresHandler (files : SourceFiles) (manifest : Dict) (caseId : String) (handler : CaseHandler) : Prop where
  digest : manifest.get "handler_manifest_sha256" = .str (sha256Json (manifest.without "handler_manifest_sha256").toVal)
  status : manifest.get "status" = .str "READY_FOR_REPLAY"
  callable : handler.callable = true
  source : ∃ module symbols source content, (manifest.get "module").asDict = some module ∧
    (manifest.get "handlers").asDict = some symbols ∧ handlerSource files handler = .ok source ∧
    module.get "module_id" = .str source.moduleId ∧ symbols.get caseId = .str source.symbol ∧
    files.resolve (files.underRoot (module.get "source_path").strText) = .ok source.path ∧
    files.readBytes source.path = .ok content ∧ module.get "source_fingerprint" = .str (sha256Bytes content)

omit [Runtime] in
theorem symbolMismatch_none {symbols : Dict} {sources : List (String × HandlerSource)}
    (h : symbolMismatch symbols sources = none) : ∀ entry ∈ sources, symbols.get entry.1 = .str entry.2.symbol := by
  induction sources with
  | nil => exact List.forall_mem_nil _
  | cons entry sources ih =>
    rw [symbolMismatch] at h
    split at h
    · rename_i heq
      exact List.forall_mem_cons.mpr ⟨Val.eq_str.mp heq, ih h⟩
    · cases h

/-- What the sources of the handlers have in common with the module of the manifest. -/
theorem sourceContract_none {files : SourceFiles} {module symbols : Dict} {sources : List (String × HandlerSource)}
    (h : sourceContract files module symbols sources = .ok none) :
    ∃ path content, files.resolve (files.underRoot (module.get "source_path").strText) = .ok path ∧
      files.readBytes path = .ok content ∧ module.get "source_fingerprint" = .str (sha256Bytes content) ∧
      ∀ entry ∈ sources, module.get "module_id" = .str entry.2.moduleId ∧ entry.2.path = path ∧
        symbols.get entry.1 = .str entry.2.symbol := by
  unfold sourceContract at h
  rw [noObjection_iff, Bool.not_eq_true, List.any_eq_false] at h
  obtain ⟨hmodule, h⟩ := h
  cases sources with
  | nil => cases h
  | cons entry rest =>
    simp only [noObjection_iff, bind_ok, Bool.not_eq_true, List.any_eq_false, bne_eq_false_iff_eq, Bool.not_eq_false',
      Val.eq_str] at h
    obtain ⟨hpaths, path, hpath, rfl, content, hcontent, hfingerprint, hsymbols⟩ := h
    refine ⟨entry.2.path, content, hpath, hcontent, hfingerprint, fun other hother => ⟨?_, ?_, ?_⟩⟩
    · have := hmodule other hother
      rwa [Bool.not_eq_true, Bool.not_eq_false', Val.eq_str] at this
    · rcases List.mem_cons.mp hother with rfl | hother
      · rfl
      · exact hpaths other hother
    · exact symbolMismatch_none (Except.ok.inj hsymbols) other hother

/-- The contract of a manifest with the registered handlers has no objection only where it declares each of them. -/
theorem handlerContract_none {files : SourceFiles} {manifest : Dict} {handlers : List (String × CaseHandler)}
    {selectedIds : List String} (h : handlerContract files manifest handlers selectedIds = .ok none) {caseId : String}
    {handler : CaseHandler} (hhandler : (caseId, handler) ∈ handlers) : DeclaresHandler files manifest caseId handler := by
  unfold handlerContract at h
  simp only [noObjection_iff, Bool.not_eq_true, Bool.or_eq_false_iff, Bool.not_eq_false', Val.eq_str, differs_false] at h
  obtain ⟨-, ⟨-, hdigest⟩, ⟨-, hstatus⟩, h⟩ := h
  split at h
  · cases h
  · rename_i module hmodule
    rw [noObjection_iff] at h
    obtain ⟨-, h⟩ := h
    split at h
    · rename_i manifestIds symbols hids hsymbols
      simp only [bind_ok, noObjection_iff, Bool.not_eq_true] at h
      obtain ⟨sorted, -, -, covered, -, -, -, -, -, -, sources, hsources, hcallable, h⟩ := h
      obtain ⟨entry, hentry⟩ := returns_of_mapM hsources hhandler
      obtain ⟨source, hsource, he⟩ := bind_ok.mp hentry
      obtain rfl := Except.ok.inj he
      obtain ⟨path, content, hpath, hcontent, hfingerprint, hall⟩ := sourceContract_none h
      obtain ⟨hid, rfl, hsymbol⟩ := hall _ ((mem_mapM hsources).mpr ⟨_, hhandler, hentry⟩)
      have := List.any_eq_false.mp hcallable _ hhandler
      rw [Bool.not_eq_true, Bool.not_eq_false'] at this
      exact ⟨hdigest, hstatus, this, module, symbols, source, content, hmodule, hsymbols, hsource, hid, hsymbol, hpath, hcontent,
        hfingerprint⟩
    · obtain ⟨sorted, -, h⟩ := bind_ok.mp h
      cases h
    · cases h

theorem validateHandlerContract_none {files : SourceFiles} {run : CandidateRun} {selectedIds : List String}
    (h : validateHandlerContract files run.handlerManifest run.caseHandlers selectedIds = .ok none) {caseId : String}
    {handler : CaseHandler} (hhandler : run.handler? caseId = some handler) :
    ∃ manifest, run.handlerManifest = some manifest ∧ DeclaresHandler files manifest caseId handler := by
  unfold validateHandlerContract at h
  split at h
  · cases h
  · rename_i _ manifest hmanifest
    split at h
    · rename_i reason hreason
      obtain rfl := Except.ok.inj h
      exact ⟨manifest, hmanifest, handlerContract_none hreason (mem_of_lookup hhandler)⟩
    · split at h <;> cases h

/-! ## Cases behind their gates -/

/-- What lets the handler of a case run. -/
structure Cleared (env : Surroundings) (run : CandidateRun) (case : DeclaredCase) : Prop where
  fingerprints : ∀ name ∈ REPLAY_FINGERPRINTS, isSha256 (run.fingerprints.get name) = true
  separated : Separated run
  preflight : ∃ path content record fixtureId, run.preflightPaths.lookup case.caseId = some path ∧
    env.preflight case.caseId path = .ok content ∧ content.asDict = some record ∧
    case.fixture.item "fixture_id" = .ok fixtureId ∧ ReadyFor record fixtureId.toStr case.caseId run.fingerprints
  attestation : ∃ path content record, run.attestationPaths.lookup case.caseId = some path ∧
    env.attestation case.caseId path = .ok content ∧ content.asDict = some record ∧
    AttestedFor record case.caseId run.fingerprints
  handler : ∃ manifest handler, run.handlerManifest = some manifest ∧ run.handler? case.caseId = some handler ∧
    DeclaresHandler env.files manifest case.caseId handler
  identity : PinnedRunner run.identity

/-- A gate that passes a case has checked all but the identity of the runner, which its session checks. -/
theorem caseGate_passed {env : Surroundings} {run : CandidateRun} {selectedIds : List String} {contract : Option String}
    (hcontract : validateHandlerContract env.files run.handlerManifest run.caseHandlers selectedIds = .ok contract)
    {case : DeclaredCase} {handler : CaseHandler} {record : Dict} {isolation : Isolation}
    (h : caseGate env run contract case = .ok (.passed handler record isolation)) :
    (PinnedRunner run.identity → Cleared env run case) ∧ fingerprintsOk run.fingerprints = true ∧
      (verifyAttestation isolation).1 = true := by
  unfold caseGate at h
  split at h
  · cases h
  · rename_i hfp
    rw [Bool.not_eq_true, Bool.not_eq_false'] at hfp
    have hnames := fingerprintsOk_iff.mp hfp
    split at h
    · cases h
    · rename_i hseparated
      rw [Bool.not_eq_true, Bool.not_eq_false', reviewerSeparated_iff] at hseparated
      split at h
      · cases h
      · rename_i handler' hhandler
        split at h
        · cases h
        · obtain ⟨fixtureId, hfixture, h⟩ := bind_ok.mp h
          obtain ⟨reason, hpreflight, h⟩ := bind_ok.mp h
          split at h
          · cases h
          · obtain ⟨path, content, preflight, hpath, hcontent, hrecord, hready⟩ := casePreflight_none hnames hpreflight
            obtain ⟨accepted, hattestation, h⟩ := bind_ok.mp h
            split at h
            · cases h
            · obtain ⟨path', content', hpath', hcontent', hrecord', hattested, hisolation⟩ := caseAttestation_ok hnames hattestation
              split at h
              · cases h
              · obtain ⟨rfl, rfl, rfl⟩ := Gate.passed.inj (Except.ok.inj h)
                obtain ⟨manifest, hmanifest, hdeclares⟩ := validateHandlerContract_none hcontract hhandler
                exact ⟨fun hidentity => ⟨hnames, hseparated,
                  ⟨path, content, preflight, fixtureId, hpath, hcontent, hrecord, hfixture, hready⟩,
                  ⟨path', content', _, hpath', hcontent', hrecord', hattested⟩,
                  ⟨manifest, handler', hmanifest, hhandler, hdeclares⟩, hidentity⟩, hfp, hisolation⟩

theorem runCase_invoked {caseId : String} {identity : Dict} {isolation : Option Isolation} {fingerprints : Dict}
    {case : Except Exc Dict} (h : (runCase caseId identity isolation fingerprints case).2 = true) : PinnedRunner identity := by
  unfold runCase at h
  split at h
  · cases h
  · rename_i hidentity
    exact verifyIdentity_ok.mp hidentity

theorem runControlledCase_invoked {steps : SessionSteps} {caseId : String} {identity : Dict} {isolation : Option Isolation}
    {fingerprints : Dict} {persistDir : Option String}
    (h : (runControlledCase steps caseId identity isolation fingerprints persistDir).2 = true) : PinnedRunner identity := by
  unfold runControlledCase at h
  split at h
  · cases h
  · split at h
    · cases h
    · split at h
      · cases h
      · split at h
        · cases h
        · split at h
          · cases h
          · exact runCase_invoked h

/-- A case whose handler is invoked has passed its gate. -/
theorem Cleared.of_invoked {env : Surroundings} {run : CandidateRun} {selectedIds : List String} {contract : Option String}
    (hcontract : validateHandlerContract env.files run.handlerManifest run.caseHandlers selectedIds = .ok contract)
    {authorityFp : String} {case : DeclaredCase} (h : (runCandidateCase env run authorityFp contract case).2 = true) :
    Cleared env run case := by
  unfold runCandidateCase at h
  split at h
  · cases h
  · cases h
  · rename_i hgate
    exact (caseGate_passed hcontract hgate).1 (runControlledCase_invoked h)

/-! ## Statuses -/

omit [Runtime] in
theorem verifyDomains_ne (isolation : Isolation) (domains : List String) : (verifyDomains isolation domains).2 ≠ "PASS" := by
  induction domains with
  | nil => simp [verifyDomains]
  | cons domain domains ih =>
    rw [verifyDomains]
    split
    · simp
    · split
      · simp
      · split
        · simp
        · exact ih

omit [Runtime] in
theorem verifyAttestation_ne (isolation : Isolation) : (verifyAttestation isolation).2 ≠ "PASS" := by
  unfold verifyAttestation
  split
  · exact verifyDomains_ne isolation DOMAINS
  · simp

theorem runCase_status (caseId : String) (identity : Dict) (isolation : Option Isolation) (fingerprints : Dict)
    (case : Except Exc Dict) : (runCase caseId identity isolation fingerprints case).1.status ≠ "PASS" := by
  unfold runCase
  split
  · simp
  · split
    · simp
    · dsimp only
      split
      · exact verifyAttestation_ne _
      · split
        · simp
        · split <;> simp

omit [Runtime] in
theorem persistSession_status {steps : SessionSteps} {destination : Option String} {caseId : String} {replay : ReplayResult}
    {sealed : SealedCase} {outputFingerprint : String} {session : ReplaySessionResult}
    (h : persistSession steps destination caseId replay sealed outputFingerprint = .ok session) :
    session.status = "RECORDED" ∨ session.status = "VALIDATION_ERROR" := by
  unfold persistSession at h
  dsimp only at h
  split at h
  · rw [← Except.ok.inj h]
    exact .inl rfl
  · split at h
    · rw [← Except.ok.inj h]
      split
      · exact .inl rfl
      · exact .inr rfl
    · split at h
      · rw [← Except.ok.inj h]
        exact .inr rfl
      · cases h

theorem sealSession_status {steps : SessionSteps} {destination : Option String} {caseId : String} {replay : ReplayResult}
    (hreplay : replay.status ≠ "PASS") {session : ReplaySessionResult}
    (h : sealSession steps destination caseId replay = .ok session) : session.status ≠ "PASS" := by
  unfold sealSession at h
  split at h
  · rw [← Except.ok.inj h]
    exact hreplay
  · split at h
    · rw [← Except.ok.inj h]
      exact hreplay
    · obtain ⟨-, h⟩ := seq_ok.mp h
      obtain ⟨-, h⟩ := seq_ok.mp h
      obtain ⟨-, h⟩ := seq_ok.mp h
      obtain ⟨sealed, -, h⟩ := bind_ok.mp h
      obtain ⟨verified, -, h⟩ := bind_ok.mp h
      split at h
      · rw [← Except.ok.inj h]
        simp
      · rcases persistSession_status h with hs | hs <;> rw [hs] <;> simp

omit [Runtime] in
theorem leaving_ok {steps : SessionSteps} {result : Except Exc ReplaySessionResult} {session : ReplaySessionResult}
    (h : leaving steps result = .ok session) : result = .ok session := by
  unfold leaving at h
  split at h
  · exact h
  · cases h

theorem runControlledCase_status {steps : SessionSteps} {caseId : String} {identity : Dict} {isolation : Option Isolation}
    {fingerprints : Dict} {persistDir : Option String} {session : ReplaySessionResult}
    (h : (runControlledCase steps caseId identity isolation fingerprints persistDir).1 = .ok session) :
    session.status ≠ "PASS" := by
  have hblocked {reason : String} (h : .ok (blockedSession caseId reason) = Except.ok (ε := Exc) session) :
      session.status ≠ "PASS" := by
    rw [← Except.ok.inj h]
    simp [blockedSession]
  unfold runControlledCase at h
  split at h
  · exact hblocked h
  · split at h
    · exact hblocked h
    · split at h
      · dsimp only at h
        split at h
        · exact hblocked h
        · cases h
      · split at h
        · cases h
        · split at h
          · have h := leaving_ok h
            split at h
            · exact hblocked h
            · cases h
          · exact sealSession_status (runCase_status caseId identity _ fingerprints _) (leaving_ok h)

/-- No case and no evidence of it carries the status of a pass. -/
structure CaseEntry.Unpassed (entry : CaseEntry) : Prop where
  status : entry.status ≠ "PASS"
  evidence : entry.evidence.status ≠ "PASS"

theorem blockedEntry_unpassed {env : Surroundings} {authorityFp reason : String} {case : DeclaredCase} {entry : CaseEntry}
    (h : blockedEntry env authorityFp reason case = .ok entry) : entry.Unpassed := by
  unfold blockedEntry at h
  obtain ⟨dispositions, -, h⟩ := bind_ok.mp h
  obtain ⟨evidence, hevidence, h⟩ := bind_ok.mp h
  obtain ⟨errors, -, h⟩ := bind_ok.mp h
  obtain rfl := Except.ok.inj h
  refine ⟨by simp, ?_⟩
  show evidence.status ≠ "PASS"
  rw [createEvidenceRecord_status hevidence]
  simp [blockedEvidence]

theorem sessionEvidence_status (env : Surroundings) (run : CandidateRun) (authorityFp : String) (case : DeclaredCase)
    (attestation : Dict) (session : ReplaySessionResult) (dispositions : List Val × List Val) :
    (sessionEvidence env run authorityFp case attestation session dispositions).status ≠ "PASS" := by
  unfold sessionEvidence
  dsimp only
  split
  · simp
  · split <;> simp

theorem sessionEntry_unpassed {env : Surroundings} {run : CandidateRun} {authorityFp : String} {case : DeclaredCase}
    {attestation : Dict} {session : ReplaySessionResult} (hsession : session.status ≠ "PASS") {entry : CaseEntry}
    (h : sessionEntry env run authorityFp case attestation session = .ok entry) : entry.Unpassed := by
  unfold sessionEntry at h
  obtain ⟨dispositions, -, h⟩ := bind_ok.mp h
  obtain ⟨evidence, hevidence, h⟩ := bind_ok.mp h
  obtain ⟨errors, -, h⟩ := bind_ok.mp h
  obtain rfl := Except.ok.inj h
  refine ⟨?_, ?_⟩
  · show (if session.recorded then "RECORDED" else session.status) ≠ "PASS"
    split
    · simp
    · exact hsession
  · show evidence.status ≠ "PASS"
    rw [createEvidenceRecord_status hevidence]
    exact sessionEvidence_status env run authorityFp case attestation session dispositions

theorem runCandidateCase_unpassed {env : Surroundings} {run : CandidateRun} {authorityFp : String} {contract : Option String}
    {case : DeclaredCase} {entry : CaseEntry} (h : (runCandidateCase env run authorityFp contract case).1 = .ok entry) :
    entry.Unpassed := by
  unfold runCandidateCase at h
  split at h
  · cases h
  · exact blockedEntry_unpassed h
  · obtain ⟨session, hsession, h⟩ := bind_ok.mp h
    exact sessionEntry_unpassed (runControlledCase_status hsession) h

/-! ## Runs over the cases -/

/-- What a run over a first case and the rest logs and returns. -/
theorem runCandidateCases_cons (env : Surroundings) (run : CandidateRun) (authorityFp : String) (contract : Option String)
    (case : DeclaredCase) (cases : List DeclaredCase) :
    (∃ e, (runCandidateCase env run authorityFp contract case).1 = .error e ∧
      runCandidateCases env run authorityFp contract (case :: cases) =
        (.error e, if (runCandidateCase env run authorityFp contract case).2 then [case.caseId] else [])) ∨
    ∃ entry, (runCandidateCase env run authorityFp contract case).1 = .ok entry ∧
      runCandidateCases env run authorityFp contract (case :: cases) =
        ((runCandidateCases env run authorityFp contract cases).1.map (entry :: ·),
          (if (runCandidateCase env run authorityFp contract case).2 then [case.caseId] else []) ++
            (runCandidateCases env run authorityFp contract cases).2) := by
  rw [runCandidateCases]
  rcases hcase : runCandidateCase env run authorityFp contract case with ⟨e | entry, invoked⟩
  · exact .inl ⟨e, rfl, rfl⟩
  · exact .inr ⟨entry, rfl, rfl⟩

/-- The cases whose handlers were invoked are among the cases, in their order. -/
theorem runCandidateCases_log (env : Surroundings) (run : CandidateRun) (authorityFp : String) (contract : Option String)
    (cases : List DeclaredCase) :
    (runCandidateCases env run authorityFp contract cases).2.Sublist
      ((cases.filter fun case => (runCandidateCase env run authorityFp contract case).2).map (·.caseId)) := by
  induction cases with
  | nil => exact List.Sublist.refl _
  | cons case cases ih =>
    rcases runCandidateCases_cons env run authorityFp contract case cases with ⟨e, -, h⟩ | ⟨entry, -, h⟩
    · rw [h, List.filter_cons]
      split
      · exact List.singleton_sublist.mpr (List.mem_cons_self)
      · exact List.nil_sublist _
    · rw [h, List.filter_cons]
      split
      · exact ih.cons_cons case.caseId
      · exact ih

/-- The entries of a run that returns. -/
theorem runCandidateCases_ok {env : Surroundings} {run : CandidateRun} {authorityFp : String} {contract : Option String}
    {cases : List DeclaredCase} {entries : List CaseEntry}
    (h : (runCandidateCases env run authorityFp contract cases).1 = .ok entries) :
    List.Forall₂ (fun case entry => (runCandidateCase env run authorityFp contract case).1 = .ok entry) cases entries ∧
      (runCandidateCases env run authorityFp contract cases).2 =
        (cases.filter fun case => (runCandidateCase env run authorityFp contract case).2).map (·.caseId) := by
  induction cases generalizing entries with
  | nil =>
    obtain rfl := Except.ok.inj h
    exact ⟨.nil, rfl⟩
  | cons case cases ih =>
    rcases runCandidateCases_cons env run authorityFp contract case cases with ⟨e, -, hrun⟩ | ⟨entry, hentry, hrun⟩
    · rw [hrun] at h
      cases h
    · rw [hrun] at h ⊢
      obtain ⟨rest, hrest, rfl⟩ := exceptMap_ok h
      refine ⟨.cons hentry (ih hrest).1, ?_⟩
      rw [List.filter_cons, (ih hrest).2]
      split <;> rfl

omit [Runtime] in
/-- The selected cases are declared, each once. -/
theorem selectedCases_ok {run : CandidateRun} {cases selected : List DeclaredCase} (h : selectedCases run cases = .ok selected) :
    (selected.map (·.caseId)).Nodup ∧ ∀ case ∈ selected, case ∈ cases := by
  unfold selectedCases at h
  obtain ⟨hids, h⟩ := seq_ok.mp h
  simp only [raiseIf_ok, Bool.or_eq_false_iff, Bool.not_eq_false', decide_eq_true_eq] at hids
  obtain rfl := Except.ok.inj h
  refine ⟨?_, fun case hcase => ?_⟩
  · rw [List.map_filterMap]
    refine hids.1.filterMap fun id id' caseId hid hid' => ?_
    obtain ⟨case, hcase, rfl⟩ := Option.map_eq_some_iff.mp hid
    obtain ⟨case', hcase', heq⟩ := Option.map_eq_some_iff.mp hid'
    have hid := List.find?_some hcase
    have hid' := List.find?_some hcase'
    rw [beq_iff_eq] at hid hid'
    rw [← hid, ← hid', heq]
  · obtain ⟨id, -, hcase⟩ := List.mem_filterMap.mp hcase
    exact List.mem_of_find?_eq_some hcase

/-- A run that gets to its cases runs them one after another and reports their entries. -/
theorem runRFcCandidate_eq {env : Surroundings} {run : CandidateRun} {catalog : Dict} {cases selected : List DeclaredCase}
    {authorityFp : String} {contract : Option String} (hcatalog : loadCatalog env.catalog = .ok (catalog, cases))
    (hauthority : env.authorityFingerprint = .ok authorityFp) (hselected : selectedCases run cases = .ok selected)
    (hcontract : validateHandlerContract env.files run.handlerManifest run.caseHandlers (selected.map (·.caseId)) = .ok contract) :
    runRFcCandidate env run = ((do
      let entries ← (runCandidateCases env run authorityFp contract selected).1
      let report ← candidateReport env run catalog authorityFp contract entries
      env.writeReport
      return report), (runCandidateCases env run authorityFp contract selected).2) := by
  unfold runRFcCandidate
  simp only [hcatalog, hauthority, hselected, hcontract, ok_bind, pure, Except.pure]

theorem runRFcCandidate_cases (env : Surroundings) (run : CandidateRun) :
    (∃ e, runRFcCandidate env run = (.error e, [])) ∨
    ∃ catalog cases selected authorityFp contract, loadCatalog env.catalog = .ok (catalog, cases) ∧
      selectedCases run cases = .ok selected ∧
      validateHandlerContract env.files run.handlerManifest run.caseHandlers (selected.map (·.caseId)) = .ok contract ∧
      (runRFcCandidate env run).2 = (runCandidateCases env run authorityFp contract selected).2 ∧
      ∀ report, (runRFcCandidate env run).1 = .ok report → ∃ entries,
        (runCandidateCases env run authorityFp contract selected).1 = .ok entries ∧
        candidateReport env run catalog authorityFp contract entries = .ok report := by
  rcases hcatalog : loadCatalog env.catalog with e | ⟨catalog, cases⟩
  · exact .inl ⟨e, by simp only [runRFcCandidate, hcatalog]; rfl⟩
  · rcases hauthority : env.authorityFingerprint with e | authorityFp
    · exact .inl ⟨e, by simp only [runRFcCandidate, hcatalog, hauthority]; rfl⟩
    · rcases hselected : selectedCases run cases with e | selected
      · exact .inl ⟨e, by simp only [runRFcCandidate, hcatalog, hauthority, ok_bind, hselected]; rfl⟩
      · rcases hcontract : validateHandlerContract env.files run.handlerManifest run.caseHandlers (selected.map (·.caseId))
          with e | contract
        · exact .inl ⟨e, by simp only [runRFcCandidate, hcatalog, hauthority, ok_bind, hselected, hcontract]; rfl⟩
        · refine .inr ⟨catalog, cases, selected, authorityFp, contract, rfl, hselected, hcontract, ?_⟩
          rw [runRFcCandidate_eq hcatalog hauthority hselected hcontract]
          refine ⟨rfl, fun report h => ?_⟩
          obtain ⟨entries, hentries, h⟩ := bind_ok.mp h
          obtain ⟨report', hreport, h⟩ := bind_ok.mp h
          obtain ⟨-, h⟩ := seq_ok.mp h
          obtain rfl := Except.ok.inj h
          exact ⟨entries, hentries, hreport⟩

omit [Runtime] in
theorem candidateReport_cases {env : Surroundings} {run : CandidateRun} {catalog : Dict} {authorityFp : String}
    {contract : Option String} {entries : List CaseEntry} {report : CandidateReport}
    (h : candidateReport env run catalog authorityFp contract entries = .ok report) : report.cases = entries := by
  unfold candidateReport at h
  obtain ⟨authorization, -, h⟩ := bind_ok.mp h
  obtain rfl := Except.ok.inj h
  rfl

/-- In every run, a handler is invoked only for a declared case that has
passed its own gate, and at most once; and no case that a run reports, nor its
evidence, has the status of a pass. -/
theorem handlers_run_behind_gate (env : Surroundings) (run : CandidateRun) :
    (∀ caseId ∈ (runRFcCandidate env run).2, ∃ catalog cases case, loadCatalog env.catalog = .ok (catalog, cases) ∧
      case ∈ cases ∧ case.caseId = caseId ∧ Cleared env run case) ∧
    (runRFcCandidate env run).2.Nodup ∧
    ∀ report, (runRFcCandidate env run).1 = .ok report → ∀ entry ∈ report.cases, entry.Unpassed := by
  rcases runRFcCandidate_cases env run with ⟨e, h⟩ |
    ⟨catalog, cases, selected, authorityFp, contract, hcatalog, hselected, hcontract, hlog, hreport⟩
  · rw [h]
    exact ⟨List.forall_mem_nil _, List.nodup_nil, nofun⟩
  · have hsublist := runCandidateCases_log env run authorityFp contract selected
    obtain ⟨hnodup, hdeclared⟩ := selectedCases_ok hselected
    rw [hlog]
    refine ⟨fun caseId hid => ?_, ?_, fun report h entry hentry => ?_⟩
    · obtain ⟨case, hcase, rfl⟩ := List.mem_map.mp (hsublist.mem hid)
      obtain ⟨hcase, hinvoked⟩ := List.mem_filter.mp hcase
      exact ⟨catalog, cases, case, hcatalog, hdeclared case hcase, rfl, .of_invoked hcontract hinvoked⟩
    · exact (hnodup.sublist (List.filter_sublist.map _)).sublist hsublist
    · obtain ⟨entries, hentries, hreport⟩ := hreport report h
      rw [candidateReport_cases hreport] at hentry
      obtain ⟨case, -, hcase⟩ := exists_of_forall₂ (runCandidateCases_ok hentries).1 hentry
      exact runCandidateCase_unpassed hcase

end

end Pmiri
