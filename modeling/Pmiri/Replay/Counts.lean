import Pmiri.Python.Sha256
import Pmiri.Replay.Gate

/-!
# What a report counts

A report counts a case as executed where its session is recorded, which is
decided after the handler has run: an exception of the handler, an output that
is no mapping, and a seal or a copy that does not verify all take it back. So a
report is truthful exactly where none of the handlers that it gets to is
followed by one of these.
-/

namespace Pmiri

open Py

/-- The handler of a session returns a mapping, and the sealed case verifies, also where it is persisted. -/
structure SessionSteps.Completes (steps : SessionSteps) (persisted : Bool) : Prop where
  handler : ∃ output, invoke steps.handler = .ok output
  verified : ∃ text, steps.verifySeal = .ok (true, text)
  persistCase : persisted = true → steps.persistCase = .ok ()
  persistVerified : persisted = true → ∃ text, steps.verifyPersisted = .ok (true, text)

/-- The preparation of a session does not fail. -/
structure SessionSteps.Prepares (steps : SessionSteps) (persisted : Bool) : Prop where
  persistDir : persisted = true → steps.preparePersistDir = .ok ()
  temporary : steps.makeTemporary = .ok ()
  inputs : steps.writeInputs = .ok ()

/-! ## Sessions -/

section

variable [Runtime]

/-- A case that may run is invoked where the runner is the pinned one, and recorded where it then returns. -/
theorem runCase_cleared (caseId : String) (identity : Dict) {isolation : Isolation} {fingerprints : Dict}
    (hisolation : (verifyAttestation isolation).1 = true) (hfp : fingerprintsOk fingerprints = true)
    (case : Except Exc Dict) :
    ((runCase caseId identity (some isolation) fingerprints case).2 = true ↔ PinnedRunner identity) ∧
      ((runCase caseId identity (some isolation) fingerprints case).1.status = "RECORDED" ↔
        PinnedRunner identity ∧ ∃ output, case = .ok output) ∧
      ((runCase caseId identity (some isolation) fingerprints case).1.output.isSome = true ↔
        (runCase caseId identity (some isolation) fingerprints case).1.status = "RECORDED") := by
  unfold runCase
  split
  · rename_i e hidentity
    have : ¬ PinnedRunner identity := fun h => by rw [verifyIdentity_ok.mpr h] at hidentity; cases hidentity
    simp [this]
  · rename_i hidentity
    have := verifyIdentity_ok.mp hidentity
    dsimp only
    rw [hisolation, hfp]
    cases case with
    | error e => simp [this]
    | ok output => simp [this]

omit [Runtime] in
/-- A sealed session is recorded where its copy, if there is one, verifies. -/
theorem persistSession_recorded {steps : SessionSteps} {destination : Option String} {caseId : String} {replay : ReplayResult}
    {sealed : SealedCase} {outputFingerprint : String} {session : ReplaySessionResult}
    (h : persistSession steps destination caseId replay sealed outputFingerprint = .ok session) :
    session.recorded = true ↔ (destination.isSome = true → steps.persistCase = .ok ()) ∧
      (destination.isSome = true → ∃ text, steps.verifyPersisted = .ok (true, text)) := by
  unfold persistSession at h
  dsimp only at h
  split at h
  · rw [← Except.ok.inj h]
    simp [ReplaySessionResult.recorded]
  · rcases hcase : steps.persistCase with e | ⟨⟩
    · rw [hcase] at h
      simp only [Except.bind] at h
      split at h
      · rw [← Except.ok.inj h]
        simp [ReplaySessionResult.recorded]
      · cases h
    · rw [hcase] at h
      simp only [Except.bind] at h
      rcases hverified : steps.verifyPersisted with e | ⟨valid, text⟩
      · rw [hverified] at h
        dsimp only at h
        split at h
        · rw [← Except.ok.inj h]
          simp [ReplaySessionResult.recorded]
        · cases h
      · rw [hverified] at h
        rw [← Except.ok.inj h]
        cases valid <;> simp [ReplaySessionResult.recorded]

/-- A session is recorded where its case is and the seal and the copy verify. -/
theorem sealSession_recorded {steps : SessionSteps} {destination : Option String} {caseId : String} {replay : ReplayResult}
    (houtput : replay.output.isSome = true ↔ replay.status = "RECORDED") {session : ReplaySessionResult}
    (h : sealSession steps destination caseId replay = .ok session) :
    session.recorded = true ↔ replay.status = "RECORDED" ∧ (∃ text, steps.verifySeal = .ok (true, text)) ∧
      (destination.isSome = true → steps.persistCase = .ok ()) ∧
      (destination.isSome = true → ∃ text, steps.verifyPersisted = .ok (true, text)) := by
  unfold sealSession at h
  split at h
  · rename_i hnone
    have : replay.status ≠ "RECORDED" := fun hs => by rw [← houtput, hnone] at hs; cases hs
    rw [← Except.ok.inj h]
    simp [ReplaySessionResult.recorded, this]
  · rename_i output hsome
    have hstatus : replay.status = "RECORDED" := houtput.mp (by rw [hsome]; rfl)
    rw [hstatus] at h ⊢
    obtain ⟨-, h⟩ := seq_ok.mp h
    obtain ⟨-, h⟩ := seq_ok.mp h
    obtain ⟨-, h⟩ := seq_ok.mp h
    obtain ⟨sealed, -, h⟩ := bind_ok.mp h
    obtain ⟨⟨valid, text⟩, hverified, h⟩ := bind_ok.mp h
    cases valid with
    | false =>
      rw [← Except.ok.inj h]
      simp [ReplaySessionResult.recorded, hverified]
    | true =>
      rw [persistSession_recorded h]
      simp [hverified]

theorem runControlledCase_prepared {steps : SessionSteps} (caseId : String) (identity : Dict) (isolation : Isolation)
    {fingerprints : Dict} {persistDir : Option String} (hfp : fingerprintsOk fingerprints = true)
    (h : steps.Prepares persistDir.isSome) :
    runControlledCase steps caseId identity (some isolation) fingerprints persistDir =
      (leaving steps (sealSession steps persistDir caseId
          (runCase caseId identity (some isolation) fingerprints (invoke steps.handler)).1),
        (runCase caseId identity (some isolation) fingerprints (invoke steps.handler)).2) := by
  have hdir : (if persistDir.isSome = true then steps.preparePersistDir else .ok ()) = .ok () := by
    split
    · rename_i hsome
      exact h.persistDir hsome
    · rfl
  simp only [runControlledCase, hfp, Bool.not_true, Bool.false_eq_true, ↓reduceIte, hdir, h.temporary, h.inputs]

theorem runControlledCase_unprepared {steps : SessionSteps} (caseId : String) (identity : Dict) (isolation : Isolation)
    {fingerprints : Dict} {persistDir : Option String} (hfp : fingerprintsOk fingerprints = true)
    (h : ¬ steps.Prepares persistDir.isSome) :
    (runControlledCase steps caseId identity (some isolation) fingerprints persistDir).2 = false ∧
      ∀ session, (runControlledCase steps caseId identity (some isolation) fingerprints persistDir).1 = .ok session →
        session.recorded = false := by
  have hblocked {reason : String} {session : ReplaySessionResult}
      (h : .ok (blockedSession caseId reason) = Except.ok (ε := Exc) session) : session.recorded = false := by
    rw [← Except.ok.inj h]
    simp [ReplaySessionResult.recorded, blockedSession]
  unfold runControlledCase
  simp only [hfp, Bool.not_true, Bool.false_eq_true, ↓reduceIte]
  rcases hdir : (if persistDir.isSome = true then steps.preparePersistDir else .ok ()) with e | ⟨⟩
  · refine ⟨rfl, fun session hs => ?_⟩
    dsimp only at hs
    split at hs
    · exact hblocked hs
    · cases hs
  · rcases htemporary : steps.makeTemporary with e | ⟨⟩
    · refine ⟨rfl, fun session hs => ?_⟩
      cases hs
    · rcases hinputs : steps.writeInputs with e | ⟨⟩
      · refine ⟨rfl, fun session hs => ?_⟩
        have hs := leaving_ok hs
        split at hs
        · exact hblocked hs
        · cases hs
      · exact absurd ⟨fun hsome => by rwa [if_pos hsome] at hdir, htemporary, hinputs⟩ h

/-- A session whose case may run invokes it where its preparation does not fail and the runner is the pinned one, and is
recorded where it then completes. -/
theorem runControlledCase_cleared (steps : SessionSteps) (caseId : String) (identity : Dict) {isolation : Isolation}
    {fingerprints : Dict} (persistDir : Option String) (hisolation : (verifyAttestation isolation).1 = true)
    (hfp : fingerprintsOk fingerprints = true) :
    ((runControlledCase steps caseId identity (some isolation) fingerprints persistDir).2 = true ↔
        PinnedRunner identity ∧ steps.Prepares persistDir.isSome) ∧
      ∀ session, (runControlledCase steps caseId identity (some isolation) fingerprints persistDir).1 = .ok session →
        (session.recorded = true ↔
          (PinnedRunner identity ∧ steps.Prepares persistDir.isSome) ∧ steps.Completes persistDir.isSome) := by
  by_cases hprepares : steps.Prepares persistDir.isSome
  · obtain ⟨hinvoked, hstatus, houtput⟩ := runCase_cleared caseId identity hisolation hfp (invoke steps.handler)
    rw [runControlledCase_prepared caseId identity isolation hfp hprepares]
    refine ⟨hinvoked.trans (and_iff_left hprepares).symm, fun session h => ?_⟩
    rw [sealSession_recorded houtput (leaving_ok h), hstatus, and_iff_left hprepares, and_assoc]
    exact and_congr_right fun _ => ⟨fun ⟨h₁, h₂, h₃, h₄⟩ => ⟨h₁, h₂, h₃, h₄⟩, fun ⟨h₁, h₂, h₃, h₄⟩ => ⟨h₁, h₂, h₃, h₄⟩⟩
  · obtain ⟨hinvoked, hrecorded⟩ := runControlledCase_unprepared caseId identity isolation hfp hprepares
    simp only [hinvoked, hprepares, and_false, false_and, Bool.false_eq_true, true_and]
    exact fun session h => by simp [hrecorded session h]

/-! ## Cases -/

/-- The runner gets to the handler of a case: its gate opens, the runner is the pinned one, and the preparation of its
session does not fail. -/
structure Reached (env : Surroundings) (run : CandidateRun) (contract : Option String) (case : DeclaredCase) : Prop where
  gate : ∃ handler record isolation, caseGate env run contract case = .ok (.passed handler record isolation)
  identity : PinnedRunner run.identity
  prepares : (env.session case.caseId).Prepares run.persistDir.isSome

theorem not_reached {env : Surroundings} {run : CandidateRun} {contract : Option String} {case : DeclaredCase}
    {gate : Except Exc Gate} (hgate : caseGate env run contract case = gate)
    (h : ∀ handler record isolation, gate ≠ .ok (.passed handler record isolation)) : ¬ Reached env run contract case :=
  fun ⟨⟨handler, record, isolation, hpassed⟩, _, _⟩ => h handler record isolation (hgate.symm.trans hpassed)

theorem blockedEntry_fields {env : Surroundings} {authorityFp reason : String} {case : DeclaredCase} {entry : CaseEntry}
    (h : blockedEntry env authorityFp reason case = .ok entry) : entry.caseId = case.caseId ∧ entry.executed = false := by
  unfold blockedEntry at h
  obtain ⟨dispositions, -, h⟩ := bind_ok.mp h
  obtain ⟨evidence, -, h⟩ := bind_ok.mp h
  obtain ⟨errors, -, h⟩ := bind_ok.mp h
  rw [← Except.ok.inj h]
  exact ⟨rfl, rfl⟩

theorem sessionEntry_fields {env : Surroundings} {run : CandidateRun} {authorityFp : String} {case : DeclaredCase}
    {attestation : Dict} {session : ReplaySessionResult} {entry : CaseEntry}
    (h : sessionEntry env run authorityFp case attestation session = .ok entry) :
    entry.caseId = case.caseId ∧ entry.executed = session.recorded := by
  unfold sessionEntry at h
  obtain ⟨dispositions, -, h⟩ := bind_ok.mp h
  obtain ⟨evidence, -, h⟩ := bind_ok.mp h
  obtain ⟨errors, -, h⟩ := bind_ok.mp h
  rw [← Except.ok.inj h]
  exact ⟨rfl, rfl⟩

/-- The handler of a case is invoked where the runner gets to it, and the case is reported executed where its session then
completes. -/
theorem runCandidateCase_reached {env : Surroundings} {run : CandidateRun} {selectedIds : List String}
    {contract : Option String}
    (hcontract : validateHandlerContract env.files run.handlerManifest run.caseHandlers selectedIds = .ok contract)
    (authorityFp : String) (case : DeclaredCase) :
    ((runCandidateCase env run authorityFp contract case).2 = true ↔ Reached env run contract case) ∧
      ∀ entry, (runCandidateCase env run authorityFp contract case).1 = .ok entry → entry.caseId = case.caseId ∧
        (entry.executed = true ↔
          Reached env run contract case ∧ (env.session case.caseId).Completes run.persistDir.isSome) := by
  unfold runCandidateCase
  split
  · rename_i e hgate
    have hno := not_reached hgate nofun
    refine ⟨by simp [hno], fun entry h => ?_⟩
    cases h
  · rename_i reason hgate
    have hno := not_reached hgate nofun
    refine ⟨by simp [hno], fun entry h => ?_⟩
    obtain ⟨hid, hexecuted⟩ := blockedEntry_fields h
    simp [hid, hexecuted, hno]
  · rename_i handler record isolation hgate
    obtain ⟨-, hfp, hisolation⟩ := caseGate_passed hcontract hgate
    have hreached : Reached env run contract case ↔
        PinnedRunner run.identity ∧ (env.session case.caseId).Prepares run.persistDir.isSome :=
      ⟨fun h => ⟨h.identity, h.prepares⟩, fun h => ⟨⟨handler, record, isolation, hgate⟩, h.1, h.2⟩⟩
    obtain ⟨hinvoked, hrecorded⟩ := runControlledCase_cleared (env.session case.caseId) case.caseId
      run.identity (run.persistDir.map (· ++ "/" ++ case.caseId)) hisolation hfp
    rw [Option.isSome_map] at hinvoked hrecorded
    rw [hreached]
    refine ⟨hinvoked, fun entry h => ?_⟩
    obtain ⟨session, hsession, h⟩ := bind_ok.mp h
    obtain ⟨hid, hexecuted⟩ := sessionEntry_fields h
    rw [hexecuted]
    exact ⟨hid, hrecorded session hsession⟩

/-! ## Reports -/

/-- A report says how many handlers the run invoked and which, and denies it only where there were none. -/
structure CandidateReport.Truthful (report : CandidateReport) (invoked : List String) : Prop where
  count : report.executedCaseCount = invoked.length
  reported : ∀ caseId ∈ invoked, ∃ entry ∈ report.cases, entry.caseId = caseId ∧ entry.executed = true
  performed : report.runtimeExecution = "NOT_PERFORMED" → invoked = []

/-- The cases that a run selects, and what its handler contract says of them. -/
def Selects (env : Surroundings) (run : CandidateRun) (selected : List DeclaredCase) (contract : Option String) : Prop :=
  ∃ catalog cases, loadCatalog env.catalog = .ok (catalog, cases) ∧ selectedCases run cases = .ok selected ∧
    validateHandlerContract env.files run.handlerManifest run.caseHandlers (selected.map (·.caseId)) = .ok contract

omit [Runtime] in
theorem candidateReport_executed {env : Surroundings} {run : CandidateRun} {catalog : Dict} {authorityFp : String}
    {contract : Option String} {entries : List CaseEntry} {report : CandidateReport}
    (h : candidateReport env run catalog authorityFp contract entries = .ok report) :
    report.executedCaseCount = entries.countP (·.executed) ∧
      (report.runtimeExecution = "NOT_PERFORMED" ↔ entries.countP (·.executed) = 0) := by
  unfold candidateReport at h
  obtain ⟨authorization, -, h⟩ := bind_ok.mp h
  obtain rfl := Except.ok.inj h
  refine ⟨rfl, ?_⟩
  by_cases hzero : entries.countP (·.executed) = 0
  · simp [hzero]
  · simp [hzero]

/-- A report is truthful exactly where every handler that its run gets to returns a mapping, and the session of its case
then verifies, with its copy if there is one. -/
theorem report_truthful_iff (env : Surroundings) (run : CandidateRun) (report : CandidateReport)
    (h : (runRFcCandidate env run).1 = .ok report) :
    report.Truthful (runRFcCandidate env run).2 ↔
      ∀ selected contract, Selects env run selected contract → ∀ case ∈ selected, Reached env run contract case →
        (env.session case.caseId).Completes run.persistDir.isSome := by
  rcases runRFcCandidate_cases env run with ⟨e, herror⟩ |
    ⟨catalog, cases, selected, authorityFp, contract, hcatalog, hselected, hcontract, hlog, hreport⟩
  · rw [herror] at h
    cases h
  · obtain ⟨entries, hentries, hmade⟩ := hreport report h
    obtain ⟨hpairs, hinvoked⟩ := runCandidateCases_ok hentries
    have hselects {selected' contract'} (h : Selects env run selected' contract') :
        selected' = selected ∧ contract' = contract := by
      obtain ⟨catalog', cases', hcatalog', hselected', hcontract'⟩ := h
      obtain ⟨rfl, rfl⟩ := Prod.mk.inj (Except.ok.inj (hcatalog'.symm.trans hcatalog))
      obtain rfl := Except.ok.inj (hselected'.symm.trans hselected)
      exact ⟨rfl, Except.ok.inj (hcontract'.symm.trans hcontract)⟩
    -- Each case with its entry, which is executed where the case is reached and completes.
    have hentry : List.Forall₂ (fun case entry => entry.caseId = case.caseId ∧ (entry.executed = true ↔
        Reached env run contract case ∧ (env.session case.caseId).Completes run.persistDir.isSome)) selected entries :=
      hpairs.imp fun case entry hcase => (runCandidateCase_reached hcontract authorityFp case).2 entry hcase
    have hreached (case : DeclaredCase) :
        (runCandidateCase env run authorityFp contract case).2 = true ↔ Reached env run contract case :=
      (runCandidateCase_reached hcontract authorityFp case).1
    obtain ⟨hcount, hperformed⟩ := candidateReport_executed hmade
    constructor
    · intro htruthful selected' contract' hsel case hcase hcaseReached
      obtain ⟨rfl, rfl⟩ := hselects hsel
      have hmem : case.caseId ∈ (runRFcCandidate env run).2 := by
        rw [hlog, hinvoked]
        exact List.mem_map_of_mem (List.mem_filter.mpr ⟨hcase, (hreached case).mpr hcaseReached⟩)
      obtain ⟨entry, hmem, hid, hexecuted⟩ := htruthful.reported _ hmem
      rw [candidateReport_cases hmade] at hmem
      obtain ⟨case', hcase', hid', hiff⟩ := exists_of_forall₂ hentry hmem
      obtain rfl := List.inj_on_of_nodup_map (selectedCases_ok hselected).1 hcase' hcase (hid'.symm.trans hid)
      exact (hiff.mp hexecuted).2
    · intro hcomplete
      have hcomplete := hcomplete selected contract ⟨catalog, cases, hcatalog, hselected, hcontract⟩
      -- Where every session completes, a case is reported executed exactly where its handler was invoked.
      have hagree (case) (hcase : case ∈ selected) (entry : CaseEntry) (h : entry.executed = true ↔
          Reached env run contract case ∧ (env.session case.caseId).Completes run.persistDir.isSome) :
          (runCandidateCase env run authorityFp contract case).2 = entry.executed := by
        rw [Bool.eq_iff_iff, hreached, h, and_iff_left_of_imp (hcomplete case hcase)]
      have hlength : report.executedCaseCount = (runRFcCandidate env run).2.length := by
        rw [hcount, hlog, hinvoked, List.length_map, ← List.countP_eq_length_filter]
        exact countP_of_forall₂ hentry fun case hcase entry h => hagree case hcase entry h.2
      refine ⟨hlength, fun caseId hid => ?_, fun h => ?_⟩
      · rw [hlog, hinvoked] at hid
        obtain ⟨case, hcase, rfl⟩ := List.mem_map.mp hid
        obtain ⟨hcase, hcaseInvoked⟩ := List.mem_filter.mp hcase
        obtain ⟨entry, hmem, hid, hiff⟩ := exists_of_forall₂ hentry.flip hcase
        rw [candidateReport_cases hmade]
        exact ⟨entry, hmem, hid, hagree case hcase entry hiff ▸ hcaseInvoked⟩
      · rw [hperformed, ← hcount, hlength] at h
        exact List.eq_nil_of_length_eq_zero h

/-! ## Evidence of sessions -/

theorem lineageRefs_list (raw : Dict) (key : String) (default : List String) : ∃ refs, lineageRefs raw key default = strList refs := by
  unfold lineageRefs
  split
  · exact ⟨_, rfl⟩
  · exact ⟨_, rfl⟩

theorem lineage_items (output : Option Dict) (caseId : String) : ∃ ref evidenceRefs citationRefs boundaryRefs,
    lineage output caseId = .ofItems [("authorization_lineage_ref", .str ref), ("evidence_refs", strList evidenceRefs),
      ("citation_refs", strList citationRefs), ("boundary_refs", strList boundaryRefs)] := by
  unfold lineage
  extract_lets raw
  obtain ⟨evidenceRefs, hevidence⟩ := lineageRefs_list raw "evidence_refs" []
  obtain ⟨citationRefs, hcitation⟩ := lineageRefs_list raw "citation_refs" []
  obtain ⟨boundaryRefs, hboundary⟩ := lineageRefs_list raw "boundary_refs" ["boundary://gc-c1-clean-room"]
  rw [hevidence, hcitation, hboundary]
  exact ⟨_, _, _, _, rfl⟩

/-- The lineage of a session is the one of a record, where it has a reference. -/
theorem sessionEvidence_lineage (env : Surroundings) (run : CandidateRun) (authorityFp : String) (case : DeclaredCase)
    (attestation : Dict) (session : ReplaySessionResult) (dispositions : List Val × List Val)
    (href : ((lineage session.replay.output case.caseId).get "authorization_lineage_ref").truthy = true) :
    ∃ record, (sessionEvidence env run authorityFp case attestation session dispositions).lineageRecord = .ok record ∧
      ((record.get "authorization_lineage_ref").truthy && isList (record.get "evidence_refs") &&
        isList (record.get "citation_refs")) = true := by
  have hlineage : (sessionEvidence env run authorityFp case attestation session dispositions).lineage =
      lineage session.replay.output case.caseId := rfl
  obtain ⟨ref, evidenceRefs, citationRefs, boundaryRefs, hitems⟩ := lineage_items session.replay.output case.caseId
  rw [hitems] at hlineage href
  simp only [Dict.ofItems, List.foldl_cons, List.foldl_nil, Dict.get_insert, String.reduceEq, ↓reduceIte, Val.truthy, bne_iff_ne, ne_eq] at href
  simp [EvidenceInput.lineageRecord, EvidenceInput.boundaryRefs, EvidenceInput.listOf, hlineage, Dict.ofItems, Dict.get_insert,
    Dict.getD_insert, strList, Val.elements, Val.isNone, Except.map, EvidenceInput.text, pure, Except.pure, isList, Val.truthy, href]

omit [Runtime] in
theorem traceStepOk_traceStep (caseId : String) (step : Nat) {operation state : String} (hoperation : operation ≠ "")
    (hstate : state ≠ "") : traceStepOk (traceStep caseId (step + 1) operation state).toVal = true := by
  have hstep : (1 : Int) ≤ step + 1 := by omega
  simp [traceStepOk, traceStep, Val.asDict_toVal, Dict.ofItems, Dict.get_insert, Val.truthy, hoperation, hstate, hstep]

theorem traceStepOk_trace {case : Dict} {caseId finalState : String}
    (hsteps : ∀ step ∈ declaredSteps case "setup" "declared_setup" ++ declaredSteps case "actions" "declared_action", step.2 ≠ "")
    (hfinal : finalState ≠ "") : ∀ step ∈ trace case caseId finalState, traceStepOk step.toVal = true := by
  have hnamed {key operation : String} {step : String × String} (hoperation : operation ≠ "")
      (h : step ∈ declaredSteps case key operation) : step.1 ≠ "" := by
    unfold declaredSteps at h
    split at h
    · obtain ⟨value, -, rfl⟩ := List.mem_map.mp h
      exact hoperation
    · cases h
  intro step hstep
  obtain ⟨⟨⟨operation, state⟩, index⟩, hitem, rfl⟩ := List.mem_map.mp hstep
  have hmem := List.fst_mem_of_mem_zipIdx hitem
  apply traceStepOk_traceStep
  · rw [List.mem_append, List.mem_append, List.mem_singleton] at hmem
    rcases hmem with (h | h) | h
    · exact hnamed (by simp) h
    · exact hnamed (by simp) h
    · rw [h]
      simp
  · rcases List.mem_append.mp hmem with h | h
    · exact hsteps _ h
    · rw [List.mem_singleton.mp h]
      exact hfinal

/-- The evidence of a session is complete. -/
theorem sessionEvidence_complete {env : Surroundings} {run : CandidateRun} {authorityFp : String} {case : DeclaredCase}
    {attestation : Dict} {session : ReplaySessionResult} {dispositions : List Val × List Val}
    (hcheck : case.checkId ∈ RF_CHECKS) (hid : case.caseId ≠ "") (hseparated : Separated run)
    (hsteps : ∀ step ∈ declaredSteps case.case "setup" "declared_setup" ++ declaredSteps case.case "actions" "declared_action",
      step.2 ≠ "")
    (hreason : session.reason ≠ "") (hdisposition : session.replay.disposition ≠ "")
    (houtput : ∀ fingerprint, session.outputFingerprint = some fingerprint → isSha256 (.str fingerprint) = true)
    (href : ((lineage session.replay.output case.caseId).get "authorization_lineage_ref").truthy = true) :
    (sessionEvidence env run authorityFp case attestation session dispositions).Complete := by
  obtain ⟨operator, reviewer, hoperator, hreviewer, hoperatorNe, hreviewerNe, -⟩ := hseparated
  refine {
    check := hcheck
    input := isSha256_sha256Json _
    fixtureId := hid
    status := ?_
    status_ne := sessionEvidence_status env run authorityFp case attestation session dispositions
    steps := ?_
    disposition := ?_
    artifact := ?_
    output := ?_
    lineage := sessionEvidence_lineage env run authorityFp case attestation session dispositions href
    replay := ?_
    reviewers := ?_
    result := ⟨"blocked", by simp, ?_⟩
    reviewEvidence := ?_ }
  · unfold sessionEvidence
    dsimp only
    split
    · decide
    · split <;> decide
  · exact traceStepOk_trace hsteps hreason
  · simp [sessionEvidence, Dict.ofItems, Dict.getD_insert, hdisposition]
  · simp [sessionEvidence, Dict.ofItems, Dict.getD_insert]
  · simp only [sessionEvidence, Dict.ofItems, List.foldl_cons, List.foldl_nil, Dict.getD_insert, String.reduceEq, ↓reduceIte]
    cases hfp : session.outputFingerprint with
    | none => exact isSha256_sha256Json _
    | some fingerprint =>
      rw [Option.filter_some]
      split
      · exact houtput fingerprint hfp
      · exact isSha256_sha256Json _
  · simp [sessionEvidence, Dict.ofItems, Dict.getD_insert, Dict.get_insert, EvidenceInput.replayRecord, EvidenceInput.text, Val.truthy]
  · simp [sessionEvidence, Dict.ofItems, Dict.getD_insert, Dict.get_insert, EvidenceInput.reviewRecord, EvidenceInput.text, Val.truthy, hoperator, hreviewer, optStr, hoperatorNe, hreviewerNe]
  · simp [sessionEvidence, Dict.ofItems, Dict.getD_insert, Dict.get_insert, EvidenceInput.reviewRecord, EvidenceInput.text]
  · simp [sessionEvidence, Dict.ofItems, Dict.getD_insert, EvidenceInput.reviewRecord, EvidenceInput.text, Val.truthy]

theorem sessionEntry_returns {env : Surroundings} {run : CandidateRun} {authorityFp : String} {case : DeclaredCase}
    {attestation : Dict} {session : ReplaySessionResult} {dispositions : List Val × List Val}
    (hdispositions : expected case.case = .ok dispositions)
    (hcomplete : (sessionEvidence env run authorityFp case attestation session dispositions).Complete) :
    ∃ entry, sessionEntry env run authorityFp case attestation session = .ok entry := by
  obtain ⟨record, hrecord⟩ := createEvidenceRecord_returns hcomplete
  unfold sessionEntry
  rw [hdispositions, ok_bind, hrecord, ok_bind, createEvidenceRecord_errors hrecord]
  exact ⟨_, rfl⟩

end

/-! ## A handler that raises -/

def exampleCase (checkId suffix : String) : Dict := .ofItems [
  ("case_id", .str (checkId ++ suffix)),
  ("oracle", (Dict.ofItems [("expected_dispositions", strList ["ACCEPTED"])]).toVal)]

def exampleFixture (checkId : String) : Dict := .ofItems [
  ("check_id", .str checkId),
  ("fixture_id", .str ("fixture://" ++ checkId)),
  ("cases", .list [(exampleCase checkId "-P").toVal, (exampleCase checkId "-N").toVal])]

def exampleCatalog : Dict := .ofItems [("fixtures", .list (RF_CHECKS.map fun checkId => (exampleFixture checkId).toVal))]

def exampleDeclared (checkId suffix : String) : DeclaredCase :=
  ⟨checkId ++ suffix, checkId, exampleFixture checkId, exampleCase checkId suffix⟩

/-- The digest in every place of the example that wants one and checks no more than its form. -/
def exampleDigest : String := "aaaaaaaaaaaaaaaaaaaaaaaaaaaaaaaaaaaaaaaaaaaaaaaaaaaaaaaaaaaaaaaa"

def exampleFingerprints : Dict := .ofItems (REPLAY_FINGERPRINTS.map fun name => (name, .str exampleDigest))

def examplePreflight (caseId : String) : Dict := .ofItems [
  ("preflight_id", .str "preflight://example"),
  ("spec_version", .str "0.1"),
  ("status", .str "RECORDED"),
  ("runner", (Dict.ofItems [
    ("runner_id", .str RUNNER_ID),
    ("runner_version", .str RUNNER_VERSION),
    ("source_fingerprint", .str exampleDigest),
    ("manifest_fingerprint", .str exampleDigest)]).toVal),
  ("inputs", (Dict.ofItems (inputBindings.map fun binding => (binding.1, .str exampleDigest))).toVal),
  ("selected_fixture_id", .str "fixture://R-FC-01"),
  ("selected_case_id", .str caseId),
  ("environment", (Dict.ofItems (("environment_fingerprint", .str exampleDigest) ::
    allowedEnvironment.map fun entry => (entry.1, .str (entry.2.headD "")))).toVal),
  ("checks", .list (preflightCheckIds.map fun checkId => (Dict.ofItems [
    ("check_id", .str checkId),
    ("severity", .str "HARD_BLOCK"),
    ("assertion", .str "holds"),
    ("observation", .str "observed"),
    ("result", .str "READY")]).toVal)),
  ("artifacts", (Dict.ofItems [
    ("output_fingerprint", .str exampleDigest),
    ("artifact_manifest_fingerprint", .str exampleDigest),
    ("isolation_attestation_ref", .str "attestation://example"),
    ("privacy_record_ref", .str "privacy://example"),
    ("seal_status", .str "SEALED")]).toVal),
  ("overall_result", .str "READY_FOR_REPLAY"),
  ("captured_at", .str "2026-06-01T00:00:00Z")]

def exampleAttested (caseId : String) : Dict := .ofItems ([
  ("version", .str "0.1"),
  ("launcher", (Dict.ofItems [("launcher_id", .str LAUNCHER_ID), ("launcher_version", .str LAUNCHER_VERSION)]).toVal),
  ("case", (Dict.ofItems [
    ("case_id", .str caseId),
    ("root_policy", .str "FRESH_CASE_ROOT"),
    ("root_fingerprint", .str exampleDigest)]).toVal),
  ("fingerprints", (Dict.ofItems (ATTESTATION_FINGERPRINTS.map fun name => (name, .str exampleDigest))).toVal),
  ("status", .str "VERIFIED"),
  ("outcome", .str "READY_FOR_REPLAY")] ++
  DOMAINS.map fun domain => (domain, (Dict.ofItems [
    ("result", .str (expectedResult domain)),
    ("evidence_ref", .str "evidence://example"),
    ("observation", .str "observed")]).toVal))

section

variable [Runtime]

def exampleAttestation (caseId : String) : Dict :=
  (exampleAttested caseId).insert "attestation_sha256" (.str (sha256Json (exampleAttested caseId).toVal))

def exampleIsolation : Isolation :=
  DOMAINS.map fun domain => (domain, ⟨domain, expectedResult domain, "evidence://example", "observed"⟩)

theorem loadAttestation_example {caseId : String} (hcase : caseId = "R-FC-01-P" ∨ caseId = "R-FC-01-N") :
    loadAttestation (.ok (exampleAttestation caseId).toVal) = .ok (exampleAttestation caseId, exampleIsolation) := by
  have hwithout : (exampleAttestation caseId).without "attestation_sha256" = exampleAttested caseId :=
    Dict.without_insert (by rcases hcase with rfl | rfl <;> decide)
  have hdigest : raiseIf (!isSha256 ((exampleAttestation caseId).get "attestation_sha256") ||
      !((exampleAttestation caseId).get "attestation_sha256").eq
        (.str (sha256Json ((exampleAttestation caseId).without "attestation_sha256").toVal)))
      (attestationError "attestation_digest_mismatch") = .ok () := by
    rw [hwithout, exampleAttestation, Dict.get_insert_self, isSha256_sha256Json, Val.eq_refl]
    rfl
  unfold loadAttestation
  refine bind_ok.mpr ⟨_, rfl, bind_ok.mpr ⟨_, dictOr_ok.mpr (Val.asDict_toVal _), seq_ok.mpr ⟨?_, seq_ok.mpr ⟨hdigest, ?_⟩⟩⟩⟩
  all_goals rcases hcase with rfl | rfl <;> rfl

/-! The handler of the two cases and its manifest. -/

def exampleHandler : CaseHandler where
  callable := true
  moduleId := .str "handlers"
  qualifiedName := .str "answer"
  sourceName := .ok "handlers.py"

def exampleFiles : SourceFiles where
  resolve := .ok
  underRoot := id
  isPython _ := true
  readBytes _ := .ok ByteArray.empty

def exampleModule : Dict := .ofItems [
  ("module_id", .str "handlers"),
  ("entrypoint", .str "HANDLERS"),
  ("source_path", .str "handlers.py"),
  ("source_fingerprint", .str (sha256Bytes ByteArray.empty))]

def exampleSymbols : Dict := .ofItems [("R-FC-01-N", .str "handlers:answer"), ("R-FC-01-P", .str "handlers:answer")]

def exampleHandlers : List (String × CaseHandler) := [("R-FC-01-P", exampleHandler), ("R-FC-01-N", exampleHandler)]

def exampleUnsigned : Dict := .ofItems [
  ("artifact_kind", .str HANDLER_MANIFEST_KIND),
  ("version", .str HANDLER_MANIFEST_VERSION),
  ("status", .str "READY_FOR_REPLAY"),
  ("module", exampleModule.toVal),
  ("case_ids", strList ["R-FC-01-N", "R-FC-01-P"]),
  ("handlers", exampleSymbols.toVal)]

def exampleHandlerManifest : Dict := exampleUnsigned.insert "handler_manifest_sha256" (.str (sha256Json exampleUnsigned.toVal))

theorem sourceContract_example : sourceContract exampleFiles exampleModule exampleSymbols
    [("R-FC-01-P", ⟨"handlers", "handlers.py", "handlers:answer"⟩), ("R-FC-01-N", ⟨"handlers", "handlers.py", "handlers:answer"⟩)] =
      .ok none := by
  have hfingerprint : exampleModule.get "source_fingerprint" = .str (sha256Bytes ByteArray.empty) := by
    simp [exampleModule, Dict.ofItems]
  unfold sourceContract
  refine noObjection_iff.mpr ⟨Bool.false_ne_true, noObjection_iff.mpr ⟨Bool.false_ne_true, bind_ok.mpr ⟨_, rfl, ?_⟩⟩⟩
  refine noObjection_iff.mpr ⟨Bool.false_ne_true, bind_ok.mpr ⟨_, rfl, noObjection_iff.mpr ⟨?_, rfl⟩⟩⟩
  rw [hfingerprint, Val.eq_refl]
  exact Bool.false_ne_true

theorem handlerContract_example {selectedIds : List String} (hselected : ∀ caseId ∈ selectedIds, caseId ∈ ["R-FC-01-P", "R-FC-01-N"]) :
    handlerContract exampleFiles exampleHandlerManifest exampleHandlers selectedIds = .ok none := by
  have hdeclared : (selectedIds.any fun caseId => !([.str "R-FC-01-N", .str "R-FC-01-P"].any (Val.str caseId).eq)) = false := by
    refine List.any_eq_false.mpr fun caseId hmem => ?_
    have hcase := hselected caseId hmem
    simp only [List.mem_cons, List.not_mem_nil, or_false] at hcase
    rcases hcase with rfl | rfl <;> decide
  have hhandled : (selectedIds.any fun caseId => (exampleHandlers.lookup caseId).isNone) = false := by
    refine List.any_eq_false.mpr fun caseId hmem => ?_
    have hcase := hselected caseId hmem
    simp only [List.mem_cons, List.not_mem_nil, or_false] at hcase
    rcases hcase with rfl | rfl <;> exact Bool.false_ne_true
  have hdigest : ¬ (!isSha256 (exampleHandlerManifest.get "handler_manifest_sha256") ||
      !(exampleHandlerManifest.get "handler_manifest_sha256").eq
        (.str (sha256Json (exampleHandlerManifest.without "handler_manifest_sha256").toVal))) = true := by
    have hwithout : exampleHandlerManifest.without "handler_manifest_sha256" = exampleUnsigned :=
      Dict.without_insert (by simp [exampleUnsigned, Dict.mem_keys_ofItems])
    rw [hwithout, exampleHandlerManifest, Dict.get_insert_self, isSha256_sha256Json, Val.eq_refl]
    simp
  have hmodule : (exampleHandlerManifest.get "module").asDict = some exampleModule := Val.asDict_toVal _
  unfold handlerContract
  refine noObjection_iff.mpr ⟨Bool.false_ne_true, noObjection_iff.mpr ⟨hdigest, noObjection_iff.mpr ⟨Bool.false_ne_true, ?_⟩⟩⟩
  rw [hmodule]
  refine noObjection_iff.mpr ⟨Bool.false_ne_true, ?_⟩
  refine bind_ok.mpr ⟨true, rfl, noObjection_iff.mpr ⟨Bool.false_ne_true, bind_ok.mpr ⟨true, rfl, ?_⟩⟩⟩
  refine noObjection_iff.mpr ⟨Bool.false_ne_true, noObjection_iff.mpr ⟨ne_true_of_eq_false hdeclared, noObjection_iff.mpr
    ⟨ne_true_of_eq_false hhandled, noObjection_iff.mpr ⟨Bool.false_ne_true, noObjection_iff.mpr ⟨?_, bind_ok.mpr ⟨_, rfl, ?_⟩⟩⟩⟩⟩⟩
  · have hfingerprint : exampleModule.get "source_fingerprint" = .str (sha256Bytes ByteArray.empty) := by
      simp [exampleModule, Dict.ofItems]
    rw [hfingerprint, isSha256_sha256Bytes]
    exact Bool.false_ne_true
  · exact noObjection_iff.mpr ⟨Bool.false_ne_true, sourceContract_example⟩

/-- The steps of a session that meets no obstacle, but for what its handler does. -/
def exampleSteps (handler : Except Exc Val) : SessionSteps where
  preparePersistDir := .ok ()
  makeTemporary := .ok ()
  writeInputs := .ok ()
  handler := handler
  writeOutput := .ok ()
  sealDirectory := .ok ⟨exampleDigest, "COMPLETE"⟩
  verifySeal := .ok (true, "seal_verified")
  persistCase := .ok ()
  verifyPersisted := .ok (true, "seal_verified")
  removeTemporary := .ok ()

/-- A run of cases of the first check. -/
def exampleRunOf (caseIds : List String) : CandidateRun where
  identity := .ofItems [
    ("runner_id", .str RUNNER_ID),
    ("runner_version", .str RUNNER_VERSION),
    ("latest_alias_allowed", .bool false),
    ("self_upgrade_allowed", .bool false)]
  fingerprints := exampleFingerprints
  attestationPaths := [("R-FC-01-P", "attestation.json"), ("R-FC-01-N", "attestation.json")]
  preflightPaths := [("R-FC-01-P", "preflight.json"), ("R-FC-01-N", "preflight.json")]
  caseHandlers := some ⟨exampleHandlers, by decide⟩
  handlerManifest := some exampleHandlerManifest
  operatorRef := some "operator://example"
  independentReviewerRef := some "reviewer://example"
  caseIds := some caseIds
  persistDir := none

def exampleRun : CandidateRun := exampleRunOf ["R-FC-01-P"]

/-- The sessions meet no obstacle before their handlers. -/
def exampleSessions (handler : String → Except Exc Val) : Surroundings where
  catalog := .ok exampleCatalog.toVal
  authorityFingerprint := .ok exampleDigest
  files := exampleFiles
  preflight caseId _ := .ok (examplePreflight caseId).toVal
  attestation caseId _ := .ok (exampleAttestation caseId).toVal
  session caseId := exampleSteps (handler caseId)
  now _ := "2026-06-01T00:00:00Z"
  capturedAt := "2026-06-01T00:00:00Z"
  writeReport := .ok ()

def exampleSurroundings (handler : Except Exc Val) : Surroundings := exampleSessions fun _ => handler

variable (handler : String → Except Exc Val) (caseIds : List String)

theorem caseAttestation_example {caseId : String} (hcase : caseId = "R-FC-01-P" ∨ caseId = "R-FC-01-N") :
    caseAttestation (exampleSessions handler) (exampleRunOf caseIds) caseId = .ok (.ok (exampleAttestation caseId, exampleIsolation)) := by
  have hlookup : (exampleRunOf caseIds).attestationPaths.lookup caseId = some "attestation.json" := by
    rcases hcase with rfl | rfl <;> rfl
  have hload : loadAttestation ((exampleSessions handler).attestation caseId "attestation.json") =
      .ok (exampleAttestation caseId, exampleIsolation) := loadAttestation_example hcase
  unfold caseAttestation
  rw [hlookup]
  dsimp only
  rw [hload]
  rcases hcase with rfl | rfl <;> rfl

theorem caseGate_example {case : DeclaredCase} (hcase : case = exampleDeclared "R-FC-01" "-P" ∨ case = exampleDeclared "R-FC-01" "-N") :
    caseGate (exampleSessions handler) (exampleRunOf caseIds) none case =
      .ok (.passed exampleHandler (exampleAttestation case.caseId) exampleIsolation) := by
  have hid : case.caseId = "R-FC-01-P" ∨ case.caseId = "R-FC-01-N" := by
    rcases hcase with rfl | rfl
    exacts [.inl rfl, .inr rfl]
  have hfingerprints : fingerprintsOk (exampleRunOf caseIds).fingerprints = true := rfl
  have hreviewer : reviewerSeparated (exampleRunOf caseIds) = true := rfl
  have hhandler : (exampleRunOf caseIds).handler? case.caseId = some exampleHandler := by
    rcases hid with h | h <;> rw [h] <;> rfl
  have hfixture : case.fixture.item "fixture_id" = .ok (.str "fixture://R-FC-01") := by
    rcases hcase with rfl | rfl <;> rfl
  have hpreflight : casePreflight (exampleSessions handler) (exampleRunOf caseIds) "fixture://R-FC-01" case.caseId = .ok none := by
    rcases hcase with rfl | rfl <;> rfl
  unfold caseGate
  rw [hfingerprints, hreviewer, hhandler]
  show (case.fixture.item "fixture_id" >>= fun _ => _) = _
  rw [hfixture, ok_bind]
  show (casePreflight (exampleSessions handler) (exampleRunOf caseIds) "fixture://R-FC-01" case.caseId >>= fun _ => _) = _
  rw [hpreflight, ok_bind]
  show (caseAttestation (exampleSessions handler) (exampleRunOf caseIds) case.caseId >>= fun _ => _) = _
  rw [caseAttestation_example handler caseIds hid]
  rfl

theorem session_example (message : String) :
    caseSession (exampleSurroundings (.error (.valueError "ValueError" message))) exampleRun "R-FC-01-P" exampleIsolation =
      (.ok ⟨"R-FC-01-P", "VALIDATION_ERROR", "ValueError:" ++ message,
        ⟨"R-FC-01-P", "VALIDATION_ERROR", "VALIDATION_ERROR", "ValueError:" ++ message, none⟩, none, none, none⟩, true) := by
  rfl

theorem runCandidateCase_example (message : String) : ∃ entry,
    runCandidateCase (exampleSurroundings (.error (.valueError "ValueError" message))) exampleRun exampleDigest none
      (exampleDeclared "R-FC-01" "-P") = (.ok entry, true) ∧ entry.executed = false := by
  let session : ReplaySessionResult := ⟨"R-FC-01-P", "VALIDATION_ERROR", "ValueError:" ++ message,
    ⟨"R-FC-01-P", "VALIDATION_ERROR", "VALIDATION_ERROR", "ValueError:" ++ message, none⟩, none, none, none⟩
  obtain ⟨entry, hentry⟩ : ∃ entry, sessionEntry (exampleSurroundings (.error (.valueError "ValueError" message))) exampleRun
      exampleDigest (exampleDeclared "R-FC-01" "-P") (exampleAttestation (exampleDeclared "R-FC-01" "-P").caseId) session = .ok entry := by
    refine sessionEntry_returns rfl (sessionEvidence_complete (by decide) (by decide) ?_ (List.forall_mem_nil _) ?_ ?_ nofun rfl)
    · exact ⟨_, _, rfl, rfl, by decide, by decide, by decide⟩
    · show "ValueError:" ++ message ≠ ""
      simp
    · show "VALIDATION_ERROR" ≠ ""
      simp
  refine ⟨entry, ?_, (sessionEntry_fields hentry).2⟩
  unfold runCandidateCase
  rw [show caseGate (exampleSurroundings (.error (.valueError "ValueError" message))) exampleRun none _ = _ from
    caseGate_example _ _ (.inl rfl)]
  show (((caseSession (exampleSurroundings (.error (.valueError "ValueError" message))) exampleRun "R-FC-01-P"
    exampleIsolation).1 >>= fun _ => _), _) = _
  rw [session_example, ok_bind, hentry]
  rfl

omit [Runtime] in
theorem loadCatalog_example : loadCatalog (.ok exampleCatalog.toVal) = .ok (exampleCatalog,
    RF_CHECKS.flatMap fun checkId => ["-P", "-N"].map (exampleDeclared checkId)) := rfl

theorem selectedCases_example :
    selectedCases exampleRun (RF_CHECKS.flatMap fun checkId => ["-P", "-N"].map (exampleDeclared checkId)) =
      .ok [exampleDeclared "R-FC-01" "-P"] := rfl

theorem validateHandlerContract_example {selectedIds : List String}
    (hselected : ∀ caseId ∈ selectedIds, caseId ∈ ["R-FC-01-P", "R-FC-01-N"]) :
    validateHandlerContract exampleFiles (exampleRunOf caseIds).handlerManifest (exampleRunOf caseIds).caseHandlers selectedIds =
      .ok none := by
  have hmanifest : (exampleRunOf caseIds).handlerManifest = some exampleHandlerManifest := rfl
  have hhandlers : ((exampleRunOf caseIds).caseHandlers.map (·.items)).getD [] = exampleHandlers := rfl
  unfold validateHandlerContract
  rw [hmanifest, hhandlers]
  dsimp only
  rw [handlerContract_example hselected]

/-- The report of a run whose only handler raises: it was invoked, and none is counted. -/
theorem runRFcCandidate_example (message : String) : ∃ report,
    runRFcCandidate (exampleSurroundings (.error (.valueError "ValueError" message))) exampleRun = (.ok report, ["R-FC-01-P"]) ∧
      report.executedCaseCount = 0 := by
  obtain ⟨entry, hcase, hexecuted⟩ := runCandidateCase_example message
  obtain ⟨report, hreport⟩ : ∃ report, candidateReport (exampleSurroundings (.error (.valueError "ValueError" message))) exampleRun
      exampleCatalog exampleDigest none [entry] = .ok report := ⟨_, rfl⟩
  have hcases : runCandidateCases (exampleSurroundings (.error (.valueError "ValueError" message))) exampleRun exampleDigest none
      [exampleDeclared "R-FC-01" "-P"] = (.ok [entry], ["R-FC-01-P"]) := by
    rw [runCandidateCases, hcase]
    rfl
  refine ⟨report, ?_, ?_⟩
  · have hcatalog : loadCatalog (exampleSurroundings (.error (.valueError "ValueError" message))).catalog = _ :=
      loadCatalog_example
    rw [runRFcCandidate_eq hcatalog rfl selectedCases_example (validateHandlerContract_example _ (by decide)), hcases, ok_bind, hreport]
    rfl
  · rw [(candidateReport_executed hreport).1]
    simp [hexecuted]

end

/-- A handler that raises has been invoked, and the report says that no case was executed. -/
theorem report_untruthful :
    letI := asciiRuntime
    ¬ ∀ env run report, (runRFcCandidate env run).1 = .ok report → report.Truthful (runRFcCandidate env run).2 := by
  let := asciiRuntime
  intro h
  obtain ⟨report, hrun, hcount⟩ := runRFcCandidate_example "case_failed"
  have htruthful := h _ _ report (by rw [hrun])
  rw [hrun] at htruthful
  have hlength := htruthful.count
  rw [hcount] at hlength
  cases hlength

theorem report_truthful_iff_example :
    letI := asciiRuntime
    ∃ report, (runRFcCandidate (exampleSurroundings (.error (.valueError "ValueError" "case_failed"))) exampleRun).1 = .ok report ∧
      (report.Truthful (runRFcCandidate (exampleSurroundings (.error (.valueError "ValueError" "case_failed"))) exampleRun).2 ↔
        ∀ selected contract, Selects (exampleSurroundings (.error (.valueError "ValueError" "case_failed"))) exampleRun selected contract →
          ∀ case ∈ selected, Reached (exampleSurroundings (.error (.valueError "ValueError" "case_failed"))) exampleRun contract case →
            (exampleSteps (.error (.valueError "ValueError" "case_failed"))).Completes false) := by
  let := asciiRuntime
  obtain ⟨report, hrun, -⟩ := runRFcCandidate_example "case_failed"
  have hreport : (runRFcCandidate (exampleSurroundings (.error (.valueError "ValueError" "case_failed"))) exampleRun).1 =
      .ok report := by rw [hrun]
  exact ⟨report, hreport, report_truthful_iff _ _ report hreport⟩

end Pmiri
