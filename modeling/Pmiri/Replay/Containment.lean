import Pmiri.Replay.Counts

/-!
# What a handler can abort

The exceptions of a handler are caught where it is called. What it returns goes on
into the canonical text of the output, the seal, the lineage and the evidence record,
and an exception from any of these ends the whole run.
-/

namespace Pmiri

open Py

/-! ## Sessions -/

/-- What follows the output of a handler does not raise: it has canonical text, it is
written and sealed, and evidence can be made of it. -/
structure SessionSteps.Keeps (steps : SessionSteps) (output : Dict) (persisted : Bool) : Prop where
  exit : steps.handlerExit = .ok ()
  dump : steps.dumpOutput = .ok ()
  write : steps.writeOutput = .ok ()
  sealing : ∃ sealed, steps.sealDirectory = .ok sealed
  verify : ∃ verdict, steps.verifySeal = .ok verdict ∧ (verdict.1 = true → persisted = true →
    ∀ e, (steps.persistCase.bind fun _ => steps.verifyPersisted) = .error e → isPersistFailure e = true)

section

variable [Runtime]

/-- The evidence of an output names a disposition and an authorization. -/
structure Presentable (output : Dict) : Prop where
  disposition : (output.getD "disposition" (.str "UNKNOWN")).toStr ≠ ""
  lineage : ∀ raw, (output.getD "lineage" (.dict [])).asDict = some raw →
    ∀ ref, raw.get? "authorization_lineage_ref" = some ref → ref.toStr ≠ ""

/-- A handler does nothing that would end the run: if it returns a mapping, all that is done with it can be done. -/
structure SessionSteps.Contained (steps : SessionSteps) (persisted : Bool) : Prop where
  removed : steps.removeTemporary = .ok ()
  kept : ∀ output, invoke steps.handler = .ok output → steps.Keeps output persisted ∧ Presentable output

/-- What a session tells of its case. -/
structure ReplaySessionResult.Tells (session : ReplaySessionResult) (disposition : String) (output : Option Dict) : Prop where
  reason : session.reason ≠ ""
  disposition : session.replay.disposition = disposition
  output : session.replay.output = output
  fingerprint : ∀ fingerprint, session.outputFingerprint = some fingerprint → isSha256 (.str fingerprint) = true

/-- The disposition of a case whose handler gave this. -/
def dispositionOf : Except Exc Dict → String
  | .error _ => "VALIDATION_ERROR"
  | .ok output => (output.getD "disposition" (.str "UNKNOWN")).toStr

omit [Runtime] in
theorem excText_ne_empty (e : Exc) : excText e ≠ "" := by
  intro h
  have hempty := congrArg String.toList h
  rw [excText, String.toList_append, String.toList_append] at hempty
  simp at hempty

omit [Runtime] in
theorem persistSession_iff {steps : SessionSteps} {destination : Option String} {caseId : String} {replay : ReplayResult}
    {sealed : SealedCase} {outputFingerprint : String} :
    (∃ session, persistSession steps destination caseId replay sealed outputFingerprint = .ok session) ↔
      (destination.isSome = true → ∀ e, (steps.persistCase.bind fun _ => steps.verifyPersisted) = .error e → isPersistFailure e = true) := by
  unfold persistSession
  cases destination with
  | none => simp
  | some path =>
    cases hpersist : steps.persistCase.bind fun _ => steps.verifyPersisted with
    | ok verdict => simp
    | error e =>
      simp only [Option.isSome_some, true_implies, Except.error.injEq, forall_eq']
      cases hfailure : isPersistFailure e <;> simp

/-- What `run_case` makes of a case that it invoked. -/
def replayOf (caseId : String) (case : Except Exc Dict) : ReplayResult :=
  match case with
  | .error e => ⟨caseId, "VALIDATION_ERROR", "VALIDATION_ERROR", excText e, none⟩
  | .ok output => ⟨caseId, "RECORDED", dispositionOf (.ok output), "synthetic_case_completed", some output⟩

theorem runCase_eq (caseId : String) {identity : Dict} {isolation : Isolation} {fingerprints : Dict} (hidentity : PinnedRunner identity)
    (hisolation : (verifyAttestation isolation).1 = true) (hfp : fingerprintsOk fingerprints = true) (case : Except Exc Dict) :
    runCase caseId identity (some isolation) fingerprints case = (replayOf caseId case, true) := by
  simp only [runCase, verifyIdentity_ok.mpr hidentity, hisolation, hfp]
  cases case with
  | error e => rfl
  | ok output => rfl

omit [Runtime] in
/-- A session that persists its case, or does not, has a reason. -/
theorem persistSession_fields {steps : SessionSteps} {destination : Option String} {caseId : String} {replay : ReplayResult}
    {sealed : SealedCase} {outputFingerprint : String} {session : ReplaySessionResult}
    (h : persistSession steps destination caseId replay sealed outputFingerprint = .ok session) :
    session.reason ≠ "" ∧ session.replay = replay ∧ session.outputFingerprint = some outputFingerprint := by
  unfold persistSession at h
  dsimp only at h
  have hcompleted : (if sealed.completeness = "COMPLETE" then "case_completed_and_integrity_sealed"
      else "case_completed_and_integrity_sealed_incomplete") ≠ "" := by
    split <;> decide
  split at h
  · rw [← Except.ok.inj h]
    exact ⟨hcompleted, rfl, rfl⟩
  · split at h
    · rename_i valid text _
      rw [← Except.ok.inj h]
      cases valid with
      | true => exact ⟨hcompleted, rfl, rfl⟩
      | false => exact ⟨by simp, rfl, rfl⟩
    · split at h
      · rw [← Except.ok.inj h]
        exact ⟨by simp, rfl, rfl⟩
      · cases h

/-- A session after its handler was invoked. -/
theorem sealSession_replayOf (steps : SessionSteps) (destination : Option String) (caseId : String) (case : Except Exc Dict) :
    ((∃ session, sealSession steps destination caseId (replayOf caseId case) = .ok session) ↔
        ∀ output, case = .ok output → steps.Keeps output destination.isSome) ∧
      ∀ session, sealSession steps destination caseId (replayOf caseId case) = .ok session →
        session.Tells (dispositionOf case) case.toOption := by
  cases case with
  | error e =>
    refine ⟨⟨fun _ output houtput => (nomatch houtput), fun _ => ⟨_, rfl⟩⟩, fun session h => ?_⟩
    obtain rfl := Except.ok.inj h
    exact ⟨excText_ne_empty e, rfl, rfl, fun _ h => nomatch h⟩
  | ok output =>
    have hseal : sealSession steps destination caseId (replayOf caseId (.ok output)) = (do
        steps.handlerExit
        steps.dumpOutput
        steps.writeOutput
        let sealed ← steps.sealDirectory
        let verified ← steps.verifySeal
        if !verified.1 then
          return ⟨caseId, "VALIDATION_ERROR", "seal_" ++ verified.2, replayOf caseId (.ok output), none,
            some (sha256Bytes ⟨(canonicalJson output.toVal).data ++ #[10]⟩), none⟩
        persistSession steps destination caseId (replayOf caseId (.ok output)) sealed
          (sha256Bytes ⟨(canonicalJson output.toVal).data ++ #[10]⟩)) := rfl
    rw [hseal]
    constructor
    · constructor
      · intro h output' houtput
        obtain ⟨session, h⟩ := h
        obtain ⟨hexit, h⟩ := seq_ok.mp h
        obtain ⟨hdump, h⟩ := seq_ok.mp h
        obtain ⟨hwrite, h⟩ := seq_ok.mp h
        obtain ⟨sealed, hsealed, h⟩ := bind_ok.mp h
        obtain ⟨verdict, hverify, h⟩ := bind_ok.mp h
        refine ⟨hexit, hdump, hwrite, ⟨sealed, hsealed⟩, verdict, hverify, fun hvalid => ?_⟩
        rw [hvalid] at h
        exact persistSession_iff.mp ⟨session, h⟩
      · intro h
        obtain ⟨hexit, hdump, hwrite, ⟨sealed, hsealed⟩, verdict, hverify, hpersist⟩ := h output rfl
        simp only [hexit, hdump, hwrite, hsealed, hverify, ok_bind]
        cases hvalid : verdict.1 with
        | false => exact ⟨_, rfl⟩
        | true =>
          obtain ⟨session, hsession⟩ := persistSession_iff.mpr (hpersist hvalid)
          exact ⟨session, hsession⟩
    · intro session h
      obtain ⟨-, h⟩ := seq_ok.mp h
      obtain ⟨-, h⟩ := seq_ok.mp h
      obtain ⟨-, h⟩ := seq_ok.mp h
      obtain ⟨sealed, -, h⟩ := bind_ok.mp h
      obtain ⟨verdict, -, h⟩ := bind_ok.mp h
      have hfingerprint : isSha256 (.str (sha256Bytes ⟨(canonicalJson output.toVal).data ++ #[10]⟩)) = true := isSha256_sha256Bytes _
      split at h
      · obtain rfl := Except.ok.inj h
        refine ⟨by simp, rfl, rfl, fun fingerprint h => ?_⟩
        rw [← Option.some.inj h]
        exact hfingerprint
      · obtain ⟨hreason, hreplay, houtput⟩ := persistSession_fields h
        refine ⟨hreason, by rw [hreplay]; rfl, by rw [hreplay]; rfl, fun fingerprint h => ?_⟩
        rw [houtput] at h
        rw [← Option.some.inj h]
        exact hfingerprint

/-- A session behind its gate, whose preparation does not fail. -/
theorem caseSession_spec {env : Surroundings} {run : CandidateRun} (caseId : String) {isolation : Isolation}
    (hidentity : PinnedRunner run.identity) (hisolation : (verifyAttestation isolation).1 = true)
    (hfp : fingerprintsOk run.fingerprints = true) (hprepares : (env.session caseId).Prepares run.persistDir.isSome) :
    ((∃ session, (caseSession env run caseId isolation).1 = .ok session) ↔ (env.session caseId).removeTemporary = .ok () ∧
        ∀ output, invoke (env.session caseId).handler = .ok output → (env.session caseId).Keeps output run.persistDir.isSome) ∧
      ∀ session, (caseSession env run caseId isolation).1 = .ok session →
        session.Tells (dispositionOf (invoke (env.session caseId).handler)) (invoke (env.session caseId).handler).toOption := by
  have hdir : (run.persistDir.map (· ++ "/" ++ caseId)).isSome = run.persistDir.isSome := Option.isSome_map
  have hsession : (caseSession env run caseId isolation).1 = leaving (env.session caseId)
      (sealSession (env.session caseId) (run.persistDir.map (· ++ "/" ++ caseId)) caseId
        (replayOf caseId (invoke (env.session caseId).handler))) := by
    rw [caseSession, runControlledCase_prepared caseId run.identity isolation hfp (by rw [hdir]; exact hprepares),
      runCase_eq caseId hidentity hisolation hfp]
  obtain ⟨hiff, htells⟩ := sealSession_replayOf (env.session caseId) (run.persistDir.map (· ++ "/" ++ caseId)) caseId
    (invoke (env.session caseId).handler)
  rw [hdir] at hiff
  rw [hsession, ← hiff, leaving]
  cases hremoved : (env.session caseId).removeTemporary with
  | error e => simp
  | ok done => exact ⟨(and_iff_right rfl).symm, htells⟩

/-! ## Evidence -/

/-- The parts of a record that a session contributes to are sound where it has no errors. -/
theorem sections_of_errors {r : EvidenceRecord} (h : validateEvidenceRecord r.structured = .ok []) :
    (r.fixture.get "fixture_id").truthy = true ∧ (∀ step ∈ r.actionTrace, traceStepOk step.toVal = true) ∧
      (r.actual.get "disposition").truthy = true ∧ (r.lineage.get "authorization_lineage_ref").truthy = true := by
  obtain ⟨-, -, -, -, hfixture, htrace, -, hactual, hlineage, -⟩ := r.structured_fields
  unfold validateEvidenceRecord at h
  obtain ⟨identity, -, h⟩ := bind_ok.mp h
  obtain ⟨review, -, h⟩ := bind_ok.mp h
  obtain ⟨status, -, h⟩ := bind_ok.mp h
  have hnil := Except.ok.inj h
  simp only [List.append_eq_nil_iff, errorIf_nil, Bool.not_eq_false', sectionOk_of_get hfixture, sectionOk_of_get hactual,
    sectionOk_of_get hlineage, Bool.and_eq_true] at hnil
  obtain ⟨⟨⟨⟨⟨⟨⟨⟨-, hfixtureOk⟩, hsteps⟩, -⟩, hactualOk⟩, hlineageOk⟩, -⟩, -⟩, -⟩ := hnil
  refine ⟨hfixtureOk.1.1, fun step hstep => ?_, hactualOk.1.1, hlineageOk.1.1⟩
  rw [htrace] at hsteps
  cases hrest : r.actionTrace with
  | nil =>
    rw [hrest] at hstep
    cases hstep
  | cons first rest =>
    rw [hrest, List.map_cons] at hsteps
    simp only [errorIf_nil, Bool.not_eq_false'] at hsteps
    rw [hrest] at hstep
    exact List.all_eq_true.mp hsteps _ (List.mem_map_of_mem (f := Dict.toVal) hstep)

theorem createEvidenceRecord_parts {i : EvidenceInput} {r : EvidenceRecord} (h : createEvidenceRecord i = .ok r) :
    r.fixture = i.fixture ∧ r.actionTrace = i.trace ∧ r.actual = i.actualRecord ∧ i.lineageRecord = .ok r.lineage := by
  unfold createEvidenceRecord at h
  obtain ⟨-, h⟩ := seq_ok.mp h
  obtain ⟨-, h⟩ := seq_ok.mp h
  obtain ⟨-, h⟩ := seq_ok.mp h
  obtain ⟨-, h⟩ := seq_ok.mp h
  obtain ⟨-, h⟩ := seq_ok.mp h
  obtain ⟨lineage, hlineage, h⟩ := bind_ok.mp h
  obtain ⟨errors, -, h⟩ := bind_ok.mp h
  obtain ⟨-, h⟩ := seq_ok.mp h
  rw [← Except.ok.inj h]
  exact ⟨rfl, rfl, rfl, hlineage⟩

/-- A lineage names an authorization, unless the output has an empty one. -/
theorem lineage_ref_truthy (output : Option Dict) (caseId : String) :
    ((lineage output caseId).get "authorization_lineage_ref").truthy = true ↔ ∀ o, output = some o →
      ∀ raw, (o.getD "lineage" (.dict [])).asDict = some raw → ∀ ref, raw.get? "authorization_lineage_ref" = some ref → ref.toStr ≠ "" := by
  have hdefault : "lineage://r-fc/" ++ EvidenceInput.lowerText caseId ≠ "" := by simp
  have hget : ∀ raw : Dict, (raw.getD "authorization_lineage_ref" (.str ("lineage://r-fc/" ++ EvidenceInput.lowerText caseId))).toStr ≠ "" ↔
      ∀ ref, raw.get? "authorization_lineage_ref" = some ref → ref.toStr ≠ "" := by
    intro raw
    rw [Dict.getD]
    cases raw.get? "authorization_lineage_ref" with
    | none => simp [Val.toStr_str]
    | some ref => simp
  have htruthy : ((lineage output caseId).get "authorization_lineage_ref").truthy = true ↔
      ((((output.bind fun o => (o.getD "lineage" (.dict [])).asDict).getD (.ofItems [])).getD "authorization_lineage_ref"
        (.str ("lineage://r-fc/" ++ EvidenceInput.lowerText caseId))).toStr ≠ "") := by
    simp [lineage, Dict.ofItems, Dict.get_insert, EvidenceInput.text, Val.truthy]
  have hnothing : ∀ ref, (Dict.ofItems []).get? "authorization_lineage_ref" = some ref → ref.toStr ≠ "" := fun ref href => by cases href
  rw [htruthy, hget]
  cases output with
  | none =>
    refine iff_of_true hnothing fun o ho => ?_
    cases ho
  | some o =>
    rw [Option.bind_some]
    cases hraw : (o.getD "lineage" (.dict [])).asDict with
    | none =>
      refine iff_of_true hnothing fun o' ho raw hraw' => ?_
      rw [← Option.some.inj ho, hraw] at hraw'
      cases hraw'
    | some raw =>
      constructor
      · intro h o' ho raw' hraw'
        rw [← Option.some.inj ho, hraw] at hraw'
        exact Option.some.inj hraw' ▸ h
      · intro h
        exact h o rfl raw hraw

theorem lineageRecord_ref {i : EvidenceInput} {record : Dict} (h : i.lineageRecord = .ok record) :
    record.get "authorization_lineage_ref" =
      EvidenceInput.text i.lineage "authorization_lineage_ref" ("lineage://unbound/" ++ EvidenceInput.lowerText i.checkId) := by
  unfold EvidenceInput.lineageRecord at h
  obtain ⟨evidenceRefs, -, h⟩ := bind_ok.mp h
  obtain ⟨citationRefs, -, h⟩ := bind_ok.mp h
  obtain ⟨boundaryRefs, -, h⟩ := bind_ok.mp h
  rw [← Except.ok.inj h]
  cases boundaryRefs with
  | none => simp [Dict.ofItems, Dict.get_insert]
  | some refs => simp [Dict.ofItems, Dict.get_insert]

/-- The declared steps are in the trace of a case. -/
theorem texts_of_trace {case : Dict} {caseId finalState : String} (h : ∀ step ∈ trace case caseId finalState, traceStepOk step.toVal = true) :
    ∀ step ∈ declaredSteps case "setup" "declared_setup" ++ declaredSteps case "actions" "declared_action", step.2 ≠ "" := by
  intro step hstep
  have hmem : step ∈ declaredSteps case "setup" "declared_setup" ++ declaredSteps case "actions" "declared_action" ++
      [("controlled_replay", finalState)] := List.mem_append_left _ hstep
  obtain ⟨index, hindex, heq⟩ := List.mem_iff_getElem.mp hmem
  have hzip : (step, index) ∈ (declaredSteps case "setup" "declared_setup" ++ declaredSteps case "actions" "declared_action" ++
      [("controlled_replay", finalState)]).zipIdx := by
    rw [List.mem_zipIdx_iff_getElem?, List.getElem?_eq_getElem hindex, heq]
  have hok := h _ (List.mem_map.mpr ⟨_, hzip, rfl⟩)
  simp only [traceStepOk, Val.asDict_toVal, traceStep, Bool.and_eq_true] at hok
  have hstate := hok.2
  simp only [Dict.ofItems, List.foldl_cons, List.foldl_nil, Dict.get_insert_self, Val.truthy, bne_iff_ne] at hstate
  exact hstate

/-- The parts of a declared case that its evidence is made of. -/
structure DeclaredCase.Sound (case : DeclaredCase) : Prop where
  named : case.caseId ≠ ""
  oracle : ∃ dispositions, expected case.case = .ok dispositions
  texts : ∀ step ∈ declaredSteps case.case "setup" "declared_setup" ++ declaredSteps case.case "actions" "declared_action", step.2 ≠ ""

/-- An entry is made of a session exactly if its evidence can be. -/
theorem sessionEntry_iff {env : Surroundings} {run : CandidateRun} {authorityFp : String} {case : DeclaredCase} {attestation : Dict}
    {session : ReplaySessionResult} {disposition : String} {output : Option Dict} (hcheck : case.checkId ∈ RF_CHECKS)
    (hseparated : Separated run) (htells : session.Tells disposition output) :
    (∃ entry, sessionEntry env run authorityFp case attestation session = .ok entry) ↔ case.Sound ∧ disposition ≠ "" ∧
      ((lineage output case.caseId).get "authorization_lineage_ref").truthy = true := by
  constructor
  · intro h
    obtain ⟨entry, h⟩ := h
    obtain ⟨dispositions, hdispositions, h⟩ := bind_ok.mp h
    obtain ⟨r, hr, -⟩ := bind_ok.mp h
    obtain ⟨hfixture, htrace, hactual, hlineage⟩ := createEvidenceRecord_parts hr
    obtain ⟨hid, hsteps, hdisposition, href⟩ := sections_of_errors (createEvidenceRecord_errors hr)
    rw [hfixture] at hid
    rw [htrace] at hsteps
    rw [hactual, (EvidenceInput.actualRecord_fields _).1] at hdisposition
    rw [lineageRecord_ref hlineage] at href
    refine ⟨⟨?_, ⟨dispositions, hdispositions⟩, ?_⟩, ?_, ?_⟩
    · simp only [EvidenceInput.fixture, Dict.ofItems, List.foldl_cons, List.foldl_nil, Dict.get_insert, String.reduceEq, ↓reduceIte,
        Val.truthy, bne_iff_ne] at hid
      exact hid
    · have hnonempty : (trace case.case case.caseId session.reason).isEmpty = false := by simp [trace]
      have htraceEq : (sessionEvidence env run authorityFp case attestation session dispositions).trace =
          trace case.case case.caseId session.reason := if_neg (by rw [Bool.not_eq_true]; exact hnonempty)
      rw [htraceEq] at hsteps
      exact texts_of_trace hsteps
    · simp only [sessionEvidence, EvidenceInput.text, Dict.ofItems, List.foldl_cons, List.foldl_nil, Dict.getD_insert, String.reduceEq,
        ↓reduceIte, Val.toStr_str, Val.truthy, bne_iff_ne] at hdisposition
      rw [← htells.disposition]
      exact hdisposition
    · have hlineageEq : (sessionEvidence env run authorityFp case attestation session dispositions).lineage = lineage output case.caseId :=
        congrArg (lineage · case.caseId) htells.output
      obtain ⟨ref, evidenceRefs, citationRefs, boundaryRefs, hitems⟩ := lineage_items output case.caseId
      rw [hlineageEq] at href
      rw [hitems] at href ⊢
      simp only [EvidenceInput.text, Dict.ofItems, List.foldl_cons, List.foldl_nil, Dict.getD_insert, Dict.get_insert, String.reduceEq,
        ↓reduceIte, Val.toStr_str] at href ⊢
      exact href
  · intro h
    obtain ⟨hsound, hdisposition, href⟩ := h
    obtain ⟨dispositions, hdispositions⟩ := hsound.oracle
    refine sessionEntry_returns hdispositions (sessionEvidence_complete hcheck hsound.named hseparated hsound.texts htells.reason ?_
      htells.fingerprint ?_)
    · rw [htells.disposition]
      exact hdisposition
    · rw [htells.output]
      exact href

/-! ## Cases -/

/-- A case that the runner gets to has an entry exactly if it is sound and its handler is contained. -/
theorem runCandidateCase_iff {env : Surroundings} {run : CandidateRun} {selectedIds : List String} {contract : Option String}
    (hcontract : validateHandlerContract env.files run.handlerManifest run.caseHandlers selectedIds = .ok contract)
    (authorityFp : String) {case : DeclaredCase} (hcheck : case.checkId ∈ RF_CHECKS) (h : Reached env run contract case) :
    (∃ entry, (runCandidateCase env run authorityFp contract case).1 = .ok entry) ↔
      case.Sound ∧ (env.session case.caseId).Contained run.persistDir.isSome := by
  obtain ⟨handler, record, isolation, hgate⟩ := h.gate
  obtain ⟨hcleared, hfp, hisolation⟩ := caseGate_passed hcontract hgate
  obtain ⟨hsession, htells⟩ := caseSession_spec case.caseId h.identity hisolation hfp h.prepares
  have hrun : (runCandidateCase env run authorityFp contract case).1 =
      (caseSession env run case.caseId isolation).1.bind fun session => sessionEntry env run authorityFp case record session := by
    rw [runCandidateCase, hgate]
  rw [hrun]
  have hentry := fun session (hok : (caseSession env run case.caseId isolation).1 = .ok session) =>
    @sessionEntry_iff _ env run authorityFp case record session _ _ hcheck (hcleared h.identity).separated (htells session hok)
  constructor
  · intro hreturned
    obtain ⟨entry, hreturned⟩ := hreturned
    obtain ⟨session, hok, hreturned⟩ := bind_ok.mp hreturned
    obtain ⟨hremoved, hkeeps⟩ := hsession.mp ⟨session, hok⟩
    obtain ⟨hsound, hdisposition, href⟩ := (hentry session hok).mp ⟨entry, hreturned⟩
    refine ⟨hsound, hremoved, fun output houtput => ⟨hkeeps output houtput, ?_⟩⟩
    rw [houtput] at hdisposition href
    exact ⟨hdisposition, (lineage_ref_truthy _ _).mp href output rfl⟩
  · intro hcontained
    obtain ⟨hsound, hremoved, hkept⟩ := hcontained
    obtain ⟨session, hok⟩ := hsession.mpr ⟨hremoved, fun output houtput => (hkept output houtput).1⟩
    have hpresented : dispositionOf (invoke (env.session case.caseId).handler) ≠ "" ∧
        ((lineage (invoke (env.session case.caseId).handler).toOption case.caseId).get "authorization_lineage_ref").truthy = true := by
      cases houtput : invoke (env.session case.caseId).handler with
      | error e => exact ⟨by simp [dispositionOf], (lineage_ref_truthy _ _).mpr fun o ho => nomatch ho⟩
      | ok output =>
        obtain ⟨-, hpresentable⟩ := hkept output houtput
        refine ⟨hpresentable.disposition, (lineage_ref_truthy _ _).mpr fun o ho => ?_⟩
        rw [← Option.some.inj ho]
        exact hpresentable.lineage
    obtain ⟨entry, hreturned⟩ := (hentry session hok).mpr ⟨hsound, hpresented⟩
    exact ⟨entry, bind_ok.mpr ⟨session, hok, hreturned⟩⟩

/-- What a case comes to depends on no other session. -/
theorem runCandidateCase_session {env : Surroundings} {run : CandidateRun} {sessions : String → SessionSteps} {case : DeclaredCase}
    (h : sessions case.caseId = env.session case.caseId) (authorityFp : String) (contract : Option String) :
    runCandidateCase { env with session := sessions } run authorityFp contract case =
      runCandidateCase env run authorityFp contract case := by
  have hgate : caseGate { env with session := sessions } run contract case = caseGate env run contract case := rfl
  have hsession : ∀ isolation, caseSession { env with session := sessions } run case.caseId isolation =
      caseSession env run case.caseId isolation := by
    intro isolation
    show runControlledCase (sessions case.caseId) _ _ _ _ _ = _
    rw [h]
    rfl
  rw [runCandidateCase, runCandidateCase, hgate]
  split
  · rfl
  · rfl
  · rw [hsession]
    rfl

omit [Runtime] in
theorem declaredCases_checkId {checkId : String} {fixture : Dict} {values : List Val} {seen : List String} {cases : List DeclaredCase}
    (h : declaredCases checkId fixture values seen = .ok cases) : ∀ case ∈ cases, case.checkId = checkId := by
  induction values generalizing seen cases with
  | nil =>
    obtain rfl := Except.ok.inj h
    exact List.forall_mem_nil _
  | cons value values ih =>
    obtain ⟨case, -, h⟩ := bind_ok.mp h
    obtain ⟨-, h⟩ := seq_ok.mp h
    obtain ⟨oracle, -, h⟩ := bind_ok.mp h
    obtain ⟨-, h⟩ := seq_ok.mp h
    obtain ⟨more, hmore, h⟩ := bind_ok.mp h
    obtain rfl := Except.ok.inj h
    exact List.forall_mem_cons.mpr ⟨rfl, ih hmore⟩

omit [Runtime] in
theorem fixtureCases_checkId {values : List Val} {checks seen : List String} {cases : List DeclaredCase}
    (h : fixtureCases values checks seen = .ok cases) : ∀ case ∈ cases, case.checkId ∈ RF_CHECKS := by
  induction values generalizing checks seen cases with
  | nil =>
    obtain rfl := Except.ok.inj h
    exact List.forall_mem_nil _
  | cons value values ih =>
    obtain ⟨fixture, -, h⟩ := bind_ok.mp h
    obtain ⟨hcheck, h⟩ := seq_ok.mp h
    obtain ⟨-, h⟩ := seq_ok.mp h
    obtain ⟨-, h⟩ := seq_ok.mp h
    obtain ⟨items, -, h⟩ := bind_ok.mp h
    obtain ⟨declared, hdeclared, h⟩ := bind_ok.mp h
    obtain ⟨more, hmore, h⟩ := bind_ok.mp h
    obtain rfl := Except.ok.inj h
    rw [raiseIfM_ok, Val.notIn_ok_false] at hcheck
    obtain ⟨check, hknown, hcheck⟩ := hcheck
    refine List.forall_mem_append.mpr ⟨fun case hcase => ?_, ih hmore⟩
    rw [declaredCases_checkId hdeclared case hcase, hcheck]
    exact hknown

omit [Runtime] in
/-- The cases of a catalog are declared for known checks. -/
theorem checkId_of_loadCatalog {file : Except Exc Val} {catalog : Dict} {cases : List DeclaredCase}
    (h : loadCatalog file = .ok (catalog, cases)) : ∀ case ∈ cases, case.checkId ∈ RF_CHECKS := by
  unfold loadCatalog at h
  obtain ⟨content, -, h⟩ := bind_ok.mp h
  obtain ⟨catalog', -, h⟩ := bind_ok.mp h
  obtain ⟨-, h⟩ := seq_ok.mp h
  obtain ⟨fixtures, -, h⟩ := bind_ok.mp h
  obtain ⟨-, h⟩ := seq_ok.mp h
  obtain ⟨cases', hcases, h⟩ := bind_ok.mp h
  obtain ⟨-, h⟩ := seq_ok.mp h
  obtain ⟨-, rfl⟩ := Prod.mk.inj (Except.ok.inj h)
  exact fixtureCases_checkId hcases

theorem runCandidateCases_iff {env : Surroundings} {run : CandidateRun} {authorityFp : String} {contract : Option String}
    {cases : List DeclaredCase} : (∃ entries, (runCandidateCases env run authorityFp contract cases).1 = .ok entries) ↔
      ∀ case ∈ cases, ∃ entry, (runCandidateCase env run authorityFp contract case).1 = .ok entry := by
  constructor
  · intro h case hcase
    obtain ⟨entries, h⟩ := h
    obtain ⟨entry, -, hentry⟩ := exists_of_forall₂ (runCandidateCases_ok h).1.flip hcase
    exact ⟨entry, hentry⟩
  · intro h
    induction cases with
    | nil => exact ⟨[], rfl⟩
    | cons case cases ih =>
      obtain ⟨entry, hentry⟩ := h case List.mem_cons_self
      obtain ⟨entries, hentries⟩ := ih fun case hcase => h case (List.mem_cons_of_mem _ hcase)
      rcases runCandidateCases_cons env run authorityFp contract case cases with ⟨e, herror, -⟩ | ⟨entry', -, hrun⟩
      · rw [hentry] at herror
        cases herror
      · rw [hrun, hentries]
        exact ⟨entry' :: entries, rfl⟩

/-! ## Runs -/

/-- The prerequisites of the selected cases are satisfied: every case gets to its handler. -/
structure Prerequisites (env : Surroundings) (run : CandidateRun) (catalog : Dict) (selected : List DeclaredCase) : Prop where
  selects : ∃ cases, loadCatalog env.catalog = .ok (catalog, cases) ∧ selectedCases run cases = .ok selected
  authority : ∃ authorityFp, env.authorityFingerprint = .ok authorityFp
  reached : ∃ contract, validateHandlerContract env.files run.handlerManifest run.caseHandlers (selected.map (·.caseId)) = .ok contract ∧
    ∀ case ∈ selected, Reached env run contract case
  report : env.writeReport = .ok ()

/-- The run returns a report with one entry for each of the selected cases, and the entry
of a case is what it is whatever the sessions of the other cases do. -/
def Isolates (env : Surroundings) (run : CandidateRun) (selected : List DeclaredCase) : Prop :=
  ∃ report, (runRFcCandidate env run).1 = .ok report ∧ report.cases.map (·.caseId) = selected.map (·.caseId) ∧
    ∀ sessions report', (runRFcCandidate { env with session := sessions } run).1 = .ok report' →
      ∀ caseId, sessions caseId = env.session caseId → ∀ entry : CaseEntry, entry.caseId = caseId →
        (entry ∈ report'.cases ↔ entry ∈ report.cases)

/-- What the run takes of the catalog can be taken, the selected cases are sound and their handlers contained. -/
structure Containable (env : Surroundings) (run : CandidateRun) (catalog : Dict) (selected : List DeclaredCase) : Prop where
  scope : ∃ authorization, (catalog.getD "scope" (.dict [])).getOf "implementation_authorization" = .ok authorization
  sound : ∀ case ∈ selected, case.Sound
  contained : ∀ case ∈ selected, (env.session case.caseId).Contained run.persistDir.isSome

omit [Runtime] in
theorem candidateReport_iff {env : Surroundings} {run : CandidateRun} {catalog : Dict} {authorityFp : String}
    {contract : Option String} {entries : List CaseEntry} :
    (∃ report, candidateReport env run catalog authorityFp contract entries = .ok report) ↔
      ∃ authorization, (catalog.getD "scope" (.dict [])).getOf "implementation_authorization" = .ok authorization := by
  constructor
  · intro h
    obtain ⟨report, h⟩ := h
    obtain ⟨authorization, hauthorization, -⟩ := bind_ok.mp h
    exact ⟨authorization, hauthorization⟩
  · intro h
    obtain ⟨authorization, hauthorization⟩ := h
    exact ⟨_, bind_ok.mpr ⟨authorization, hauthorization, rfl⟩⟩

/-- When a run whose prerequisites are satisfied returns a report. -/
theorem runRFcCandidate_returns_iff {env : Surroundings} {run : CandidateRun} {catalog : Dict} {selected : List DeclaredCase}
    (h : Prerequisites env run catalog selected) :
    (∃ report, (runRFcCandidate env run).1 = .ok report) ↔ Containable env run catalog selected := by
  obtain ⟨cases, hcatalog, hselected⟩ := h.selects
  obtain ⟨authorityFp, hauthority⟩ := h.authority
  obtain ⟨contract, hcontract, hreached⟩ := h.reached
  have hcheck : ∀ case ∈ selected, case.checkId ∈ RF_CHECKS := fun case hcase =>
    checkId_of_loadCatalog hcatalog case ((selectedCases_ok hselected).2 case hcase)
  have hcases : (∃ entries, (runCandidateCases env run authorityFp contract selected).1 = .ok entries) ↔
      ∀ case ∈ selected, case.Sound ∧ (env.session case.caseId).Contained run.persistDir.isSome := by
    rw [runCandidateCases_iff]
    exact forall₂_congr fun case hcase => runCandidateCase_iff hcontract authorityFp (hcheck case hcase) (hreached case hcase)
  rw [runRFcCandidate_eq hcatalog hauthority hselected hcontract]
  constructor
  · intro hreturned
    obtain ⟨report, hreturned⟩ := hreturned
    obtain ⟨entries, hentries, hreturned⟩ := bind_ok.mp hreturned
    obtain ⟨report', hreport, -⟩ := bind_ok.mp hreturned
    have hall := hcases.mp ⟨entries, hentries⟩
    exact ⟨candidateReport_iff.mp ⟨report', hreport⟩, fun case hcase => (hall case hcase).1, fun case hcase => (hall case hcase).2⟩
  · intro hcontainable
    obtain ⟨entries, hentries⟩ := hcases.mpr fun case hcase => ⟨hcontainable.sound case hcase, hcontainable.contained case hcase⟩
    obtain ⟨report, hreport⟩ : ∃ report, candidateReport env run catalog authorityFp contract entries = .ok report :=
      candidateReport_iff.mpr hcontainable.scope
    exact ⟨report, bind_ok.mpr ⟨entries, hentries, bind_ok.mpr ⟨report, hreport, seq_ok.mpr ⟨h.report, rfl⟩⟩⟩⟩

/-- The entries of a report are those of the selected cases, one by one. -/
theorem report_entries {env : Surroundings} {run : CandidateRun} {catalog : Dict} {cases selected : List DeclaredCase}
    {authorityFp : String} {contract : Option String} (hcatalog : loadCatalog env.catalog = .ok (catalog, cases))
    (hauthority : env.authorityFingerprint = .ok authorityFp) (hselected : selectedCases run cases = .ok selected)
    (hcontract : validateHandlerContract env.files run.handlerManifest run.caseHandlers (selected.map (·.caseId)) = .ok contract)
    {report : CandidateReport} (h : (runRFcCandidate env run).1 = .ok report) :
    List.Forall₂ (fun case entry => entry.caseId = case.caseId ∧ (runCandidateCase env run authorityFp contract case).1 = .ok entry)
      selected report.cases := by
  rw [runRFcCandidate_eq hcatalog hauthority hselected hcontract] at h
  obtain ⟨entries, hentries, h⟩ := bind_ok.mp h
  obtain ⟨report', hreport, h⟩ := bind_ok.mp h
  obtain ⟨-, h⟩ := seq_ok.mp h
  obtain rfl := Except.ok.inj h
  rw [candidateReport_cases hreport]
  refine (runCandidateCases_ok hentries).1.imp fun case entry hentry => ⟨?_, hentry⟩
  exact ((runCandidateCase_reached hcontract authorityFp case).2 entry hentry).1

omit [Runtime] in
theorem caseIds_of_entries {cases : List DeclaredCase} {entries : List CaseEntry}
    (h : List.Forall₂ (fun case entry => entry.caseId = case.caseId) cases entries) :
    entries.map (·.caseId) = cases.map (·.caseId) := by
  induction h with
  | nil => rfl
  | cons hentry _ ih => rw [List.map_cons, List.map_cons, hentry, ih]

omit [Runtime] in
theorem mem_of_entries {α β ε : Type} {ok ok' : α → Except ε β} {xs : List α} {ys ys' : List β}
    (h : List.Forall₂ (fun x y => ok x = .ok y) xs ys) (h' : List.Forall₂ (fun x y => ok' x = .ok y) xs ys') {y : β} (hy : y ∈ ys)
    (hsame : ∀ x ∈ xs, ok x = .ok y → ok' x = ok x) : y ∈ ys' := by
  obtain ⟨x, hx, hok⟩ := exists_of_forall₂ h hy
  obtain ⟨y', hy', hok'⟩ := exists_of_forall₂ h'.flip hx
  rw [hsame x hx hok, hok] at hok'
  exact Except.ok.inj hok' ▸ hy'

/-- No handler aborts a run or touches the entry of another case exactly if everything that
is done with what the handlers return can be done. -/
theorem runRFcCandidate_isolates_iff {env : Surroundings} {run : CandidateRun} {catalog : Dict} {selected : List DeclaredCase}
    (h : Prerequisites env run catalog selected) : Isolates env run selected ↔ Containable env run catalog selected := by
  rw [← runRFcCandidate_returns_iff h]
  refine ⟨fun hisolates => hisolates.imp fun report hreport => hreport.1, fun hreturned => ?_⟩
  obtain ⟨report, hreport⟩ := hreturned
  obtain ⟨cases, hcatalog, hselected⟩ := h.selects
  obtain ⟨authorityFp, hauthority⟩ := h.authority
  obtain ⟨contract, hcontract, -⟩ := h.reached
  have hentries := report_entries hcatalog hauthority hselected hcontract hreport
  refine ⟨report, hreport, ?_, fun sessions report' hreport' caseId hsame entry hid => ?_⟩
  · exact caseIds_of_entries (hentries.imp fun _ _ hentry => hentry.1)
  · have hcases := hentries.imp fun _ _ hentry => hentry.2
    have hentries' := @report_entries _ { env with session := sessions } run _ _ _ _ _ hcatalog hauthority hselected hcontract _ hreport'
    have hcases' := hentries'.imp fun _ _ hentry => hentry.2
    have hown : ∀ case, case.caseId = caseId → runCandidateCase { env with session := sessions } run authorityFp contract case =
        runCandidateCase env run authorityFp contract case := by
      intro case hcase
      exact runCandidateCase_session (by rw [hcase, hsame]) authorityFp contract
    constructor
    · intro hentry
      refine mem_of_entries hcases' hcases hentry fun case _ hok => ?_
      have hid' := ((@runCandidateCase_reached _ { env with session := sessions } run _ _ hcontract authorityFp case).2 entry hok).1
      rw [hown case (hid'.symm.trans hid)]
    · intro hentry
      refine mem_of_entries hcases hcases' hentry fun case _ hok => ?_
      have hid' := ((runCandidateCase_reached hcontract authorityFp case).2 entry hok).1
      rw [hown case (hid'.symm.trans hid)]

/-! ## A handler without a disposition -/

theorem prerequisites_example (handler : String → Except Exc Val) {caseIds : List String} {selected : List DeclaredCase}
    (hselected : selectedCases (exampleRunOf caseIds) (RF_CHECKS.flatMap fun checkId => ["-P", "-N"].map (exampleDeclared checkId)) =
      .ok selected)
    (hcases : ∀ case ∈ selected, case = exampleDeclared "R-FC-01" "-P" ∨ case = exampleDeclared "R-FC-01" "-N") :
    Prerequisites (exampleSessions handler) (exampleRunOf caseIds) exampleCatalog selected where
  selects := ⟨_, loadCatalog_example, hselected⟩
  authority := ⟨exampleDigest, rfl⟩
  reached := by
    refine ⟨none, validateHandlerContract_example caseIds fun caseId hmem => ?_, fun case hcase =>
      ⟨⟨_, _, _, caseGate_example handler caseIds (hcases case hcase)⟩, ⟨rfl, rfl, rfl, rfl⟩, ⟨fun _ => rfl, rfl, rfl⟩⟩⟩
    obtain ⟨case, hcase, rfl⟩ := List.mem_map.mp hmem
    rcases hcases case hcase with rfl | rfl
    exacts [List.mem_cons_self, List.mem_cons_of_mem _ List.mem_cons_self]
  report := rfl

/-- What a handler returns that accepts its case. -/
def accepted : Dict := .ofItems [("disposition", .str "ACCEPTED")]

/-- The first of the two handlers raises, the second accepts. -/
def exampleAnswers (caseId : String) : Except Exc Val :=
  if caseId = "R-FC-01-P" then .error (.valueError "ValueError" "case_failed") else .ok accepted.toVal

theorem contained_example (caseId : String) : (exampleSteps (exampleAnswers caseId)).Contained false := by
  refine ⟨rfl, fun output houtput => ?_⟩
  have houtput : invoke (exampleAnswers caseId) = .ok output := houtput
  unfold exampleAnswers at houtput
  split at houtput
  · cases houtput
  · obtain rfl : accepted = output := Except.ok.inj houtput
    refine ⟨⟨rfl, rfl, rfl, ⟨_, rfl⟩, ⟨_, rfl, fun _ => nofun⟩⟩, ⟨show "ACCEPTED" ≠ "" by decide, fun raw hraw ref href => ?_⟩⟩
    obtain rfl : Dict.empty = raw := Option.some.inj hraw
    cases href

theorem sound_example {case : DeclaredCase} (hcase : case = exampleDeclared "R-FC-01" "-P" ∨ case = exampleDeclared "R-FC-01" "-N") :
    case.Sound := by
  rcases hcase with rfl | rfl
  all_goals exact ⟨by decide, ⟨_, rfl⟩, List.forall_mem_nil _⟩

/-- What a handler returns whose disposition has no text. -/
def undisposed : Dict := .ofItems [("disposition", .str "")]

theorem not_containable_example :
    ¬ Containable (exampleSurroundings (.ok undisposed.toVal)) exampleRun exampleCatalog [exampleDeclared "R-FC-01" "-P"] := by
  intro h
  obtain ⟨-, hkept⟩ := h.contained _ List.mem_cons_self
  exact (hkept undisposed rfl).2.disposition rfl

end

/-- The report has both cases, and the entry of the one does not depend on the handler of the other. -/
theorem runRFcCandidate_isolates_iff_example :
    letI := asciiRuntime
    Isolates (exampleSessions exampleAnswers) (exampleRunOf ["R-FC-01-P", "R-FC-01-N"])
      [exampleDeclared "R-FC-01" "-P", exampleDeclared "R-FC-01" "-N"] := by
  let := asciiRuntime
  have hcases : ∀ case ∈ [exampleDeclared "R-FC-01" "-P", exampleDeclared "R-FC-01" "-N"],
      case = exampleDeclared "R-FC-01" "-P" ∨ case = exampleDeclared "R-FC-01" "-N" := by
    simp only [List.mem_cons, List.not_mem_nil, or_false, imp_self, implies_true]
  exact (runRFcCandidate_isolates_iff (prerequisites_example exampleAnswers rfl hcases)).mpr
    ⟨⟨.none, rfl⟩, fun case hcase => sound_example (hcases case hcase), fun case _ => contained_example case.caseId⟩

/-- A handler returns a mapping with an empty disposition, and there is no report. -/
theorem run_aborted_by_disposition :
    letI := asciiRuntime
    ¬ ∀ env run catalog selected, Prerequisites env run catalog selected → Isolates env run selected := by
  let := asciiRuntime
  intro h
  have hprerequisites : Prerequisites (exampleSurroundings (.ok undisposed.toVal)) exampleRun exampleCatalog
      [exampleDeclared "R-FC-01" "-P"] := prerequisites_example _ selectedCases_example fun case hcase => .inl (List.mem_singleton.mp hcase)
  obtain ⟨report, hreport, -⟩ := h _ _ _ _ hprerequisites
  exact not_containable_example ((runRFcCandidate_returns_iff hprerequisites).mp ⟨report, hreport⟩)

end Pmiri
