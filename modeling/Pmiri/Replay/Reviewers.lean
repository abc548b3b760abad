import Pmiri.Python.Sha256
import Pmiri.Replay.Evidence

/-!
# Reviewers of a passed case

A record with the status `PASS` is checked on the review as it is handed in, and
stored with defaults for what is missing and with texts for what is not one. The
reviewers of a stored `PASS` are two that were named only where the review names
both, by texts or by values of different texts.
-/

namespace Pmiri

open Py

namespace EvidenceInput

/-- What the status `PASS` needs. -/
structure Promoted (i : EvidenceInput) : Prop where
  executed : (i.replay.get "executed").isTrue = true
  accepted : i.review.get "review_result" = .str "accepted"
  separated : i.review.agrees "primary_reviewer" i.review "independent_reviewer" = false

/-- The review names someone in the field. -/
def Names (i : EvidenceInput) (field : String) : Prop := i.review.get field ≠ .none

/-- The text that the field of the review has for someone. -/
def reviewer [Runtime] (i : EvidenceInput) (field : String) : String := (i.review.get field).toStr

end EvidenceInput

section

variable [Runtime] {i : EvidenceInput} {r : EvidenceRecord}

theorem createEvidenceRecord_review (h : createEvidenceRecord i = .ok r) : r.review = i.reviewRecord := by
  unfold createEvidenceRecord at h
  simp only [bind_ok] at h
  obtain ⟨⟨⟩, -, ⟨⟩, -, ⟨⟩, -, ⟨⟩, -, ⟨⟩, -, lineage, -, errors, -, ⟨⟩, -, h⟩ := h
  rw [← Except.ok.inj h]

theorem createEvidenceRecord_promoted (h : createEvidenceRecord i = .ok r) (hpass : r.status = "PASS") : i.Promoted := by
  have hstatus : i.status = "PASS" := (createEvidenceRecord_status h).symm.trans hpass
  unfold createEvidenceRecord at h
  obtain ⟨-, h⟩ := seq_ok.mp h
  obtain ⟨-, h⟩ := seq_ok.mp h
  obtain ⟨hexecuted, h⟩ := seq_ok.mp h
  obtain ⟨haccepted, h⟩ := seq_ok.mp h
  obtain ⟨hseparated, -⟩ := seq_ok.mp h
  simp only [raiseIf_ok, hstatus, beq_self_eq_true, Bool.true_and, Bool.not_eq_false', differs_false] at hexecuted haccepted hseparated
  exact ⟨hexecuted, haccepted, hseparated⟩

/-- A record without errors has someone for each reviewer. -/
theorem reviewers_of_valid {record review : Dict} (h : validateEvidenceRecord record = .ok [])
    (hreview : record.get "review" = review.toVal) :
    (review.get "primary_reviewer").truthy = true ∧ (review.get "independent_reviewer").truthy = true := by
  unfold validateEvidenceRecord at h
  obtain ⟨identity, -, h⟩ := bind_ok.mp h
  obtain ⟨invalid, hinvalid, h⟩ := bind_ok.mp h
  obtain ⟨status, -, h⟩ := bind_ok.mp h
  have hnil := Except.ok.inj h
  simp only [List.append_eq_nil_iff, errorIf_nil] at hnil
  obtain ⟨⟨-, rfl⟩, -⟩ := hnil
  have hne : record.get "review" ≠ .none := by
    rw [hreview]
    exact Val.noConfusion
  rw [reviewInvalid, Dict.getD_of_contains _ (Dict.contains_of_get hne), hreview, Val.asDict_toVal] at hinvalid
  obtain ⟨hboth, -⟩ := pyOr_ok_false.mp hinvalid
  simpa using hboth

/-- The replay was executed and the review accepted, and the stored reviewers are two that the review names. -/
structure ReviewedPass (i : EvidenceInput) (r : EvidenceRecord) : Prop where
  executed : (i.replay.get "executed").isTrue = true
  accepted : i.review.get "review_result" = .str "accepted"
  named : ∀ field ∈ ["primary_reviewer", "independent_reviewer"],
    i.Names field ∧ r.review.get field = .str (i.reviewer field) ∧ i.reviewer field ≠ ""
  different : r.review.get "primary_reviewer" ≠ r.review.get "independent_reviewer"

theorem reviewRecord_get {field : String} (hfield : field ∈ ["primary_reviewer", "independent_reviewer"]) :
    i.reviewRecord.get field = EvidenceInput.text i.review field "reviewer://not-supplied" := by
  simp only [List.mem_cons, List.not_mem_nil, or_false] at hfield
  rcases hfield with rfl | rfl
  · simp [EvidenceInput.reviewRecord, Dict.ofItems, Dict.get_insert]
  · simp [EvidenceInput.reviewRecord, Dict.ofItems, Dict.get_insert]

/-- Who is named is stored. -/
theorem reviewRecord_named {field : String} (hfield : field ∈ ["primary_reviewer", "independent_reviewer"])
    (hnames : i.Names field) : i.reviewRecord.get field = .str (i.reviewer field) := by
  rw [reviewRecord_get hfield, EvidenceInput.text, Dict.getD_of_contains _ (Dict.contains_of_get hnames), EvidenceInput.reviewer]

/-- A passed case has two reviewers that the review names exactly where it names both, as texts or with different texts. -/
theorem reviewedPass_iff (h : createEvidenceRecord i = .ok r) (hpass : r.status = "PASS") :
    ReviewedPass i r ↔ (i.Names "primary_reviewer" ∧ i.Names "independent_reviewer") ∧
      ((∃ s, i.review.get "primary_reviewer" = .str s) ∧ (∃ t, i.review.get "independent_reviewer" = .str t) ∨
        i.reviewer "primary_reviewer" ≠ i.reviewer "independent_reviewer") := by
  have hpromoted := createEvidenceRecord_promoted h hpass
  have hreview := createEvidenceRecord_review h
  have hprimary : "primary_reviewer" ∈ ["primary_reviewer", "independent_reviewer"] := by decide
  have hindependent : "independent_reviewer" ∈ ["primary_reviewer", "independent_reviewer"] := by decide
  constructor
  · intro hpair
    obtain ⟨hp, hp', -⟩ := hpair.named _ hprimary
    obtain ⟨hq, hq', -⟩ := hpair.named _ hindependent
    refine ⟨⟨hp, hq⟩, .inr ?_⟩
    intro hsame
    apply hpair.different
    rw [hp', hq', hsame]
  · intro hnamed
    obtain ⟨⟨hp, hq⟩, hdistinct⟩ := hnamed
    have hp' := reviewRecord_named hprimary hp
    have hq' := reviewRecord_named hindependent hq
    have hfields : r.structured.get "review" = r.review.toVal := r.structured_fields.2.2.2.2.2.2.2.2.2.2.1
    obtain ⟨htruthy, htruthy'⟩ := reviewers_of_valid (createEvidenceRecord_errors h) hfields
    rw [hreview, hp', Val.truthy, bne_iff_ne] at htruthy
    rw [hreview, hq', Val.truthy, bne_iff_ne] at htruthy'
    have hdifferent : i.reviewer "primary_reviewer" ≠ i.reviewer "independent_reviewer" := by
      rcases hdistinct with ⟨⟨s, hs⟩, t, ht⟩ | hne
      · -- two texts are compared as they are handed in
        have hseparated := hpromoted.separated
        rw [Dict.agrees, hs, ht, Val.str_eq_str, beq_eq_false_iff_ne] at hseparated
        rwa [EvidenceInput.reviewer, EvidenceInput.reviewer, hs, ht, Val.toStr_str, Val.toStr_str]
      · exact hne
    refine ⟨hpromoted.executed, hpromoted.accepted, ?_, ?_⟩
    · intro field hfield
      rw [hreview]
      simp only [List.mem_cons, List.not_mem_nil, or_false] at hfield
      rcases hfield with rfl | rfl
      · exact ⟨hp, hp', htruthy⟩
      · exact ⟨hq, hq', htruthy'⟩
    · rw [hreview, hp', hq', ne_eq, Val.str.injEq]
      exact hdifferent

/-- What is complete for a record that is not verified, and promoted, makes a record that passes. -/
theorem createEvidenceRecord_pass (h : EvidenceInput.Complete { i with status := "UNVERIFIED" }) (hpromoted : i.Promoted) :
    ∃ r, createEvidenceRecord { i with status := "PASS" } = .ok r ∧ r.status = "PASS" := by
  obtain ⟨lineage, hlineage, hlineageOk⟩ := h.lineage
  have hlineage : EvidenceInput.lineageRecord { i with status := "PASS" } = .ok lineage := hlineage
  have haccepted := differs_false.mpr hpromoted.accepted
  have hstatus : EVIDENCE_STATUSES.contains "PASS" = true := by decide
  unfold createEvidenceRecord
  simp only [List.contains_iff_mem.mpr h.check, h.input, hstatus, hpromoted.executed, haccepted, hpromoted.separated,
    hlineage, Bool.not_true, Bool.or_self, Bool.and_false, raiseIf, Bool.false_eq_true, ↓reduceIte, ok_bind]
  rw [EvidenceRecord.Valid.errors]
  · exact ⟨_, rfl, rfl⟩
  · exact ⟨isEvidenceId_sha256Json _, h.check, rfl, orDefault_ne (by simp), h.fixtureOk,
      EvidenceInput.trace_ne { i with status := "PASS" }, h.traceOk, EvidenceInput.oracleOk { i with status := "PASS" },
      h.actualOk, hlineageOk, h.replay, h.reviewers, h.result, h.reviewEvidence, List.contains_iff_mem.mp hstatus⟩

/-! ## An accepted review with and without a second reviewer -/

def exampleReview (second : List (String × Val)) : Dict :=
  .ofItems ([("primary_reviewer", .str "reviewer://a"), ("review_result", .str "accepted")] ++ second)

/-- An executed case with an accepted review. -/
def exampleInput (second : List (String × Val)) (status : String) : EvidenceInput where
  checkId := "R-FC-01"
  fixtureId := "fixture-1"
  inputFingerprint := .str "0000000000000000000000000000000000000000000000000000000000000000"
  expectedDispositions := []
  forbiddenDispositions := []
  actual := .empty
  actionTrace := []
  authorityRefs := []
  invariants := []
  lineage := .empty
  replay := .ofItems [("executed", .bool true)]
  review := exampleReview second
  status := status
  capturedAt := "2026-01-01T00:00:00Z"

/-- The ways to name a second reviewer, or none. -/
def exampleSeconds : List (List (String × Val)) := [[], [("independent_reviewer", .str "reviewer://b")]]

theorem exampleInput_complete {second : List (String × Val)} (hsecond : second ∈ exampleSeconds) :
    (exampleInput second "UNVERIFIED").Complete where
  check := show "R-FC-01" ∈ RF_CHECKS by decide
  input := show isHex 64 _ = true by decide
  fixtureId := show "fixture-1" ≠ "" by decide
  status := show "UNVERIFIED" ∈ EVIDENCE_STATUSES by decide
  status_ne := show "UNVERIFIED" ≠ "PASS" by decide
  steps := List.forall_mem_nil _
  disposition := show "UNKNOWN" ≠ "" by decide
  artifact := by
    show "artifact://gc-c1/" ++ _ ≠ ""
    simp
  output := isSha256_sha256Json _
  lineage := by
    refine ⟨_, rfl, ?_⟩
    have href : ((exampleInput second "UNVERIFIED").lineage.getD "authorization_lineage_ref"
        (.str ("lineage://unbound/" ++ EvidenceInput.lowerText "R-FC-01"))).toStr ≠ "" := by
      show "lineage://unbound/" ++ _ ≠ ""
      simp
    simp [Dict.ofItems, Dict.get_insert, EvidenceInput.text, Val.truthy, isList]
    exact href
  replay := by
    have henvironment : isSha256 (((exampleInput second "UNVERIFIED").replayRecord).get "environment_fingerprint") = true :=
      isSha256_sha256Json _
    rw [henvironment]
    rfl
  reviewers := by
    simp only [exampleSeconds, List.mem_cons, List.not_mem_nil, or_false] at hsecond
    rcases hsecond with rfl | rfl
    · rfl
    · rfl
  result := by
    refine ⟨"accepted", by simp, ?_⟩
    simp only [exampleSeconds, List.mem_cons, List.not_mem_nil, or_false] at hsecond
    rcases hsecond with rfl | rfl
    · rfl
    · rfl
  reviewEvidence := by
    simp only [exampleSeconds, List.mem_cons, List.not_mem_nil, or_false] at hsecond
    rcases hsecond with rfl | rfl
    · rfl
    · rfl

omit [Runtime] in
theorem exampleInput_promoted {second : List (String × Val)} (hsecond : second ∈ exampleSeconds) :
    (exampleInput second "UNVERIFIED").Promoted := by
  simp only [exampleSeconds, List.mem_cons, List.not_mem_nil, or_false] at hsecond
  rcases hsecond with rfl | rfl
  · exact ⟨rfl, rfl, by simp [Dict.agrees, exampleInput, exampleReview, Dict.ofItems, Dict.get_insert, Val.eq]⟩
  · exact ⟨rfl, rfl, by simp [Dict.agrees, exampleInput, exampleReview, Dict.ofItems, Dict.get_insert]⟩

theorem exampleInput_pass {second : List (String × Val)} (hsecond : second ∈ exampleSeconds) :
    ∃ r, createEvidenceRecord (exampleInput second "PASS") = .ok r ∧ r.status = "PASS" :=
  createEvidenceRecord_pass (exampleInput_complete hsecond) (exampleInput_promoted hsecond)

end

/-- A review that names one reviewer makes a record that passes. -/
theorem pass_without_second_reviewer :
    letI := asciiRuntime
    ∃ i r, createEvidenceRecord i = .ok r ∧ r.status = "PASS" ∧ ¬ReviewedPass i r ∧ i.review.contains "independent_reviewer" = false := by
  let := asciiRuntime
  obtain ⟨r, hr, hpass⟩ := exampleInput_pass (show [] ∈ exampleSeconds by simp [exampleSeconds])
  refine ⟨_, r, hr, hpass, ?_, by decide⟩
  intro h
  exact (h.named "independent_reviewer" (by decide)).1 rfl

theorem reviewedPass_iff_example :
    letI := asciiRuntime
    ∃ i r, createEvidenceRecord i = .ok r ∧ r.status = "PASS" ∧ ReviewedPass i r := by
  let := asciiRuntime
  have hsecond : [("independent_reviewer", Val.str "reviewer://b")] ∈ exampleSeconds := by simp [exampleSeconds]
  obtain ⟨r, hr, hpass⟩ := exampleInput_pass hsecond
  refine ⟨_, r, hr, hpass, (reviewedPass_iff hr hpass).mpr ⟨⟨?_, ?_⟩, .inl ⟨⟨_, rfl⟩, _, rfl⟩⟩⟩
  · exact Val.noConfusion
  · exact Val.noConfusion

end Pmiri
