import Pmiri.GateD.Trust

/-!
# Capability verdicts

When a fresh capability verdict is justified: the active observations for the
subject and the required keys, and what the evaluation asks of them. It asks
neither for the purpose they were made for, nor whether another observation
withdraws them.
-/

namespace Pmiri

open Py

section

variable [Runtime]

namespace GateDDecisionEngine

variable (g : GateDDecisionEngine) (i : CapabilityInput)

/-! ## Justified capabilities -/

omit [Runtime] in
/-- The observation is about the subject and the key. -/
def AboutCapability (key : String) (item : Dict) : Prop :=
  item.get "subject_binding" = .str i.subjectBinding ∧ item.get "capability_key" = .str key

omit [Runtime] in
/-- The observation is one that the verdict for the key rests on. -/
def Selected (key : String) (item : Dict) : Prop := AboutCapability i key item ∧ item.get "status" = .str "ACTIVE"

omit [Runtime] in
/-- The observation was made for the purpose. -/
def MadeFor (purpose : String) (item : Dict) : Prop :=
  ∃ s, (item.get "scope").asDict = some s ∧ s.get "purpose" = .str purpose

/-- The observation is for the requested purpose, of the current epoch, and in
its window. -/
structure Supports (item : Dict) : Prop where
  purpose : MadeFor i.purpose item
  epoch : item.get "invalidation_epoch" = .int g.invalidationEpoch
  window : InWindow item g.now

omit [Runtime] in
def DeclaresUnsupported (item : Dict) : Prop :=
  ∃ v, (item.get "observed_value").asDict = some v ∧ v.get "supported" = .bool false

/-- The observations justify a fresh verdict. -/
structure CapabilityJustified : Prop where
  supported : ∀ key ∈ i.requiredCapabilities, ∃ item ∈ i.observations, Selected i key item ∧ g.Supports i item
  selected : ∀ key ∈ i.requiredCapabilities, ∀ item ∈ i.observations, Selected i key item → g.Supports i item
  declared : ∀ key ∈ i.requiredCapabilities, ∀ item ∈ i.observations, Selected i key item → ¬ DeclaresUnsupported item
  standing : ∀ key ∈ i.requiredCapabilities, ∀ item ∈ i.observations, AboutCapability i key item → ¬ Withdrawn item

omit [Runtime] in
/-- What the evaluation does not ask of the observations: it selects the
active ones whatever purpose they were made for, and leaves out the others
before it looks at what they say. -/
structure CapabilityUnchecked : Prop where
  purpose : ∀ key ∈ i.requiredCapabilities, ∀ item ∈ i.observations, Selected i key item → MadeFor i.purpose item
  standing : ∀ key ∈ i.requiredCapabilities, ∀ item ∈ i.observations, AboutCapability i key item → ¬ Withdrawn item

/-! ## The evaluation -/

omit [Runtime] in
theorem mem_dictFromKeys {l : List String} {key : String} : key ∈ dictFromKeys l ↔ key ∈ l := by
  refine ⟨Keyed.mem_of_mem_firsts id, fun h => ?_⟩
  obtain ⟨first, hfirst, hkey⟩ := Keyed.exists_mem_firsts id h
  obtain rfl : first = key := hkey
  exact hfirst

omit [Runtime] in
/-- The candidates of an evaluation. -/
def candidates : List Dict :=
  i.observations.filter fun item =>
    !differs item "subject_binding" i.subjectBinding &&
      (dictFromKeys i.requiredCapabilities).any (fun key => (item.get "capability_key").eq (.str key)) &&
      !differs item "status" "ACTIVE"

omit [Runtime] in
theorem mem_candidates {item : Dict} :
    item ∈ candidates i ↔ item ∈ i.observations ∧ ∃ key ∈ i.requiredCapabilities, Selected i key item := by
  simp only [candidates, List.mem_filter, Bool.and_eq_true, Bool.not_eq_true', differs_false, List.any_eq_true, mem_dictFromKeys,
    Val.eq_str, Selected, AboutCapability]
  constructor
  · rintro ⟨hmem, ⟨hsubject, key, hkey, hcapability⟩, hactive⟩
    exact ⟨hmem, key, hkey, ⟨hsubject, hcapability⟩, hactive⟩
  · rintro ⟨hmem, key, hkey, ⟨hsubject, hcapability⟩, hactive⟩
    exact ⟨hmem, ⟨hsubject, key, hkey, hcapability⟩, hactive⟩

/-- What the evaluation has tested where it allows. -/
theorem capabilityVerdict_allow {v : String × String × String} (h : g.capabilityVerdict i = .ok v) (ha : v.2.1 = "ALLOW") :
    (∀ key ∈ i.requiredCapabilities, ∃ item ∈ candidates i, item.get "capability_key" = .str key) ∧
      (∀ item ∈ candidates i, (item.get "invalidation_epoch").eq (.int g.invalidationEpoch) = true ∧ InWindow item g.now) ∧
      ∀ item ∈ candidates i, ¬ DeclaresUnsupported item := by
  obtain ⟨stale, hstale, h⟩ := bind_ok.mp h
  obtain ⟨htotal, rfl⟩ := filterM_ok.mp hstale
  split at h
  · cases h; simp at ha
  rename_i hmissing
  split at h
  · cases h; simp at ha
  rename_i hfresh
  dsimp only at h
  split at h
  · cases h; simp at ha
  rename_i hunsupported
  simp only [Bool.not_eq_true', Bool.not_eq_false, List.isEmpty_iff, List.filter_eq_nil_iff] at hmissing hfresh hunsupported
  refine ⟨fun key hkey => ?_, fun item hitem => ?_, fun item hitem hd => ?_⟩
  · have hany := hmissing key (mem_dictFromKeys.mpr hkey)
    simp only [Bool.not_eq_true', List.any_eq_true, differs_false] at hany
    exact hany
  · obtain ⟨b, hb⟩ := htotal item hitem
    have hfalse : b = false := by simpa [hb] using hfresh item hitem
    rw [hfalse, pyOr_ok_false, ok_bool, Bool.not_eq_false', pyNot_ok, Bool.not_false] at hb
    exact ⟨hb.1, freshWindow_ok_true.mp hb.2⟩
  · obtain ⟨value, hvalue, hsupported⟩ := hd
    have hnot := hunsupported item hitem
    rw [hvalue, Option.map_some, Option.getD_some, hsupported] at hnot
    exact hnot rfl

omit [Runtime] in
/-- The epoch of a valid observation is a number. -/
theorem epoch_of_valid [Runtime] {item : Dict} {n : Nat} (h : validateCapabilityObservation item = .ok ())
    (he : (item.get "invalidation_epoch").eq (.int n) = true) : item.get "invalidation_epoch" = .int n := by
  simp only [validateCapabilityObservation, seq_ok, raiseIf_ok, Bool.not_eq_false'] at h
  obtain ⟨-, -, -, -, -, -, -, -, -, hnatural, -⟩ := h
  cases hv : item.get "invalidation_epoch" with
  | int k =>
    rw [hv, Val.int_eq_int, beq_iff_eq] at he
    rw [he]
  | _ => simp [hv, Val.isNatural] at hnatural

/-- A fresh capability verdict on valid observations is justified exactly if
the evaluation's selection was made for the purpose, and nothing withdraws it. -/
theorem capabilityJustified_iff {r : Dict} (h : g.evaluateCapability i = .ok r)
    (hallow : r.get "capability_state" = .str "FRESH" ∧ r.get "action_result" = .str "ALLOW") :
    g.CapabilityJustified i ↔ CapabilityUnchecked i := by
  obtain ⟨hvalid, v, hv, -, rfl⟩ := g.evaluateCapability_ok.mp h
  have haction : v.2.1 = "ALLOW" := by
    have hr : (g.capabilityRecord i v).get "action_result" = .str v.2.1 := by
      simp [capabilityRecord, get_finalize, Dict.get_insert, Dict.ofItems]
    exact Val.str.inj (hr.symm.trans hallow.2)
  obtain ⟨hkeys, hselected, hdeclared⟩ := g.capabilityVerdict_allow i hv haction
  constructor
  · intro hj
    exact ⟨fun key hkey item hitem hs => (hj.selected key hkey item hitem hs).purpose, hj.standing⟩
  · intro hu
    have hsupports : ∀ key ∈ i.requiredCapabilities, ∀ item ∈ i.observations, Selected i key item → g.Supports i item := by
      intro key hkey item hitem hs
      obtain ⟨hepoch, hwindow⟩ := hselected item ((mem_candidates i).mpr ⟨hitem, key, hkey, hs⟩)
      exact ⟨hu.purpose key hkey item hitem hs, epoch_of_valid (hvalid item hitem) hepoch, hwindow⟩
    refine ⟨fun key hkey => ?_, hsupports, fun key hkey item hitem hs => ?_, hu.standing⟩
    · obtain ⟨item, hitem, hcapability⟩ := hkeys key hkey
      obtain ⟨hmem, key', -, ⟨hsubject, hkey'⟩, hactive⟩ := (mem_candidates i).mp hitem
      have hs : Selected i key item := ⟨⟨hsubject, hcapability⟩, hactive⟩
      exact ⟨item, hmem, hs, hsupports key hkey item hmem hs⟩
    · exact hdeclared item ((mem_candidates i).mpr ⟨hitem, key, hkey, hs⟩)

end GateDDecisionEngine

/-! ## Another purpose -/

theorem exampleCapability_fresh (epoch : Nat) (purpose : String) :
    ∃ c, (exampleEngine epoch).evaluateCapability (exampleCapability epoch purpose) = .ok c ∧
      c.get "capability_state" = .str "FRESH" ∧ c.get "action_result" = .str "ALLOW" := by
  obtain ⟨c, hc, -, hallow, -⟩ := exampleCapability_evaluated epoch purpose
  obtain ⟨-, v, hv, -, rfl⟩ := (exampleEngine epoch).evaluateCapability_ok.mp hc
  obtain rfl : ("FRESH", "ALLOW", "NONE") = v := Except.ok.inj ((exampleCapability_verdict epoch purpose).symm.trans hv)
  refine ⟨_, hc, ?_, hallow⟩
  simp [GateDDecisionEngine.capabilityRecord, get_finalize, Dict.get_insert, Dict.ofItems]

/-- The observation of the example was made for provider calls. -/
theorem madeFor_example {epoch : Nat} {purpose : String}
    (h : GateDDecisionEngine.MadeFor purpose (exampleObservation epoch)) : purpose = "provider_call" := by
  obtain ⟨s, hs, hpurpose⟩ := h
  obtain ⟨-, -, -, -, -, -, -, hscope, -⟩ := exampleObservation_fields epoch
  rw [hscope, Val.asDict_toVal, Option.some.injEq] at hs
  rw [← hs, show exampleScope.get "purpose" = .str "provider_call" by
    simp [exampleScope, Dict.get_insert, Dict.ofItems]] at hpurpose
  exact (Val.str.inj hpurpose).symm

theorem selected_example (epoch : Nat) (purpose : String) :
    GateDDecisionEngine.Selected (exampleCapability epoch purpose) "structured_output" (exampleObservation epoch) := by
  obtain ⟨-, -, -, -, hsubject, hkey, -, -, -, -, -, -, -, -, hstatus⟩ := exampleObservation_fields epoch
  exact ⟨⟨hsubject, hkey⟩, hstatus⟩

end

/-- A fresh verdict for retrieval, on an observation for provider calls. -/
theorem fresh_for_another_purpose :
    letI := asciiRuntime
    ∃ g : GateDDecisionEngine, ∃ i r, g.evaluateCapability i = .ok r ∧ r.get "capability_state" = .str "FRESH" ∧
      r.get "action_result" = .str "ALLOW" ∧ ¬ g.CapabilityJustified i := by
  let := asciiRuntime
  obtain ⟨r, hr, hfresh, hallow⟩ := exampleCapability_fresh 0 "retrieval"
  refine ⟨exampleEngine 0, exampleCapability 0 "retrieval", r, hr, hfresh, hallow, fun hj => ?_⟩
  have hs := hj.selected "structured_output" (List.mem_singleton_self _) _ (List.mem_singleton_self _) (selected_example 0 "retrieval")
  exact absurd (madeFor_example hs.purpose) (by decide)

theorem capabilityJustified_iff_example :
    letI := asciiRuntime
    ∃ r, (exampleEngine 0).evaluateCapability (exampleCapability 0 "provider_call") = .ok r ∧
      (r.get "capability_state" = .str "FRESH" ∧ r.get "action_result" = .str "ALLOW") ∧
      ((exampleEngine 0).CapabilityJustified (exampleCapability 0 "provider_call") ↔
        GateDDecisionEngine.CapabilityUnchecked (exampleCapability 0 "provider_call")) := by
  let := asciiRuntime
  obtain ⟨r, hr, hfresh, hallow⟩ := exampleCapability_fresh 0 "provider_call"
  exact ⟨r, hr, ⟨hfresh, hallow⟩, GateDDecisionEngine.capabilityJustified_iff (exampleEngine 0)
    (exampleCapability 0 "provider_call") hr ⟨hfresh, hallow⟩⟩

end Pmiri
