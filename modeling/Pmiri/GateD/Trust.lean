import Pmiri.GateD.ProviderCall
import Pmiri.Python.Comprehension
import Pmiri.Python.Sha256

/-!
# Trust verdicts

When trust is decided for a request: the assertions for its subject, those of
them that are for what is asked, and the one that is current. An assertion
that cannot be tested makes the decision raise, if the evaluation gets to it.
-/

namespace Pmiri

open Py

section

variable [Runtime]

namespace GateDDecisionEngine

variable (g : GateDDecisionEngine) (i : TrustInput)

/-! ## Justified trust -/

/-- The assertion is about the subject of the request. -/
def aboutSubject (item : Dict) : Bool := (item.get "subject").eq i.subject.toVal

/-- `s in v` -/
def Contains (v : Val) (s : String) : Prop := v.containsStr s = .ok true

/-- The assertion is for the purpose, the material, the zone and the feature. -/
structure ForRequest (item : Dict) : Prop where
  purpose : item.get "purpose" = .str i.purpose
  material : Contains (item.getD "allowed_material_classes" (.list [])) i.materialClass
  zone : Contains (item.getD "allowed_zones" (.list [])) i.zone
  feature : ∀ f ∈ i.feature, (item.get "allowed_features").truthy = true → Contains (item.getD "allowed_features" (.list [])) f

def withdrawnStatuses : List String := ["REVOKED", "CONTRADICTED", "INVALID"]

/-- The assertion has been withdrawn. -/
def Withdrawn (item : Dict) : Prop := ∃ x ∈ withdrawnStatuses, item.get "status" = .str x

/-- The time is in the window of the record. -/
def InWindow (record : Dict) (now : String) : Prop :=
  ∃ o u a t b, record.get? "observed_at" = some o ∧ record.get? "valid_until" = some u ∧ parseTime o.toStr = .ok a ∧
    parseTime now = .ok t ∧ parseTime u.toStr = .ok b ∧ a ≤ t ∧ t ≤ b

/-- The assertion is active, and the engine's time is in its window. -/
def Current (item : Dict) : Prop := item.get "status" = .str "ACTIVE" ∧ InWindow item g.now

/-- The assertion carries no authority fingerprint, or the engine's. -/
def OwnAuthority (item : Dict) : Prop :=
  item.get "authority_manifest_fingerprint" = .none ∨
    item.get "authority_manifest_fingerprint" = .str g.authorityManifestFingerprint

/-- The assertions justify trust in the request. -/
structure TrustJustified : Prop where
  standing : ∀ item ∈ i.assertions, aboutSubject i item = true → ¬ Withdrawn item
  current : ∃ item ∈ i.assertions, aboutSubject i item = true ∧ ForRequest i item ∧ g.Current item
  own : ∀ item ∈ i.assertions, aboutSubject i item = true → ForRequest i item → g.OwnAuthority item

/-! ## The tests -/

omit [Runtime] in
theorem inScope_ok_true {item : Dict} : inScope i item = .ok true ↔ ForRequest i item := by
  rw [inScope, pyAnd_ok_true, pyAnd_ok_true, pyAnd_ok_true, ok_bool, Bool.not_eq_true', differs_false]
  constructor
  · rintro ⟨hpurpose, hmaterial, hzone, hfeature⟩
    refine ⟨hpurpose, hmaterial, hzone, fun f hf ht => ?_⟩
    rw [Option.mem_def.mp hf] at hfeature
    simpa [ht, Contains] using hfeature
  · intro h
    refine ⟨h.purpose, h.material, h.zone, ?_⟩
    split
    · rfl
    · rename_i f hf
      split
      · rfl
      · rename_i ht
        exact h.feature f hf (by simpa using ht)

theorem freshWindow_ok_true {record : Dict} {now : String} : freshWindow record now = .ok true ↔ InWindow record now := by
  rw [freshWindow, falseOn_true]
  constructor
  · intro h
    obtain ⟨o, ho, h⟩ := bind_ok.mp h
    obtain ⟨a, ha, h⟩ := bind_ok.mp h
    obtain ⟨t, ht, h⟩ := bind_ok.mp h
    split at h
    · obtain ⟨u, hu, h⟩ := bind_ok.mp h
      obtain ⟨b, hb, h⟩ := bind_ok.mp h
      exact ⟨o, u, a, t, b, Dict.item_ok.mp ho, Dict.item_ok.mp hu, ha, ht, hb, ‹_›, of_decide_eq_true (Except.ok.inj h)⟩
    · cases h
  · rintro ⟨o, u, a, t, b, ho, hu, ha, ht, hb, hat, htb⟩
    refine bind_ok.mpr ⟨o, Dict.item_ok.mpr ho, bind_ok.mpr ⟨a, ha, bind_ok.mpr ⟨t, ht, ?_⟩⟩⟩
    rw [if_pos hat]
    refine bind_ok.mpr ⟨u, Dict.item_ok.mpr hu, bind_ok.mpr ⟨b, hb, ?_⟩⟩
    rw [decide_eq_true htb]
    rfl

omit [Runtime] in
theorem isIn_withdrawn {item : Dict} : holds ((item.get "status").isIn withdrawnStatuses) = true ↔ Withdrawn item := by
  rw [holds_iff, Val.isIn_true]
  rfl

theorem current_test {item : Dict} :
    pyAnd (.ok !differs item "status" "ACTIVE") (freshWindow item g.now) = .ok true ↔ g.Current item := by
  rw [pyAnd_ok_true, ok_bool, Bool.not_eq_true', differs_false, freshWindow_ok_true]
  rfl

omit [Runtime] in
theorem none_eq {v : Val} : Val.none.eq v = true ↔ v = .none := by
  cases v <;> simp [Val.eq]

omit [Runtime] in
/-- The authority of an assertion is foreign if it is neither absent nor the engine's. -/
theorem foreign_test {item : Dict} :
    pyNot ((item.get "authority_manifest_fingerprint").inSet [.none, .str g.authorityManifestFingerprint]) = .ok false ↔
      g.OwnAuthority item := by
  rw [pyNot_ok, Bool.not_false]
  constructor
  · intro h
    obtain ⟨w, hw, heq⟩ := Val.inSet_ok_true h
    simp only [List.mem_cons, List.not_mem_nil, or_false] at hw
    rcases hw with rfl | rfl
    · exact .inl (none_eq.mp heq)
    · exact .inr (Val.str_eq.mp heq)
  · rintro (h | h) <;> simp [h, Val.inSet, Val.hashable]

/-! ## Testable assertions -/

/-- The evaluation meets nothing that it cannot test, in whatever order the
assertions come: no field that cannot be searched or compared, and no time
stamp that overflows. -/
structure TrustTestable : Prop where
  scope : ∀ item ∈ i.assertions, aboutSubject i item = true → ∃ b, inScope i item = .ok b
  status : ∀ item ∈ i.assertions, aboutSubject i item = true → ∃ b, (item.get "status").isIn withdrawnStatuses = .ok b
  window : (∀ item ∈ i.assertions, aboutSubject i item = true → ¬ Withdrawn item) →
    ∀ item ∈ i.assertions, aboutSubject i item = true → ForRequest i item → item.get "status" = .str "ACTIVE" →
      ∃ b, freshWindow item g.now = .ok b
  authority : (∀ item ∈ i.assertions, aboutSubject i item = true → ¬ Withdrawn item) →
    (∃ item ∈ i.assertions, aboutSubject i item = true ∧ ForRequest i item ∧ g.Current item) →
    ∀ item ∈ i.assertions, aboutSubject i item = true → ForRequest i item →
      (item.get "authority_manifest_fingerprint").hashable = true

/-! ## The verdict -/

/-- What the statements of the evaluation look at. -/
def subjectAssertions : List Dict := i.assertions.filter (aboutSubject i)

def scopedAssertions : List Dict := (subjectAssertions i).filter fun item => holds (inScope i item)

/-- The verdict, where every test returns. -/
def trustView : String × String × String :=
  if (subjectAssertions i).any fun item => holds ((item.get "status").isIn withdrawnStatuses) then
    ("REVOKED", "DENY", "AUTHORITY_CONFLICT")
  else if (subjectAssertions i).isEmpty then ("UNKNOWN", "DENY", "AUTHORITY_MISSING")
  else if (scopedAssertions i).isEmpty then ("UNTRUSTED", "DENY", "SCOPE_MISMATCH")
  else if !(scopedAssertions i).any fun item => holds (pyAnd (.ok !differs item "status" "ACTIVE") (freshWindow item g.now)) then
    ("EXPIRED", "DENY", "POLICY_STALE")
  else if (scopedAssertions i).any fun item => holds
      (pyNot ((item.get "authority_manifest_fingerprint").inSet [.none, .str g.authorityManifestFingerprint])) then
    ("INVALID", "DENY", "MATERIAL_FINGERPRINT_MISMATCH")
  else ("TRUSTED_FOR_BOUND_PURPOSE", "ALLOW", "NONE")

omit [Runtime] in
theorem not_isEmpty_filter {xs : List Dict} {q : Dict → Bool} : (!(xs.filter q).isEmpty) = xs.any q := by
  induction xs with
  | nil => rfl
  | cons x xs ih =>
    rw [List.filter_cons, List.any_cons]
    cases q x
    · simpa using ih
    · simp

/-- What the evaluation has tested where it returns. -/
theorem trustVerdict_inv {v : String × String × String} (h : g.trustVerdict i = .ok v) :
    v = g.trustView i ∧ Total (inScope i) (subjectAssertions i) ∧
      Total (fun item => (item.get "status").isIn withdrawnStatuses) (subjectAssertions i) ∧
      (((subjectAssertions i).any fun item => holds ((item.get "status").isIn withdrawnStatuses)) = false →
        scopedAssertions i ≠ [] →
        ∃ b, (scopedAssertions i).anyM (fun item => pyAnd (.ok !differs item "status" "ACTIVE") (freshWindow item g.now)) = .ok b ∧
          (b = true → ∃ c, (scopedAssertions i).anyM (fun item => pyNot
            ((item.get "authority_manifest_fingerprint").inSet [.none, .str g.authorityManifestFingerprint])) = .ok c)) := by
  obtain ⟨ys, hys, h⟩ := bind_ok.mp h
  obtain ⟨hscope, hs⟩ := filterM_ok.mp hys
  obtain rfl : ys = scopedAssertions i := hs
  obtain ⟨zs, hzs, h⟩ := bind_ok.mp h
  obtain ⟨hstatus, hr⟩ := filterM_ok.mp hzs
  obtain rfl : zs = (subjectAssertions i).filter fun item => holds ((item.get "status").isIn withdrawnStatuses) := hr
  rw [not_isEmpty_filter] at h
  rw [trustView]
  split at h
  · rename_i hw
    rw [if_pos hw]
    exact ⟨(Except.ok.inj h).symm, hscope, hstatus, fun hn => by rw [hw] at hn; cases hn⟩
  rename_i hw
  rw [if_neg hw]
  split at h
  · have he : (subjectAssertions i).isEmpty = true := ‹_›
    rw [if_pos he]
    refine ⟨(Except.ok.inj h).symm, hscope, hstatus, fun _ hn => absurd ?_ hn⟩
    rw [scopedAssertions, List.isEmpty_iff.mp he, List.filter_nil]
  have he : ¬ (subjectAssertions i).isEmpty = true := ‹_›
  rw [if_neg he]
  split at h
  · rename_i hn
    rw [if_pos hn]
    exact ⟨(Except.ok.inj h).symm, hscope, hstatus, fun _ hne => absurd (List.isEmpty_iff.mp hn) hne⟩
  rename_i hn
  rw [if_neg hn]
  obtain ⟨current, hcurrent, h⟩ := bind_ok.mp h
  obtain rfl := anyM_eq hcurrent
  split at h
  · rename_i hc
    rw [if_pos hc]
    exact ⟨(Except.ok.inj h).symm, hscope, hstatus, fun _ _ => ⟨_, hcurrent, fun ht => by simp [ht] at hc⟩⟩
  rename_i hc
  rw [if_neg hc]
  obtain ⟨foreign, hforeign, h⟩ := bind_ok.mp h
  obtain rfl := anyM_eq hforeign
  split at h
  all_goals
    rename_i hf
    first
      | rw [if_pos hf]
      | rw [if_neg hf]
    exact ⟨(Except.ok.inj h).symm, hscope, hstatus, fun _ _ => ⟨_, hcurrent, fun _ => ⟨_, hforeign⟩⟩⟩

omit [Runtime] in
theorem mem_subjectAssertions {item : Dict} :
    item ∈ subjectAssertions i ↔ item ∈ i.assertions ∧ aboutSubject i item = true := List.mem_filter

omit [Runtime] in
theorem mem_scopedAssertions {item : Dict} :
    item ∈ scopedAssertions i ↔ item ∈ i.assertions ∧ aboutSubject i item = true ∧ ForRequest i item := by
  rw [scopedAssertions, List.mem_filter, mem_subjectAssertions, holds_iff, inScope_ok_true, and_assoc]

omit [Runtime] in
/-- None of the assertions about the subject is withdrawn. -/
theorem any_withdrawn : ((subjectAssertions i).any fun item => holds ((item.get "status").isIn withdrawnStatuses)) = false ↔
    ∀ item ∈ i.assertions, aboutSubject i item = true → ¬ Withdrawn item := by
  rw [List.any_eq_false]
  refine forall_congr' fun item => ?_
  rw [mem_subjectAssertions, isIn_withdrawn, and_imp]

theorem any_current : ((scopedAssertions i).any fun item =>
    holds (pyAnd (.ok !differs item "status" "ACTIVE") (freshWindow item g.now))) = true ↔
      ∃ item ∈ i.assertions, aboutSubject i item = true ∧ ForRequest i item ∧ g.Current item := by
  rw [List.any_eq_true]
  refine exists_congr fun item => ?_
  rw [mem_scopedAssertions, holds_iff, current_test, and_assoc, and_assoc]

/-- The tests of the windows return on testable assertions. -/
theorem TrustTestable.total_current (h : g.TrustTestable i)
    (hw : ∀ item ∈ i.assertions, aboutSubject i item = true → ¬ Withdrawn item) :
    Total (fun item => pyAnd (.ok !differs item "status" "ACTIVE") (freshWindow item g.now)) (scopedAssertions i) := by
  intro item hitem
  obtain ⟨hmem, habout, hrequest⟩ := (mem_scopedAssertions i).mp hitem
  show ∃ b, pyAnd (.ok !differs item "status" "ACTIVE") (freshWindow item g.now) = .ok b
  cases hd : differs item "status" "ACTIVE" with
  | true => exact ⟨false, rfl⟩
  | false => exact h.window hw item hmem habout hrequest (differs_false.mp hd)

theorem TrustTestable.total_foreign (h : g.TrustTestable i)
    (hw : ∀ item ∈ i.assertions, aboutSubject i item = true → ¬ Withdrawn item)
    (hc : ∃ item ∈ i.assertions, aboutSubject i item = true ∧ ForRequest i item ∧ g.Current item) :
    Total (fun item => pyNot ((item.get "authority_manifest_fingerprint").inSet [.none, .str g.authorityManifestFingerprint]))
      (scopedAssertions i) := by
  intro item hitem
  obtain ⟨hmem, habout, hrequest⟩ := (mem_scopedAssertions i).mp hitem
  simp only [Val.inSet, h.authority hw hc item hmem habout hrequest]
  exact ⟨_, rfl⟩

/-- The evaluation of testable assertions returns. -/
theorem trustVerdict_of_testable (h : g.TrustTestable i) : g.trustVerdict i = .ok (g.trustView i) := by
  have hscope : Total (inScope i) (subjectAssertions i) := fun item hitem =>
    h.scope item ((mem_subjectAssertions i).mp hitem).1 ((mem_subjectAssertions i).mp hitem).2
  have hstatus : Total (fun item => (item.get "status").isIn withdrawnStatuses) (subjectAssertions i) := fun item hitem =>
    h.status item ((mem_subjectAssertions i).mp hitem).1 ((mem_subjectAssertions i).mp hitem).2
  refine bind_ok.mpr ⟨scopedAssertions i, filterM_ok.mpr ⟨hscope, rfl⟩, bind_ok.mpr ⟨_, filterM_ok.mpr ⟨hstatus, rfl⟩, ?_⟩⟩
  rw [not_isEmpty_filter, trustView]
  by_cases hw : ((subjectAssertions i).any fun item => holds ((item.get "status").isIn withdrawnStatuses)) = true
  · exact (if_pos hw).trans (congrArg Except.ok (if_pos hw).symm)
  have hstanding := (any_withdrawn i).mp (Bool.not_eq_true _ ▸ hw)
  refine (if_neg hw).trans ?_
  rw [if_neg hw]
  by_cases he : (subjectAssertions i).isEmpty = true
  · exact (if_pos he).trans (congrArg Except.ok (if_pos he).symm)
  refine (if_neg he).trans ?_
  rw [if_neg he]
  by_cases hn : (scopedAssertions i).isEmpty = true
  · rw [if_pos hn, if_pos hn]
    rfl
  rw [if_neg hn, if_neg hn, anyM_of_total (h.total_current g i hstanding), ok_bind]
  cases hc : (scopedAssertions i).any fun item =>
      holds (pyAnd (.ok !differs item "status" "ACTIVE") (freshWindow item g.now)) with
  | false => rfl
  | true =>
    rw [if_neg (by simp), if_neg (by simp), anyM_of_total (h.total_foreign g i hstanding ((g.any_current i).mp hc)), ok_bind]
    split <;> rfl

omit [Runtime] in
/-- Assertions whose authority can be tested have none that is foreign. -/
theorem any_foreign (h : Total (fun item => pyNot
    ((item.get "authority_manifest_fingerprint").inSet [.none, .str g.authorityManifestFingerprint])) (scopedAssertions i)) :
    ((scopedAssertions i).any fun item => holds
      (pyNot ((item.get "authority_manifest_fingerprint").inSet [.none, .str g.authorityManifestFingerprint]))) = false ↔
      ∀ item ∈ i.assertions, aboutSubject i item = true → ForRequest i item → g.OwnAuthority item := by
  rw [List.any_eq_false]
  refine forall_congr' fun item => ?_
  rw [mem_scopedAssertions, and_imp, and_imp]
  refine forall_congr' fun hmem => forall_congr' fun habout => forall_congr' fun hrequest => ?_
  obtain ⟨b, hb⟩ := h item ((mem_scopedAssertions i).mpr ⟨hmem, habout, hrequest⟩)
  beta_reduce at hb
  rw [← foreign_test, hb, holds_ok, Bool.not_eq_true, ok_bool]

/-- Testable assertions are trusted exactly if they justify it. -/
theorem trustView_allow (h : g.TrustTestable i) : (g.trustView i).2.1 = "ALLOW" ↔ g.TrustJustified i := by
  rw [trustView]
  constructor
  · intro hv
    split_ifs at hv with hw he hn hc hf
    all_goals try exact absurd hv (by decide)
    have hstanding := (any_withdrawn i).mp (Bool.not_eq_true _ ▸ hw)
    have hcurrent := (g.any_current i).mp (by simpa using hc)
    exact ⟨hstanding, hcurrent, (g.any_foreign i (h.total_foreign g i hstanding hcurrent)).mp (Bool.not_eq_true _ ▸ hf)⟩
  · rintro ⟨hstanding, hcurrent, hown⟩
    obtain ⟨item, hmem, habout, hrequest, -⟩ := id hcurrent
    have hscoped := (mem_scopedAssertions i).mpr ⟨hmem, habout, hrequest⟩
    have hsubject := (mem_subjectAssertions i).mpr ⟨hmem, habout⟩
    rw [if_neg (by rw [(any_withdrawn i).mpr hstanding]; simp), if_neg (by simpa using List.ne_nil_of_mem hsubject),
      if_neg (by simpa using List.ne_nil_of_mem hscoped), if_neg (by rw [(g.any_current i).mpr hcurrent]; simp),
      if_neg (by rw [(g.any_foreign i (h.total_foreign g i hstanding hcurrent)).mpr hown]; simp)]

/-! ## Other orders -/

/-- The request with other assertions. -/
def TrustInput.withAssertions (l : List Dict) : TrustInput := { i with assertions := l }

omit [Runtime] in
theorem forRequest_withAssertions {l : List Dict} {item : Dict} : ForRequest (i.withAssertions l) item ↔ ForRequest i item := by
  rw [← inScope_ok_true, ← inScope_ok_true]
  rfl

/-- The verdict does not depend on the order of the assertions. -/
theorem trustView_perm {l : List Dict} (h : l.Perm i.assertions) : g.trustView (i.withAssertions l) = g.trustView i := by
  have hsubject : (subjectAssertions (i.withAssertions l)).Perm (subjectAssertions i) := h.filter _
  have hscoped : (scopedAssertions (i.withAssertions l)).Perm (scopedAssertions i) := hsubject.filter _
  simp only [trustView, hsubject.any_eq, hscoped.any_eq, hsubject.isEmpty_eq, hscoped.isEmpty_eq]

omit [Runtime] in
/-- Conditions on all assertions do not depend on their order. -/
theorem forall_perm {l m : List Dict} {p : Dict → Prop} (h : l.Perm m) : (∀ item ∈ l, p item) ↔ ∀ item ∈ m, p item :=
  forall_congr' fun _ => imp_congr_left h.mem_iff

theorem TrustTestable.perm {l : List Dict} (ht : g.TrustTestable i) (h : l.Perm i.assertions) :
    g.TrustTestable (i.withAssertions l) := by
  refine ⟨(forall_perm h).mpr ht.scope, (forall_perm h).mpr ht.status, fun hw item hitem habout hrequest => ?_,
    fun hw hc item hitem habout hrequest => ?_⟩
  · exact ht.window ((forall_perm h).mp hw) item (h.mem_iff.mp hitem) habout ((forRequest_withAssertions i).mp hrequest)
  · obtain ⟨c, hcmem, hcabout, hcrequest, hcurrent⟩ := hc
    exact ht.authority ((forall_perm h).mp hw)
      ⟨c, h.mem_iff.mp hcmem, hcabout, (forRequest_withAssertions i).mp hcrequest, hcurrent⟩ item (h.mem_iff.mp hitem) habout
      ((forRequest_withAssertions i).mp hrequest)

/-- A withdrawn assertion leaves testable ones testable: what is not tested
any more need not return. -/
theorem TrustTestable.cons_withdrawn {item : Dict} (ht : g.TrustTestable i) (habout : aboutSubject i item = true)
    (hw : Withdrawn item) (hs : ∃ b, inScope i item = .ok b) : g.TrustTestable (i.withAssertions (item :: i.assertions)) := by
  have hnone : ¬ ∀ a ∈ item :: i.assertions, aboutSubject i a = true → ¬ Withdrawn a :=
    fun h => h item List.mem_cons_self habout hw
  refine ⟨List.forall_mem_cons.mpr ⟨fun _ => hs, ht.scope⟩, List.forall_mem_cons.mpr ⟨fun _ => ?_, ht.status⟩,
    fun h => absurd h hnone, fun h => absurd h hnone⟩
  exact ⟨true, holds_iff.mp (isIn_withdrawn.mpr hw)⟩

/-- Assertions that can be evaluated in every order are testable: an order
that begins with the one in question tests it. -/
theorem testable_of_decided (h : ∀ l, l.Perm i.assertions → ∃ v, g.trustVerdict (i.withAssertions l) = .ok v) :
    g.TrustTestable i := by
  obtain ⟨v, hv⟩ := h i.assertions (.refl _)
  obtain ⟨-, hscope, hstatus, -⟩ := g.trustVerdict_inv _ hv
  -- the tests of the scoped assertions, from an order that begins with `item`
  have hfirst : ∀ item ∈ i.assertions, aboutSubject i item = true → ForRequest i item →
      (∀ item ∈ i.assertions, aboutSubject i item = true → ¬ Withdrawn item) →
      ∃ rest : List Dict, ∃ b, (item :: rest).Perm (scopedAssertions i) ∧ (item :: rest).anyM (fun item =>
          pyAnd (.ok !differs item "status" "ACTIVE") (freshWindow item g.now)) = .ok b ∧
        (b = true → ∃ c, (item :: rest).anyM (fun item => pyNot
          ((item.get "authority_manifest_fingerprint").inSet [.none, .str g.authorityManifestFingerprint])) = .ok c) := by
    intro item hitem habout hrequest hstanding
    obtain ⟨before, after, heq⟩ := List.append_of_mem hitem
    have hperm : (item :: (before ++ after)).Perm i.assertions := heq ▸ List.perm_middle.symm
    obtain ⟨v, hv⟩ := h _ hperm
    obtain ⟨-, -, -, htests⟩ := g.trustVerdict_inv _ hv
    have hscoped : scopedAssertions (i.withAssertions (item :: (before ++ after))) =
        item :: scopedAssertions (i.withAssertions (before ++ after)) := by
      have hsubject : subjectAssertions (i.withAssertions (item :: (before ++ after))) =
          item :: subjectAssertions (i.withAssertions (before ++ after)) := List.filter_cons_of_pos habout
      rw [scopedAssertions, hsubject]
      exact List.filter_cons_of_pos (holds_iff.mpr ((inScope_ok_true i).mpr hrequest))
    obtain ⟨b, hb, hc⟩ := htests ((any_withdrawn _).mpr ((forall_perm hperm).mpr hstanding)) (by rw [hscoped]; simp)
    rw [hscoped] at hb hc
    refine ⟨_, b, ?_, hb, hc⟩
    rw [← hscoped]
    exact (hperm.filter _).filter _
  refine ⟨fun item hitem habout => hscope item ((mem_subjectAssertions i).mpr ⟨hitem, habout⟩),
    fun item hitem habout => hstatus item ((mem_subjectAssertions i).mpr ⟨hitem, habout⟩),
    fun hw item hitem habout hrequest hactive => ?_, fun hw hc item hitem habout hrequest => ?_⟩
  · obtain ⟨rest, b, -, hb, -⟩ := hfirst item hitem habout hrequest hw
    obtain ⟨c, hc⟩ := returns_of_anyM hb
    have hd : differs item "status" "ACTIVE" = false := differs_false.mpr hactive
    rw [hd] at hc
    exact ⟨c, hc⟩
  · obtain ⟨rest, b, hperm, hb, hforeign⟩ := hfirst item hitem habout hrequest hw
    have hany : b = true := by
      rw [anyM_eq hb, hperm.any_eq]
      exact (g.any_current i).mpr hc
    obtain ⟨c, hc⟩ := hforeign hany
    obtain ⟨d, hd⟩ := returns_of_anyM hc
    by_contra hh
    rw [Bool.not_eq_true] at hh
    simp [Val.inSet, hh, pyNot, Except.map] at hd

/-! ## Exactness -/

/-- Trust is decided exactly: whatever the order of the assertions, the engine
allows if they justify it and only then; a withdrawn assertion about the
subject, whose scope can be tested, makes it deny. -/
structure TrustExact : Prop where
  decided : ∀ l, l.Perm i.assertions → ∃ r, g.evaluateTrust (i.withAssertions l) = .ok r
  allow : ∀ r, g.evaluateTrust i = .ok r → (r.get "action_result" = .str "ALLOW" ↔ g.TrustJustified i)
  permuted : ∀ l r r', l.Perm i.assertions → g.evaluateTrust i = .ok r → g.evaluateTrust (i.withAssertions l) = .ok r' →
    r'.get "trust_state" = r.get "trust_state" ∧ r'.get "action_result" = r.get "action_result"
  withdrawn : ∀ item, aboutSubject i item = true → Withdrawn item → (∃ b, inScope i item = .ok b) →
    ∀ l, l.Perm (item :: i.assertions) →
      ∃ r, g.evaluateTrust (i.withAssertions l) = .ok r ∧ r.get "action_result" = .str "DENY"

theorem trustRecord_verdict {v : String × String × String} :
    (g.trustRecord i v).get "trust_state" = .str v.1 ∧ (g.trustRecord i v).get "action_result" = .str v.2.1 := by
  rw [g.get_trustRecord (by decide) (by decide), g.get_trustRecord (by decide) (by decide)]
  simp [trustFields, Dict.get_insert, Dict.ofItems]

/-- What a returned decision says is the verdict. -/
theorem evaluateTrust_view {r : Dict} (h : g.evaluateTrust i = .ok r) :
    r.get "trust_state" = .str (g.trustView i).1 ∧ r.get "action_result" = .str (g.trustView i).2.1 := by
  obtain ⟨v, hv, rfl⟩ := g.evaluateTrust_ok.mp h
  rw [← (g.trustVerdict_inv i hv).1]
  exact g.trustRecord_verdict i

/-- Trust is decided exactly if and only if the assertions are testable. The
request is one that has a fingerprint: its values can be written as JSON in
UTF-8. -/
theorem evaluateTrust_exact_iff : g.TrustExact i ↔ g.TrustTestable i := by
  constructor
  · intro h
    refine g.testable_of_decided i fun l hl => ?_
    obtain ⟨r, hr⟩ := h.decided l hl
    obtain ⟨v, hv, -⟩ := g.evaluateTrust_ok.mp hr
    exact ⟨v, hv⟩
  · intro ht
    refine ⟨fun l hl => ?_, fun r hr => ?_, fun l r r' hl hr hr' => ?_, fun item habout hw hs l hl => ?_⟩
    · exact ⟨_, g.evaluateTrust_ok.mpr ⟨_, g.trustVerdict_of_testable _ (ht.perm g i hl), rfl⟩⟩
    · rw [(g.evaluateTrust_view i hr).2, Val.str.injEq]
      exact g.trustView_allow i ht
    · obtain ⟨hstate, haction⟩ := g.evaluateTrust_view i hr
      obtain ⟨hstate', haction'⟩ := g.evaluateTrust_view _ hr'
      rw [hstate, haction, hstate', haction', g.trustView_perm i hl]
      exact ⟨rfl, rfl⟩
    · have ht' := (ht.cons_withdrawn g i habout hw hs).perm g _ hl
      have hrun := g.trustVerdict_of_testable _ ht'
      have hview : g.trustView ((i.withAssertions (item :: i.assertions)).withAssertions l) =
          ("REVOKED", "DENY", "AUTHORITY_CONFLICT") := by
        rw [g.trustView_perm _ hl, trustView]
        refine if_pos (List.any_eq_true.mpr ⟨item, ?_, isIn_withdrawn.mpr hw⟩)
        exact (mem_subjectAssertions _).mpr ⟨List.mem_cons_self, habout⟩
      rw [hview] at hrun
      exact ⟨_, g.evaluateTrust_ok.mpr ⟨_, hrun, rfl⟩, (g.trustRecord_verdict _).2⟩

end GateDDecisionEngine

/-! ## An order that raises -/

omit [Runtime] in
/-- The assertion of the example, observed at an instant before the year 1. -/
def earlyAssertion : Dict :=
  (exampleAssertion "provider_call").insert "observed_at" (.str "0001-01-01T00:00:00+01:00")

omit [Runtime] in
theorem earlyAssertion_fields :
    earlyAssertion.get "subject" = exampleSubject.toVal ∧ earlyAssertion.get "status" = .str "ACTIVE" ∧
      earlyAssertion.get "observed_at" = .str "0001-01-01T00:00:00+01:00" ∧
      earlyAssertion.get "authority_manifest_fingerprint" = .none := by
  simp [earlyAssertion, exampleAssertion, Dict.get_insert, Dict.ofItems]

/-- The assertion of the example and the early one, in an order. -/
def earlyTrust (l : List Dict) : GateDDecisionEngine.TrustInput := (exampleTrust "provider_call").withAssertions l

omit [Runtime] in
theorem inScope_early : GateDDecisionEngine.inScope (exampleTrust "provider_call") earlyAssertion = .ok true := by
  simp [GateDDecisionEngine.inScope, exampleTrust, earlyAssertion, exampleAssertion, Dict.get_insert, Dict.ofItems, differs, pyAnd,
    Except.bind, Val.containsStr, strList, Dict.getD, Dict.get?_insert]

theorem freshWindow_early :
    freshWindow earlyAssertion (exampleEngine 0).now = .error (.overflowError "date value out of range") := by
  have hparse : parseTime "0001-01-01T00:00:00+01:00" = .error (.overflowError "date value out of range") := by
    decide +kernel
  obtain ⟨-, -, hobserved, -⟩ := earlyAssertion_fields
  rw [freshWindow, Dict.item_of_contains (Dict.contains_of_str hobserved), hobserved]
  simp only [Val.toStr_str, ok_bind, hparse]
  rfl

/-- What the evaluation does to the two assertions, before their windows. -/
theorem earlyTrust_verdict {l : List Dict} (hl : ∀ item ∈ l, item = exampleAssertion "provider_call" ∨ item = earlyAssertion)
    (hne : l ≠ []) :
    (exampleEngine 0).trustVerdict (earlyTrust l) = (do
      if !(← l.anyM fun item => pyAnd (.ok !differs item "status" "ACTIVE") (freshWindow item (exampleEngine 0).now)) then
        return ("EXPIRED", "DENY", "POLICY_STALE")
      else if ← l.anyM fun item => pyNot ((item.get "authority_manifest_fingerprint").inSet
          [.none, .str (exampleEngine 0).authorityManifestFingerprint]) then
        return ("INVALID", "DENY", "MATERIAL_FINGERPRINT_MISMATCH")
      else return ("TRUSTED_FOR_BOUND_PURPOSE", "ALLOW", "NONE")) := by
  obtain ⟨hsubject, hscope, hstatus, -, -⟩ := exampleAssertion_tests 0 "provider_call"
  obtain ⟨hsubject', hstatus', -, -⟩ := earlyAssertion_fields
  have hexact : l.filter (fun item => (item.get "subject").eq exampleSubject.toVal) = l := by
    refine List.filter_eq_self.mpr fun item hitem => ?_
    rcases hl item hitem with rfl | rfl
    · exact hsubject
    · rw [hsubject', Val.eq_refl]
  have hall : l.filterM (GateDDecisionEngine.inScope (earlyTrust l)) = .ok l := by
    refine filterM_true fun item hitem => ?_
    rcases hl item hitem with rfl | rfl
    · exact hscope
    · exact inScope_early
  have hnone : l.filterM (fun item => (item.get "status").isIn ["REVOKED", "CONTRADICTED", "INVALID"]) = .ok [] := by
    refine filterM_false fun item hitem => ?_
    rcases hl item hitem with rfl | rfl
    · simp [hstatus]
    · simp [hstatus']
  have hempty : l.isEmpty = false := List.isEmpty_eq_false_iff.mpr hne
  rw [GateDDecisionEngine.trustVerdict,
    show (earlyTrust l).assertions.filter (fun item => (item.get "subject").eq (earlyTrust l).subject.toVal) = l from hexact,
    hall, ok_bind, hnone, ok_bind]
  simp only [List.isEmpty_nil, Bool.not_true, Bool.false_eq_true, ↓reduceIte, hempty]

theorem earlyTrust_allowed : (exampleEngine 0).trustVerdict (earlyTrust [exampleAssertion "provider_call", earlyAssertion]) =
    .ok ("TRUSTED_FOR_BOUND_PURPOSE", "ALLOW", "NONE") := by
  obtain ⟨-, -, hstatus, hauthority, hfresh⟩ := exampleAssertion_tests 0 "provider_call"
  obtain ⟨-, -, -, hauthority'⟩ := earlyAssertion_fields
  have hactive : pyAnd (.ok !differs (exampleAssertion "provider_call") "status" "ACTIVE")
      (freshWindow (exampleAssertion "provider_call") (exampleEngine 0).now) = .ok true := by
    rw [hfresh, differs_false.mpr hstatus]
    rfl
  have hany : [exampleAssertion "provider_call", earlyAssertion].anyM (fun item =>
      pyAnd (.ok !differs item "status" "ACTIVE") (freshWindow item (exampleEngine 0).now)) = .ok true :=
    anyM_cons_ok.mpr (.inl ⟨hactive, rfl⟩)
  rw [earlyTrust_verdict (by simp) (by simp), hany, ok_bind]
  simp [hauthority, hauthority', Val.inSet, Val.hashable, pyNot, Except.map, pure, Except.pure]

theorem earlyTrust_raises : (exampleEngine 0).evaluateTrust (earlyTrust [earlyAssertion, exampleAssertion "provider_call"]) =
    .error (.overflowError "date value out of range") := by
  obtain ⟨-, hstatus, -, -⟩ := earlyAssertion_fields
  have hactive : pyAnd (.ok !differs earlyAssertion "status" "ACTIVE") (freshWindow earlyAssertion (exampleEngine 0).now) =
      .error (.overflowError "date value out of range") := by
    rw [freshWindow_early, differs_false.mpr hstatus]
    rfl
  rw [GateDDecisionEngine.evaluateTrust, earlyTrust_verdict (by simp) (by simp), List.anyM, hactive]
  rfl

end

/-- Two assertions that are trusted in one order, and raise in the other. -/
theorem evaluateTrust_order :
    letI := asciiRuntime
    ∃ g : GateDDecisionEngine, ∃ i r e, g.evaluateTrust i = .ok r ∧ r.get "action_result" = .str "ALLOW" ∧
      g.evaluateTrust (i.withAssertions i.assertions.reverse) = .error e ∧ ¬ g.TrustExact i := by
  let := asciiRuntime
  refine ⟨exampleEngine 0, earlyTrust [exampleAssertion "provider_call", earlyAssertion], _, _,
    (exampleEngine 0).evaluateTrust_ok.mpr ⟨_, earlyTrust_allowed, rfl⟩, ((exampleEngine 0).trustRecord_verdict _).2,
    earlyTrust_raises, fun h => ?_⟩
  obtain ⟨r, hr⟩ := h.decided [earlyAssertion, exampleAssertion "provider_call"] (.swap ..)
  exact absurd (earlyTrust_raises.symm.trans hr) (by simp)

end Pmiri
