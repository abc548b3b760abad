import Pmiri.Deployment.Verified

/-!
# What the report validators raise on

The validators collect what is wrong with a report and go on. Some of their later
statements take for granted what the earlier ones have found wrong: a field that
is looked up is there, a value that is tested for membership is hashable, and an
id that goes into a message is a text. Where that holds of a report, and only
there, they return.
-/

namespace Pmiri

open Py

theorem returns_errorAbout {c : Bool} {msg : String} {v : Val} :
    Returns (errorAbout c msg v) ↔ (c = true → ∃ s, v = .str s) := by
  cases c with
  | false => exact iff_of_true (returns_ok _) nofun
  | true =>
    cases v with
    | str s => exact iff_of_true (returns_ok _) fun _ => ⟨s, rfl⟩
    | _ => exact iff_of_false (not_returns_error _) fun h => nomatch h rfl

theorem inSet_ok {v : Val} {vs : List Val} (hvs : vs.all Val.hashable = true) {seen : Bool} :
    v.inSet vs = .ok seen ↔ v.hashable = true ∧ vs.any (·.eq v) = seen := by
  unfold Val.inSet
  rw [hvs, Bool.and_true]
  split
  · rename_i h
    rw [Except.ok.injEq]
    exact (and_iff_right h).symm
  · rename_i h
    exact iff_of_false nofun fun h' => h h'.1

theorem sameSet_ok {vs ws : List Val} (hws : ws.all Val.hashable = true) {same : Bool} :
    Val.sameSet vs ws = .ok same ↔
      vs.all Val.hashable = true ∧ ((vs.all fun v => ws.any (·.eq v)) && ws.all fun w => vs.any (·.eq w)) = same := by
  unfold Val.sameSet
  rw [hws, Bool.and_true]
  split
  · rename_i h
    rw [Except.ok.injEq]
    exact (and_iff_right h).symm
  · rename_i h
    exact iff_of_false nofun fun h' => h h'.1

/-! ## The checks of a readiness report -/

section

variable [Runtime]

/-- The result, the severity and the references are of the kinds that a check has. -/
def HasValues (item : Dict) : Prop :=
  item.get "result" ∈ [.str "READY", .str "BLOCKED"] ∧ item.get "severity" = .str "HARD_BLOCK" ∧ (item.get "evidence_refs").isStrList = true

/-- The fingerprint is that of the observed fields. -/
def Fingerprinted (item : Dict) : Prop :=
  item.get "observed_fingerprint" = .str (sha256Json (Dict.ofItems (CHECK_OBSERVED.map fun key => (key, item.get key))).toVal)

/-- A check that can be looked at, when the ids in `ids` were seen: unless its id is a text, nothing else is wrong with it. -/
structure Examinable (ids : List Val) (item : Dict) : Prop where
  checkId : (item.get "check_id").hashable = true
  result : (item.get "result").hashable = true
  named : (∃ name, item.get "check_id" = .str name) ∨
    ((∀ id ∈ ids, id.eq (item.get "check_id") = false) ∧ HasValues item ∧ Fingerprinted item)

theorem checkErrors_returns {ids : List Val} (hids : ids.all Val.hashable = true) {item : Dict} :
    Returns (checkErrors ids item) ↔ Examinable ids item := by
  constructor
  · intro h
    obtain ⟨errors, h⟩ := h
    obtain ⟨seen, hseen, h⟩ := bind_ok.mp h
    obtain ⟨duplicate, hduplicate, h⟩ := bind_ok.mp h
    obtain ⟨invalid, hinvalid, h⟩ := bind_ok.mp h
    obtain ⟨value, hvalue, h⟩ := bind_ok.mp h
    obtain ⟨mismatch, hmismatch, -⟩ := bind_ok.mp h
    obtain ⟨hhashable, hseen⟩ := (inSet_ok hids).mp hseen
    have hresult : (item.get "result").hashable = true := by
      obtain ⟨x, hx, -⟩ := returns_pyOr.mp ⟨invalid, hinvalid⟩
      exact returns_notIn.mp ⟨x, hx⟩
    refine ⟨hhashable, hresult, ?_⟩
    by_cases hname : ∃ name, item.get "check_id" = .str name
    · exact .inl hname
    · have hfalse : ∀ {c msg errors}, errorAbout c msg (item.get "check_id") = .ok errors → c = false :=
        fun h => Bool.eq_false_iff.mpr fun hc => hname (returns_errorAbout.mp ⟨_, h⟩ hc)
      obtain rfl := hfalse hvalue
      rw [hfalse hduplicate] at hseen
      simp only [pyOr_ok_false, Val.notIn_ok_false, Except.ok.injEq, Bool.or_eq_false_iff, differs_false, Bool.not_eq_false'] at hinvalid
      obtain ⟨⟨x, hx, hresult⟩, hseverity, hrefs⟩ := hinvalid
      refine .inr ⟨fun id hid => by simpa using List.any_eq_false.mp hseen id hid, ⟨?_, hseverity, hrefs⟩,
        differs_false.mp (hfalse hmismatch)⟩
      rw [hresult]
      exact List.mem_map_of_mem (f := Val.str) hx
  · intro h
    obtain ⟨invalid, hinvalid⟩ : Returns (pyOr ((item.get "result").notIn ["READY", "BLOCKED"])
        (.ok (differs item "severity" "HARD_BLOCK" || !(item.get "evidence_refs").isStrList))) := by
      obtain ⟨x, hx⟩ := returns_notIn (s := ["READY", "BLOCKED"]).mpr h.result
      exact returns_pyOr.mpr ⟨x, hx, fun _ => returns_ok _⟩
    have hseen : (ids.any (·.eq (item.get "check_id"))) = true → ∃ name, item.get "check_id" = .str name := by
      intro hseen
      refine h.named.resolve_right fun hnot => ?_
      obtain ⟨id, hid, heq⟩ := List.any_eq_true.mp hseen
      rw [hnot.1 id hid] at heq
      cases heq
    have hvalue : invalid = true → ∃ name, item.get "check_id" = .str name := by
      rintro rfl
      refine h.named.resolve_right fun hnot => ?_
      obtain ⟨-, ⟨hresult, hseverity, hrefs⟩, -⟩ := hnot
      obtain ⟨x, hx, hresult⟩ := List.mem_map (f := Val.str) (l := ["READY", "BLOCKED"]).mp hresult
      rw [pyOr_ok_false.mpr ⟨Val.notIn_ok_false.mpr ⟨x, hx, hresult.symm⟩, by rw [differs_false.mpr hseverity, hrefs]; rfl⟩] at hinvalid
      cases hinvalid
    have hmismatch : differs item "observed_fingerprint" (sha256Json (Dict.ofItems (CHECK_OBSERVED.map fun key => (key, item.get key))).toVal) =
        true → ∃ name, item.get "check_id" = .str name := by
      intro hdiffers
      refine h.named.resolve_right fun hnot => ?_
      rw [differs_false.mpr hnot.2.2] at hdiffers
      cases hdiffers
    obtain ⟨duplicate, hduplicate⟩ : Returns (errorAbout _ "check_id_duplicate:" _) := returns_errorAbout.mpr hseen
    obtain ⟨value, hvalue⟩ : Returns (errorAbout _ "check_value_invalid:" _) := returns_errorAbout.mpr hvalue
    obtain ⟨mismatch, hmismatch⟩ : Returns (errorAbout _ "check_fingerprint_mismatch:" _) := returns_errorAbout.mpr hmismatch
    exact returns_bind.mpr ⟨_, (inSet_ok hids).mpr ⟨h.checkId, rfl⟩, returns_bind.mpr ⟨duplicate, hduplicate,
      returns_bind.mpr ⟨invalid, hinvalid, returns_bind.mpr ⟨value, hvalue, returns_bind.mpr ⟨mismatch, hmismatch, returns_ok _⟩⟩⟩⟩⟩

omit [Runtime] in
/-- The ids that were seen once the loop is past these checks. -/
def seenIds (checks : List Val) : List Val :=
  ((checks.filterMap Val.asDict).filter fun d => d.keysAre CHECK_FIELDS).map fun d => d.get "check_id"

theorem Examinable.congr {ids ids' : List Val} {item : Dict} (h : ∀ id, id ∈ ids ↔ id ∈ ids') :
    Examinable ids item ↔ Examinable ids' item := by
  constructor
  · exact fun hitem => ⟨hitem.checkId, hitem.result, hitem.named.imp_right (And.imp_left fun hnew id hid => hnew id ((h id).mpr hid))⟩
  · exact fun hitem => ⟨hitem.checkId, hitem.result, hitem.named.imp_right (And.imp_left fun hnew id hid => hnew id ((h id).mp hid))⟩

/-- Every check with the fields of one can be looked at when the loop gets to it. -/
def AllExaminable (ids checks : List Val) : Prop :=
  ∀ before item after, checks = before ++ item :: after → ∀ d, item.asDict = some d → d.keysAre CHECK_FIELDS = true →
    Examinable (ids ++ seenIds before) d

theorem allExaminable_cons {ids : List Val} {item : Val} {items : List Val} :
    AllExaminable ids (item :: items) ↔
      (∀ d, item.asDict = some d → d.keysAre CHECK_FIELDS = true → Examinable ids d) ∧ AllExaminable (ids ++ seenIds [item]) items := by
  have hseen : ∀ before, seenIds (item :: before) = seenIds [item] ++ seenIds before := by
    intro before
    rw [seenIds, seenIds, seenIds, ← List.map_append, ← List.filter_append, ← List.filterMap_append]
    rfl
  constructor
  · intro h
    refine ⟨fun d hd hkeys => ?_, fun before item' after heq d hd hkeys => ?_⟩
    · have := h [] item items rfl d hd hkeys
      rwa [show seenIds [] = [] from rfl, List.append_nil] at this
    · rw [List.append_assoc, ← hseen]
      exact h (item :: before) item' after (by rw [heq, List.cons_append]) d hd hkeys
  · intro h before item' after heq d hd hkeys
    cases before with
    | nil =>
      obtain ⟨rfl, rfl⟩ := List.cons.inj heq
      rw [show seenIds [] = [] from rfl, List.append_nil]
      exact h.1 d hd hkeys
    | cons item'' before =>
      obtain ⟨rfl, rfl⟩ := List.cons.inj heq
      rw [hseen, ← List.append_assoc]
      exact h.2 before item' after rfl d hd hkeys

theorem AllExaminable.congr {ids ids' checks : List Val} (h : ∀ id, id ∈ ids ↔ id ∈ ids') :
    AllExaminable ids checks ↔ AllExaminable ids' checks := by
  have hmem : ∀ before id, id ∈ ids ++ seenIds before ↔ id ∈ ids' ++ seenIds before := by
    intro before id
    rw [List.mem_append, List.mem_append, h]
  constructor
  · exact fun hall before item after heq d hd hkeys => (Examinable.congr (hmem before)).mp (hall before item after heq d hd hkeys)
  · exact fun hall before item after heq d hd hkeys => (Examinable.congr (hmem before)).mpr (hall before item after heq d hd hkeys)

theorem checksErrors_returns {ids items : List Val} (hids : ids.all Val.hashable = true) :
    Returns (checksErrors ids items) ↔ AllExaminable ids items := by
  induction items generalizing ids with
  | nil => exact iff_of_true (returns_ok _) fun before item after heq => absurd heq (by simp)
  | cons item items ih =>
    rw [allExaminable_cons, checksErrors]
    split
    · rename_i hitem
      have hseen : seenIds [item] = [] := by simp [seenIds, hitem]
      rw [hseen, List.append_nil, ← ih hids]
      exact returns_map.trans (and_iff_right fun d hd => by rw [hitem] at hd; cases hd).symm
    · rename_i d hd
      by_cases hkeys : d.keysAre CHECK_FIELDS = true
      · have hseen : seenIds [item] = [d.get "check_id"] := by simp [seenIds, hd, hkeys]
        have hmem : ∀ id, id ∈ d.get "check_id" :: ids ↔ id ∈ ids ++ [d.get "check_id"] := by simp [or_comm]
        have hone : (∀ d', item.asDict = some d' → d'.keysAre CHECK_FIELDS = true → Examinable ids d') ↔ Examinable ids d := by
          constructor
          · exact fun h => h d hd hkeys
          · intro h d' hd' _
            rwa [← Option.some.inj (hd.symm.trans hd')]
        rw [hkeys, hseen, hone, ← AllExaminable.congr hmem, ← checkErrors_returns hids]
        have hrest : Returns (checkErrors ids d) → (Returns (checksErrors (d.get "check_id" :: ids) items) ↔
            AllExaminable (d.get "check_id" :: ids) items) := by
          intro h
          refine ih ?_
          rw [List.all_cons, ((checkErrors_returns hids).mp h).checkId, hids]
          rfl
        constructor
        · intro h
          obtain ⟨errors, herrors, h⟩ := returns_bind.mp h
          exact ⟨⟨errors, herrors⟩, (hrest ⟨errors, herrors⟩).mp (returns_map.mp h)⟩
        · intro h
          obtain ⟨⟨errors, herrors⟩, h⟩ := h
          exact returns_bind.mpr ⟨errors, herrors, returns_map.mpr ((hrest ⟨errors, herrors⟩).mpr h)⟩
      · rw [Bool.not_eq_true] at hkeys
        have hseen : seenIds [item] = [] := by simp [seenIds, hd, hkeys]
        rw [hkeys, hseen, List.append_nil, ← ih hids]
        refine returns_map.trans (and_iff_right fun d' hd' hkeys' => ?_).symm
        rw [← Option.some.inj (hd.symm.trans hd'), hkeys] at hkeys'
        cases hkeys'

/-! ## The rest of a readiness report -/

theorem requirementErrors_returns {item : Val} : Returns (requirementErrors item) ↔ ∃ d, item.asDict = some d := by
  unfold requirementErrors
  split
  · rename_i d hd
    exact iff_of_true (returns_ok _) ⟨d, hd⟩
  · rename_i hnone
    refine iff_of_false (fun h => ?_) fun h => ?_
    · obtain ⟨elements, -, h⟩ := returns_bind.mp h
      obtain ⟨distinct, -, h⟩ := returns_bind.mp h
      exact not_returns_error _ h
    · obtain ⟨d, hd⟩ := h
      rw [hnone] at hd
      cases hd

/-- The ids of the requirements are those of the external prerequisites. -/
def RequiredIds (items : List Val) : Prop :=
  (∀ d ∈ items.filterMap Val.asDict, ∃ b ∈ EXTERNAL_BLOCKERS, d.get "check_id" = .str b.checkId) ∧
    ∀ b ∈ EXTERNAL_BLOCKERS, ∃ d ∈ items.filterMap Val.asDict, d.get "check_id" = .str b.checkId

/-- The ids of the requirements are hashable, and if they are the required ones, everything in the list is an object. -/
def Listed (external : Val) : Prop :=
  ∀ items, external = .list items →
    (∀ d ∈ items.filterMap Val.asDict, (d.get "check_id").hashable = true) ∧
      (RequiredIds items → ∀ item ∈ items, ∃ d, item.asDict = some d)

omit [Runtime] in
theorem sameIds_iff {items : List Val} :
    ((((items.filterMap Val.asDict).map fun d => d.get "check_id").all fun v => (EXTERNAL_BLOCKERS.map fun b => Val.str b.checkId).any (·.eq v)) &&
      (EXTERNAL_BLOCKERS.map fun b => Val.str b.checkId).all fun w => ((items.filterMap Val.asDict).map fun d => d.get "check_id").any (·.eq w)) =
        true ↔ RequiredIds items := by
  simp only [Bool.and_eq_true, List.all_map, List.any_map, List.all_eq_true, List.any_eq_true, Function.comp_apply, Val.str_eq, Val.eq_str]
  rfl

theorem externalErrors_returns {external : Val} : Returns (externalErrors external) ↔ Listed external := by
  cases external with
  | list items =>
    have hexpected : (EXTERNAL_BLOCKERS.map fun b => Val.str b.checkId).all Val.hashable = true := by decide
    have hhashable : ((items.filterMap Val.asDict).map fun d => d.get "check_id").all Val.hashable = true ↔
        ∀ d ∈ items.filterMap Val.asDict, (d.get "check_id").hashable = true := by
      rw [List.all_map, List.all_eq_true]
      rfl
    have hlisted : Listed (.list items) ↔ (∀ d ∈ items.filterMap Val.asDict, (d.get "check_id").hashable = true) ∧
        (RequiredIds items → ∀ item ∈ items, ∃ d, item.asDict = some d) := by
      constructor
      · exact fun h => h items rfl
      · intro h items' heq
        rwa [← Val.list.inj heq]
    rw [hlisted, ← hhashable, ← sameIds_iff]
    constructor
    · intro h
      obtain ⟨same, hsame, h⟩ := returns_bind.mp h
      obtain ⟨hids, hsame⟩ := (sameSet_ok hexpected).mp hsame
      refine ⟨hids, fun hrequired => ?_⟩
      rw [hsame] at hrequired
      rw [hrequired, if_neg (by decide)] at h
      obtain ⟨errors, herrors, -⟩ := returns_bind.mp h
      exact fun item hitem => requirementErrors_returns.mp (returns_mapM.mp ⟨errors, herrors⟩ item hitem)
    · intro h
      refine returns_bind.mpr ⟨_, (sameSet_ok hexpected).mpr ⟨h.1, rfl⟩, ?_⟩
      split
      · exact returns_ok _
      · rename_i hsame
        rw [Bool.not_eq_true, Bool.not_eq_false'] at hsame
        exact returns_map.mpr (returns_mapM.mpr fun item hitem => requirementErrors_returns.mpr (h.2 hsame item hitem))
  | _ => exact iff_of_true (returns_ok _) nofun

theorem reportChecksErrors_returns {report : Dict} :
    Returns (reportChecksErrors report) ↔ ∀ checks, report.get "checks" = .list checks → AllExaminable [] checks := by
  unfold reportChecksErrors
  split
  · rename_i item items hitems
    have hids : ([] : List Val).all Val.hashable = true := rfl
    rw [checksErrors_returns hids]
    constructor
    · intro h checks hchecks
      rwa [← Val.list.inj (hitems.symm.trans hchecks)]
    · exact fun h => h _ hitems
  · rename_i hnone
    refine iff_of_true (returns_ok _) fun checks hchecks before item after heq => ?_
    obtain ⟨item', items, hcons⟩ : ∃ item' items, checks = item' :: items := by
      cases checks with
      | nil => exact absurd heq (by simp)
      | cons item' items => exact ⟨item', items, rfl⟩
    exact absurd (hcons ▸ hchecks) (hnone item' items)

omit [Runtime] in
/-- Looking up the fields one after the other. -/
theorem find?_missing {fields : List String} {report : Dict} :
    (fields.find? fun key => !report.contains key) = none ↔ ∀ key ∈ fields, report.contains key = true := by
  rw [List.find?_eq_none]
  exact forall₂_congr fun key _ => by rw [Bool.not_eq_true, Bool.not_eq_false']

theorem fingerprintErrors_returns {report : Dict} :
    Returns (fingerprintErrors report) ↔ ∀ key ∈ SIGNED_FIELDS, report.contains key = true := by
  rw [← find?_missing]
  unfold fingerprintErrors
  split
  · rename_i key hkey
    refine iff_of_false (not_returns_error _) fun h => ?_
    rw [hkey] at h
    cases h
  · rename_i hnone
    exact iff_of_true (returns_ok _) hnone

omit [Runtime] in
theorem overallErrors_returns {report : Dict} : Returns (overallErrors report) ↔ (report.get "overall_result").hashable = true := by
  rw [← returns_notIn (s := ["DEPLOYMENT_READY", "DEPLOYMENT_READINESS_BLOCKED"]), overallErrors, returns_bind]
  refine exists_congr fun unknown => and_iff_left ?_
  split
  · exact returns_ok _
  · split
    · exact returns_ok _
    · split <;> exact returns_ok _

/-- A readiness report that the validator gets through. -/
structure Validatable (report : Dict) : Prop where
  signed : ∀ key ∈ SIGNED_FIELDS, report.contains key = true
  checks : ∀ checks, report.get "checks" = .list checks → AllExaminable [] checks
  external : Listed (report.get "required_external_evidence")
  overall : (report.get "overall_result").hashable = true

theorem validateReadinessReport_returns {report : Dict} : Returns (validateReadinessReport report) ↔ Validatable report := by
  simp only [validateReadinessReport, returns_bind]
  constructor
  · intro h
    obtain ⟨checks, hchecks, external, hexternal, fingerprint, hfingerprint, overall, hoverall, -⟩ := h
    exact ⟨fingerprintErrors_returns.mp ⟨_, hfingerprint⟩, reportChecksErrors_returns.mp ⟨_, hchecks⟩,
      externalErrors_returns.mp ⟨_, hexternal⟩, overallErrors_returns.mp ⟨_, hoverall⟩⟩
  · intro h
    obtain ⟨checks, hchecks⟩ := reportChecksErrors_returns.mpr h.checks
    obtain ⟨external, hexternal⟩ := externalErrors_returns.mpr h.external
    obtain ⟨fingerprint, hfingerprint⟩ := fingerprintErrors_returns.mpr h.signed
    obtain ⟨overall, hoverall⟩ := overallErrors_returns.mpr h.overall
    exact ⟨checks, hchecks, external, hexternal, fingerprint, hfingerprint, overall, hoverall, returns_ok _⟩

/-! ## Final reports -/

/-- The ids of the checks are the required ones. -/
def RequiredChecks (checks : List Val) : Prop :=
  (checks.filterMap Val.asDict).map (fun d => d.get "check_id") = FINAL_GATE_REQUIREMENTS.map fun r => .str r.1

/-- A final report that the validator gets through, without a project root. -/
structure FinalValidatable (report : Dict) : Prop where
  signed : ∀ key ∈ FINAL_SIGNED_FIELDS, report.contains key = true
  status : (report.get "status").eq (report.get "overall_result") = true → (report.get "status").hashable = true
  evidence : (report.get "external_evidence_status").hashable = true
  checks : ∀ checks, report.get "checks" = .list checks → RequiredChecks checks →
    ∀ d ∈ checks.filterMap Val.asDict, d.keysAre (FINAL_CHECK_SIGNED ++ ["observed_fingerprint"]) = true →
      (d.get "result").hashable = true

omit [Runtime] in
theorem finalStatusErrors_returns {report : Dict} : Returns (finalStatusErrors report) ↔
    ((report.get "status").eq (report.get "overall_result") = true → (report.get "status").hashable = true) := by
  refine returns_map.trans (returns_pyOr.trans ?_)
  rw [returns_notIn]
  simp only [Except.ok.injEq, exists_eq_left', Bool.not_eq_false', Dict.agrees]

omit [Runtime] in
theorem evidenceStatusErrors_returns {report : Dict} :
    Returns (evidenceStatusErrors report) ↔ (report.get "external_evidence_status").hashable = true :=
  returns_map.trans returns_notIn

theorem finalCheckErrors_returns {item : Val} (hid : ∀ d, item.asDict = some d → ∃ checkId, d.get "check_id" = .str checkId) :
    Returns (finalCheckErrors item) ↔ ∀ d, item.asDict = some d →
      d.keysAre (FINAL_CHECK_SIGNED ++ ["observed_fingerprint"]) = true → (d.get "result").hashable = true := by
  unfold finalCheckErrors
  split
  · rename_i hnone
    exact iff_of_true (returns_ok _) fun d hd => by rw [hnone] at hd; cases hd
  · rename_i d hd
    obtain ⟨checkId, hcheckId⟩ := hid d hd
    have hone : (∀ d', item.asDict = some d' → d'.keysAre (FINAL_CHECK_SIGNED ++ ["observed_fingerprint"]) = true →
        (d'.get "result").hashable = true) ↔
        (d.keysAre (FINAL_CHECK_SIGNED ++ ["observed_fingerprint"]) = true → (d.get "result").hashable = true) := by
      constructor
      · exact fun h => h d hd
      · intro h d' hd'
        rwa [← Option.some.inj (hd.symm.trans hd')]
    rw [hone]
    by_cases hkeys : d.keysAre (FINAL_CHECK_SIGNED ++ ["observed_fingerprint"]) = true
    · rw [hkeys, if_neg (by decide), imp_iff_right rfl, ← returns_notIn (s := ["READY", "BLOCKED"]), hcheckId]
      dsimp only
      simp only [returns_bind, expectedAssertion, Except.ok.injEq, exists_eq_left']
      constructor
      · intro h
        obtain ⟨invalid, hinvalid, -⟩ := h
        exact (returns_pyOr.mp ⟨invalid, hinvalid⟩).imp fun x hx => hx.1
      · intro h
        obtain ⟨x, hx⟩ := h
        obtain ⟨invalid, hinvalid⟩ := returns_pyOr.mpr ⟨x, hx, fun _ => returns_ok (differs d "severity" "HARD_BLOCK")⟩
        exact ⟨invalid, hinvalid, returns_ok _⟩
    · rw [Bool.not_eq_true] at hkeys
      rw [hkeys]
      exact iff_of_true (returns_ok _) nofun

theorem finalChecksErrors_returns {report : Dict} :
    Returns (finalChecksErrors report) ↔ ∀ checks, report.get "checks" = .list checks → RequiredChecks checks →
      ∀ d ∈ checks.filterMap Val.asDict, d.keysAre (FINAL_CHECK_SIGNED ++ ["observed_fingerprint"]) = true →
        (d.get "result").hashable = true := by
  unfold finalChecksErrors
  split
  · rename_i items hitems
    have htexts : (FINAL_GATE_REQUIREMENTS.map fun r => Val.str r.1) = (FINAL_GATE_REQUIREMENTS.map Prod.fst).map .str := by
      rw [List.map_map]
      rfl
    by_cases hids : RequiredChecks items
    · have hsame : Val.eqList ((items.filterMap Val.asDict).map fun d => d.get "check_id") (FINAL_GATE_REQUIREMENTS.map fun r => .str r.1) =
          true := by
        rw [htexts, Val.eqList_str, ← htexts]
        exact hids
      have hid : ∀ item ∈ items, ∀ d, item.asDict = some d → ∃ checkId, d.get "check_id" = .str checkId := by
        intro item hitem d hd
        have hmem : d.get "check_id" ∈ FINAL_GATE_REQUIREMENTS.map fun r => Val.str r.1 :=
          hids ▸ List.mem_map_of_mem (List.mem_filterMap.mpr ⟨item, hitem, hd⟩)
        obtain ⟨r, -, hr⟩ := List.mem_map.mp hmem
        exact ⟨r.1, hr.symm⟩
      rw [hsame, if_neg (by decide)]
      refine returns_map.trans (returns_mapM.trans ?_)
      constructor
      · intro h checks hchecks _ d hd
        obtain rfl := Val.list.inj (hitems.symm.trans hchecks)
        obtain ⟨item, hitem, hd⟩ := List.mem_filterMap.mp hd
        exact (finalCheckErrors_returns (hid item hitem)).mp (h item hitem) d hd
      · intro h item hitem
        exact (finalCheckErrors_returns (hid item hitem)).mpr fun d hd =>
          h items hitems hids d (List.mem_filterMap.mpr ⟨item, hitem, hd⟩)
    · have hdifferent : Val.eqList ((items.filterMap Val.asDict).map fun d => d.get "check_id")
          (FINAL_GATE_REQUIREMENTS.map fun r => .str r.1) = false := by
        rw [← Bool.not_eq_true, htexts, Val.eqList_str, ← htexts]
        exact hids
      rw [hdifferent]
      refine iff_of_true (returns_ok _) fun checks hchecks hrequired => ?_
      obtain rfl := Val.list.inj (hitems.symm.trans hchecks)
      exact absurd hrequired hids
  · rename_i hnone
    exact iff_of_true (returns_ok _) fun checks hchecks => absurd hchecks (hnone checks)

theorem finalFingerprintErrors_returns {report : Dict} :
    Returns (finalFingerprintErrors report) ↔ ∀ key ∈ FINAL_SIGNED_FIELDS, report.contains key = true := by
  rw [← find?_missing]
  unfold finalFingerprintErrors
  split
  · rename_i key hkey
    refine iff_of_false (not_returns_error _) fun h => ?_
    rw [hkey] at h
    cases h
  · rename_i hnone
    exact iff_of_true (returns_ok _) hnone

variable [FloatText] {fs : FileSystem} {workingDirectory : List String}

omit [FloatText] in
theorem currentReadinessErrors_returns {root : List String} {report : Dict} {current : Option Dict} :
    Returns (currentReadinessErrors fs workingDirectory root report current) ↔ ∀ readiness, current = some readiness → Validatable readiness := by
  cases current with
  | none => exact iff_of_true (returns_ok _) nofun
  | some readiness =>
    simp only [Option.some.injEq, forall_eq', ← validateReadinessReport_returns]
    refine returns_bind.trans (exists_congr fun errors => and_iff_left ?_)
    split <;> exact returns_ok _

omit [FloatText] in
theorem projectRootErrors_returns {report : Dict} {current : List String → Option Dict} {projectRoot : Option (List String)} :
    Returns (projectRootErrors fs workingDirectory report current projectRoot) ↔
      ∀ path, projectRoot = some path → ∀ readiness, current (fs.resolve path) = some readiness → Validatable readiness := by
  cases projectRoot with
  | none => exact iff_of_true (returns_ok _) nofun
  | some path =>
    simp only [Option.some.injEq, forall_eq']
    exact returns_map.trans currentReadinessErrors_returns

omit [FloatText] in
theorem finalReportErrors_returns {report : Dict} {current : List String → Option Dict} {projectRoot : Option (List String)} :
    Returns (finalReportErrors fs workingDirectory report current projectRoot) ↔ FinalValidatable report ∧
      ∀ path, projectRoot = some path → ∀ readiness, current (fs.resolve path) = some readiness → Validatable readiness := by
  simp only [finalReportErrors, returns_bind]
  constructor
  · intro h
    obtain ⟨status, hstatus, evidence, hevidence, checks, hchecks, current, hcurrent, fingerprint, hfingerprint, -⟩ := h
    exact ⟨⟨finalFingerprintErrors_returns.mp ⟨_, hfingerprint⟩, finalStatusErrors_returns.mp ⟨_, hstatus⟩,
      evidenceStatusErrors_returns.mp ⟨_, hevidence⟩, finalChecksErrors_returns.mp ⟨_, hchecks⟩⟩,
      projectRootErrors_returns.mp ⟨_, hcurrent⟩⟩
  · intro h
    obtain ⟨h, hcurrent⟩ := h
    obtain ⟨status, hstatus⟩ := finalStatusErrors_returns.mpr h.status
    obtain ⟨evidence, hevidence⟩ := evidenceStatusErrors_returns.mpr h.evidence
    obtain ⟨checks, hchecks⟩ := finalChecksErrors_returns.mpr h.checks
    obtain ⟨current, hcurrent⟩ : Returns (projectRootErrors fs workingDirectory report current projectRoot) :=
      projectRootErrors_returns.mpr hcurrent
    obtain ⟨fingerprint, hfingerprint⟩ := finalFingerprintErrors_returns.mpr h.signed
    exact ⟨status, hstatus, evidence, hevidence, checks, hchecks, current, hcurrent, fingerprint, hfingerprint, returns_ok _⟩

/-! ## Building a final report -/

omit [FloatText] in
theorem readinessErrors_returns {root : List String} {readiness : Option Dict} :
    Returns (readinessErrors fs workingDirectory root readiness) ↔ ∀ report, readiness = some report → Validatable report := by
  cases readiness with
  | none => exact iff_of_true (returns_ok _) nofun
  | some report =>
    simp only [Option.some.injEq, forall_eq', ← validateReadinessReport_returns]
    exact returns_map

omit [FloatText] in
/-- A report with a check that is not ready is blocked. -/
theorem unsignedFinalReport_blocked {projectRoot capturedAt : String} {binding : ReadinessBinding} {outcome : EvidenceOutcome}
    {checks : List Dict} (h : checks.all isReadyCheck = false) :
    (finalReport (unsignedFinalReport projectRoot capturedAt binding outcome checks)).get "overall_result" = .str FINAL_GATE_BLOCKED := by
  simp [finalReport, unsignedFinalReport, h, Dict.get_insert, Dict.ofItems]

variable [Cryptography]

/-- A request for which a final report is built: its readiness report is one that the validator gets through, and if that has no
errors, so is the key of its evidence. -/
structure Buildable (fs : FileSystem) (request : AcceptanceRequest) (current : Option Dict) : Prop where
  readiness : ∀ report, current = some report → Validatable report
  key : ∀ report, current = some report → validateReadinessReport report = .ok [] →
    belongsTo fs request.workingDirectory (fs.resolve request.projectRoot) report = true →
    KeyLoads fs (fs.resolve request.projectRoot) request (readinessBinding (some report))

theorem buildWithReadiness_returns {request : AcceptanceRequest} {readiness : Option Dict} :
    Returns (buildWithReadiness fs request readiness) ↔ Buildable fs request readiness := by
  constructor
  · intro h
    obtain ⟨report, h⟩ := h
    obtain ⟨errors, valid, first, outcome, checks, herrors, hvalid, houtcome, -⟩ := buildWithReadiness_ok h
    refine ⟨readinessErrors_returns.mp ⟨errors, herrors⟩, fun report hreport hnone hroot => ?_⟩
    have hnil := readinessErrors_nil.mpr ⟨report, hreport, hnone, hroot⟩
    obtain rfl := Except.ok.inj (herrors.symm.trans hnil)
    rw [hvalid, hreport] at houtcome
    exact finalEvidence_returns.mp ⟨outcome, houtcome⟩ rfl
  · intro h
    obtain ⟨errors, herrors⟩ : Returns (readinessErrors fs _ _ _) := readinessErrors_returns.mpr h.readiness
    have hvalid : ∀ report, (if errors.isEmpty then readiness else none) = some report → errors = [] ∧
        readiness = some report ∧ validateReadinessReport report = .ok [] ∧
          belongsTo fs request.workingDirectory (fs.resolve request.projectRoot) report = true := by
      intro report hreport
      split at hreport
      · rename_i hempty
        obtain rfl := List.isEmpty_iff.mp hempty
        obtain ⟨report', hreport', hnone, hroot⟩ := readinessErrors_nil.mp herrors
        obtain rfl := Option.some.inj (hreport.symm.trans hreport')
        exact ⟨rfl, hreport, hnone, hroot⟩
      · cases hreport
    obtain ⟨first, hfirst⟩ := readinessCheck_returns fun report hreport => (hvalid report hreport).2.2.1
    have hkey : errors = [] → KeyLoads fs (fs.resolve request.projectRoot) request
        (readinessBinding (if errors.isEmpty then readiness else none)) := by
      rintro rfl
      obtain ⟨report, hreport, hnone, hroot⟩ := readinessErrors_nil.mp herrors
      rw [hreport]
      exact h.key report hreport hnone hroot
    obtain ⟨outcome, houtcome⟩ := finalEvidence_returns.mpr hkey
    obtain ⟨checks, hchecks⟩ := assertionCheck_returns (finalEvidence_stated houtcome)
    exact returns_bind.mpr ⟨errors, herrors, returns_bind.mpr ⟨first, hfirst, returns_bind.mpr ⟨outcome, houtcome,
      returns_bind.mpr ⟨checks, hchecks, returns_ok _⟩⟩⟩⟩

theorem buildWithReadiness_malformed {request : AcceptanceRequest} {readiness : Option Dict} {report : Dict}
    (h : buildWithReadiness fs request readiness = .ok report)
    (hmalformed : ∀ current, readiness = some current → validateReadinessReport current ≠ .ok []) :
    report.get "overall_result" = .str FINAL_GATE_BLOCKED := by
  obtain ⟨errors, valid, first, outcome, checks, herrors, hvalid, -, hbuilt⟩ := buildWithReadiness_ok h
  cases errors with
  | nil =>
    obtain ⟨current, hcurrent, hnone, -⟩ := readinessErrors_nil.mp herrors
    exact absurd hnone (hmalformed current hcurrent)
  | cons e errors =>
    obtain rfl : valid = none := hvalid
    obtain rfl := Except.ok.inj hbuilt.readiness
    rw [hbuilt.report]
    refine unsignedFinalReport_blocked ?_
    rw [List.all_cons, isReadyCheck, differs, finalCheck_result]
    rfl

end

end Pmiri
