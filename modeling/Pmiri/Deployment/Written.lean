import Pmiri.Deployment.Verified
import Pmiri.Python.InOrder

/-!
# Reports and evidence that are read back

A readiness report and signed evidence are written with their keys in order.
What was accepted before it was written is accepted when it is read back.
-/

namespace Pmiri

open Py

section

variable [Runtime]

/-! ## Readiness reports -/

omit [Runtime] in
theorem filterMap_toVal (ds : List Dict) : (ds.map Dict.toVal).filterMap Val.asDict = ds := by
  refine filterMap_asDict ?_
  rw [List.map_map]
  exact List.map_congr_left fun d _ => Val.asDict_toVal d

theorem checkErrors_sortKeys {d : Dict} (h : d.Settled) (ids : List Val) : checkErrors ids d.sortKeys = checkErrors ids d := by
  simp only [checkErrors, differs, h.get]

theorem checksErrors_sortKeys {ds : List Dict} (h : ∀ d ∈ ds, d.Settled) (ids : List Val) :
    checksErrors ids ((ds.map Dict.sortKeys).map Dict.toVal) = checksErrors ids (ds.map Dict.toVal) := by
  induction ds generalizing ids with
  | nil => rfl
  | cons d ds ih =>
    rw [List.forall_mem_cons] at h
    simp only [List.map_cons, checksErrors, Val.asDict_toVal, Dict.keysAre_sortKeys, h.1.get, checkErrors_sortKeys h.1, ih h.2]

theorem requirementErrors_sortKeys {d : Dict} (h : d.Settled) : requirementErrors d.sortKeys.toVal = requirementErrors d.toVal := by
  simp only [requirementErrors, Val.asDict_toVal, Dict.keysAre_sortKeys, h.get]

theorem externalErrors_sortKeys {ds : List Dict} (h : ∀ d ∈ ds, d.Settled) :
    externalErrors (.list ((ds.map Dict.sortKeys).map Dict.toVal)) = externalErrors (.list (ds.map Dict.toVal)) := by
  have hids : (ds.map Dict.sortKeys).map (fun d => d.get "check_id") = ds.map fun d => d.get "check_id" := by
    rw [List.map_map]
    exact List.map_congr_left fun d hd => congrFun (h d hd).get _
  have herrors : ((ds.map Dict.sortKeys).map Dict.toVal).mapM requirementErrors = (ds.map Dict.toVal).mapM requirementErrors := by
    clear hids
    induction ds with
    | nil => rfl
    | cons d ds ih =>
      rw [List.forall_mem_cons] at h
      simp only [List.map_cons, List.mapM_cons, requirementErrors_sortKeys h.1, ih h.2]
  simp only [externalErrors, filterMap_toVal, hids, herrors]

omit [Runtime] in
theorem fieldErrors_sortKeys (d : Dict) : fieldErrors d.sortKeys = fieldErrors d := by
  simp only [fieldErrors, Dict.keysAre_sortKeys, differs_sortKeys, Dict.get_sortKeys, Val.isNonemptyStr_sortKeys, isSha256_sortKeys]
  cases d.get "report_id" <;> simp only [Val.sortKeys]

theorem fingerprintErrors_sortKeys (d : Dict) : fingerprintErrors d.sortKeys = fingerprintErrors d := by
  simp only [fingerprintErrors, Dict.contains_sortKeys, differs_sortKeys, Dict.filterKeys_sortKeys, ← Dict.toVal_sortKeys, sha256Json_sortKeys]

/-- The checks and the requirements of a report are objects whose values have no order. -/
structure Shaped (report : Dict) : Prop where
  checks : ∃ ds : List Dict, report.get "checks" = .list (ds.map Dict.toVal) ∧ ∀ d ∈ ds, d.Settled
  external : ∃ ds : List Dict, report.get "required_external_evidence" = .list (ds.map Dict.toVal) ∧ ∀ d ∈ ds, d.Settled

omit [Runtime] in
theorem overallErrors_sortKeys {report : Dict} (h : Shaped report) : overallErrors report.sortKeys = overallErrors report := by
  obtain ⟨ds, hds, hsettled⟩ := h.checks
  have hresults : checkResults report.sortKeys = checkResults report := by
    rw [checkResults, checkResults, Dict.get_sortKeys, hds, Dict.sortKeys_list]
    dsimp only
    rw [filterMap_toVal, filterMap_toVal, List.map_map]
    exact congrArg some (List.map_congr_left fun d hd => congrFun (hsettled d hd).get _)
  simp only [overallErrors, Val.notIn, Dict.get_sortKeys, Val.isIn_sortKeys, differs_sortKeys, hresults]

theorem validateReadinessReport_sortKeys {report : Dict} (h : Shaped report) :
    validateReadinessReport report.sortKeys = validateReadinessReport report := by
  obtain ⟨ds, hds, hsettled⟩ := h.checks
  obtain ⟨bs, hbs, hbsettled⟩ := h.external
  have hchecks : reportChecksErrors report.sortKeys = reportChecksErrors report := by
    rw [reportChecksErrors, reportChecksErrors, Dict.get_sortKeys, hds, Dict.sortKeys_list]
    cases ds with
    | nil => rfl
    | cons d ds => exact checksErrors_sortKeys hsettled []
  have hexternal : externalErrors (report.sortKeys.get "required_external_evidence") =
      externalErrors (report.get "required_external_evidence") := by
    rw [Dict.get_sortKeys, hbs, Dict.sortKeys_list, externalErrors_sortKeys hbsettled]
  simp only [validateReadinessReport, hchecks, hexternal, fieldErrors_sortKeys, fingerprintErrors_sortKeys, overallErrors_sortKeys h]

omit [Runtime] in
/-- What is chosen and taken of dictionaries in order, where neither depends on their order. -/
theorem map_filter_sortKeys {α : Type} {p : Dict → Bool} {f : Dict → α} {ds : List Dict}
    (h : ∀ d ∈ ds, p d.sortKeys = p d ∧ f d.sortKeys = f d) : ((ds.map Dict.sortKeys).filter p).map f = (ds.filter p).map f := by
  have hfilter : ds.filter (p ∘ Dict.sortKeys) = ds.filter p := List.filter_congr fun d hd => (h d hd).1
  rw [List.filter_map, List.map_map, hfilter]
  exact List.map_congr_left fun d hd => (h d (List.mem_filter.mp hd).1).2

theorem readinessCheck_sortKeys {report : Dict} (h : Shaped report) :
    readinessCheck (some report.sortKeys) = readinessCheck (some report) := by
  obtain ⟨ds, hds, hsettled⟩ := h.checks
  have hresults : ((ds.map Dict.sortKeys).filter fun item => "EXT-".toList.isPrefixOf (item.getD "check_id" (.str "")).toStr.toList).map
      (fun item => ((item.get "check_id").toStr, item.get "result")) =
      (ds.filter fun item => "EXT-".toList.isPrefixOf (item.getD "check_id" (.str "")).toStr.toList).map
        fun item => ((item.get "check_id").toStr, item.get "result") :=
    map_filter_sortKeys fun d hd => by simp only [(hsettled d hd).getD, (hsettled d hd).get, and_self]
  have hblocked : (((ds.map Dict.sortKeys).filter fun item => !differs item "result" "BLOCKED").map fun item => (item.get "check_id").toStr) =
      (ds.filter fun item => !differs item "result" "BLOCKED").map fun item => (item.get "check_id").toStr :=
    map_filter_sortKeys fun d hd => by simp only [differs_sortKeys, (hsettled d hd).get, and_self]
  simp only [readinessCheck, validateReadinessReport_sortKeys h, Dict.get_sortKeys, hds, Dict.sortKeys_list, Val.elements, ok_bind,
    filterMap_toVal, hresults, hblocked, differs_sortKeys]

/-- A report that a run makes is of this kind. -/
theorem DeploymentReadinessReport.shaped_structured (report : DeploymentReadinessReport) : Shaped report.structured := by
  obtain ⟨-, -, -, -, -, -, -, -, hchecks, hexternal, -, -⟩ := report.structured_fields
  constructor
  · refine ⟨report.checks.map (·.structured), by rw [hchecks, List.map_map]; rfl, ?_⟩
    refine List.forall_mem_map.mpr fun check _ => Dict.Settled.insert (Dict.Settled.insert (Dict.settled_ofItems ?_) _ rfl) _ rfl
    simp only [List.forall_mem_cons]
    exact ⟨rfl, rfl, rfl, rfl, rfl, Val.sortKeys_strList _, nofun⟩
  · refine ⟨_, by rw [hexternal, ← Function.comp_def Dict.toVal, ← List.map_map], ?_⟩
    refine List.forall_mem_map.mpr fun blocker _ => Dict.settled_ofItems ?_
    simp only [List.forall_mem_cons]
    exact ⟨rfl, rfl, rfl, nofun⟩

/-- And it can be read back. -/
theorem DeploymentReadinessReport.readable_structured [FloatText] (report : DeploymentReadinessReport) :
    report.structured.toVal.Readable := by
  have hstr (s : String) : (Val.str s).Readable := trivial
  have hstrings (l : List String) : (strList l).Readable := Val.readableList_iff.mpr (List.forall_mem_map.mpr fun s _ => hstr s)
  refine Val.readable_insert (Val.readable_ofItems ?_) _ (hstr _)
  have hchecks : (Val.list (report.checks.map fun check => check.structured.toVal)).Readable := by
    refine Val.readableList_iff.mpr (List.forall_mem_map.mpr fun check _ => ?_)
    refine Val.readable_insert (Val.readable_insert (Val.readable_ofItems ?_) _ (hstr _)) _ (hstr _)
    simp only [List.forall_mem_cons]
    exact ⟨trivial, trivial, trivial, trivial, trivial, hstrings _, nofun⟩
  have hexternal : (Val.list (report.requiredExternalEvidence.map fun b =>
      (Dict.ofItems [("check_id", .str b.checkId), ("assertion", .str b.assertion), ("reason", .str b.reason)]).toVal)).Readable := by
    refine Val.readableList_iff.mpr (List.forall_mem_map.mpr fun blocker _ => Val.readable_ofItems ?_)
    simp only [List.forall_mem_cons]
    exact ⟨trivial, trivial, trivial, nofun⟩
  simp only [List.forall_mem_cons]
  exact ⟨trivial, trivial, trivial, trivial, trivial, trivial, trivial, trivial, hchecks, hexternal, trivial, nofun⟩

omit [Runtime] in
/-- What is read of a file that something was written to. -/
theorem readJsonFile_written [FloatText] {fs : FileSystem} {path : List String} {d : Dict} (hd : d.toVal.Readable)
    (hcontent : fs.contentAt path = some (canonicalJson d.toVal)) : readJsonFile fs path = some d.sortKeys.toVal := by
  rw [readJsonFile, hcontent, Option.bind_some, jsonLoadsBytes, canonicalJson, fromUTF8?_toUTF8]
  dsimp only
  rw [jsonLoads_json hd, Dict.toVal_sortKeys]
  rfl

/-! ## Evidence -/

namespace EvidenceForm

variable [FloatText] {form : EvidenceForm}

omit [Runtime] in
theorem parties_sortKeys {record issuer : Dict} {ids : String × String} (hrecord : record.toVal.Readable)
    (h : form.parties record = .ok (issuer, ids)) : form.parties record.sortKeys = .ok (issuer.sortKeys, ids) := by
  have hfound {k : String} {d : Dict} (hd : (record.get k).asDict = some d) : (record.sortKeys.get k).asDict = some d.sortKeys := by
    rw [Dict.get_sortKeys, Val.asDict_sortKeys (Val.readable_get hrecord k), hd, Option.map_some]
  obtain ⟨issuer', hissuer, h⟩ := bind_ok.mp h
  obtain ⟨hkeys, h⟩ := seq_ok.mp h
  obtain ⟨hrole, h⟩ := seq_ok.mp h
  obtain ⟨review, hreview, h⟩ := bind_ok.mp h
  obtain ⟨hreviewKeys, h⟩ := seq_ok.mp h
  obtain ⟨hresult, h⟩ := seq_ok.mp h
  obtain ⟨hdistinct, h⟩ := seq_ok.mp h
  obtain ⟨rfl, rfl⟩ := Prod.mk.inj (Except.ok.inj h)
  have hreviewer : ∃ s, review.get "reviewer_id" = .str s := by
    rw [raiseIf_ok, Bool.or_eq_false_iff, Bool.or_eq_false_iff, Bool.not_eq_false', Bool.not_eq_false'] at hresult
    obtain ⟨s, -, hs⟩ := Val.isNonemptyStr_iff.mp hresult.1.2
    exact ⟨s, hs⟩
  obtain ⟨s, hs⟩ := hreviewer
  refine bind_ok.mpr ⟨issuer'.sortKeys, dictOr_ok.mpr (hfound (dictOr_ok.mp hissuer)), seq_ok.mpr ⟨?_, seq_ok.mpr ⟨?_, ?_⟩⟩⟩
  · rwa [Dict.keysAre_sortKeys]
  · rwa [differs_sortKeys, Dict.get_sortKeys, Val.isNonemptyStr_sortKeys]
  refine bind_ok.mpr ⟨review.sortKeys, dictOr_ok.mpr (hfound (dictOr_ok.mp hreview)), seq_ok.mpr ⟨?_, seq_ok.mpr ⟨?_, seq_ok.mpr ⟨?_, ?_⟩⟩⟩⟩
  · rwa [Dict.keysAre_sortKeys]
  · rwa [differs_sortKeys, Dict.get_sortKeys, Dict.get_sortKeys, Val.isNonemptyStr_sortKeys, Val.isNonemptyStr_sortKeys]
  · rw [Dict.agrees, hs] at hdistinct
    rwa [Dict.agrees, Dict.get_sortKeys, Dict.get_sortKeys, hs, Val.sortKeys, Val.eq_str_sortKeys]
  · rw [Dict.get_sortKeys, Dict.get_sortKeys, Val.strText_sortKeys, Val.strText_sortKeys]
    rfl

omit [Runtime] in
theorem items_sortKeys {record : Dict} {items : List (Option Dict)} (hrecord : record.toVal.Readable) (h : form.items record = .ok items) :
    form.items record.sortKeys = .ok (items.map (Option.map Dict.sortKeys)) := by
  obtain ⟨xs, hxs, rfl, hids⟩ := items_ok h
  have hreadable : ∀ x ∈ xs, x.Readable := by
    have hlist := Val.readable_get hrecord form.itemsField
    rw [hxs, Val.Readable, Val.readableList_iff] at hlist
    exact hlist
  have hitems : (xs.map Val.sortKeys).map Val.asDict = (xs.map Val.asDict).map (Option.map Dict.sortKeys) := by
    rw [List.map_map, List.map_map]
    exact List.map_congr_left fun x hx => Val.asDict_sortKeys (hreadable x hx)
  have hsorted : (((xs.map Val.asDict).map (Option.map Dict.sortKeys)).filterMap fun item => item.map fun d => d.get "check_id") =
      form.checkIds.map .str := by
    rw [← Val.map_sortKeys_eq_str.mpr hids, List.map_filterMap, List.filterMap_map]
    refine List.filterMap_congr fun item _ => ?_
    cases item with
    | none => rfl
    | some d => exact congrArg some (Dict.get_sortKeys d "check_id")
  unfold EvidenceForm.items
  rw [Dict.get_sortKeys, hxs, Val.sortKeys, Val.sortKeysList_eq_map]
  dsimp only
  rw [hitems, hsorted, Val.eqList_refl]
  rfl

omit [FloatText] in
theorem verifyItem_sortKeys (hform : form.WellFormed) {item : Option Dict} {check : String × Dict} (h : form.verifyItem item = .ok check) :
    form.verifyItem (item.map Dict.sortKeys) = .ok (check.1, check.2.sortKeys) := by
  cases item with
  | none => cases h
  | some item =>
    obtain ⟨hkeys, h⟩ := seq_ok.mp h
    obtain ⟨requirement, hr, h⟩ := bind_ok.mp h
    obtain ⟨hvalues, h⟩ := seq_ok.mp h
    obtain ⟨hrefs, h⟩ := seq_ok.mp h
    obtain ⟨hobservation, h⟩ := seq_ok.mp h
    obtain ⟨hfingerprint, h⟩ := seq_ok.mp h
    obtain rfl := Except.ok.inj h
    have hidentified : form.identified item.sortKeys = form.identified item := by
      simp only [identified, Dict.get_sortKeys, Val.isIn_sortKeys, Val.eq_str_sortKeys, differs_sortKeys]
    have hscalar : ∀ kv ∈ requirement.observedValues.items, kv.2.hashable = true := by
      intro kv hkv
      have hvalue := hform.scalar requirement (identified_ok hr).1 kv.1 (List.mem_map_of_mem hkv)
      rw [Dict.get, Dict.mem_items_iff.mp hkv, Option.getD_some] at hvalue
      cases hv : kv.2 with
      | list xs => rw [hv] at hvalue; cases hvalue
      | dict items => rw [hv] at hvalue; cases hvalue
      | _ => rfl
    refine seq_ok.mpr ⟨?_, bind_ok.mpr ⟨requirement, hidentified.trans hr, seq_ok.mpr ⟨?_, seq_ok.mpr ⟨?_, seq_ok.mpr ⟨?_,
      seq_ok.mpr ⟨?_, rfl⟩⟩⟩⟩⟩⟩
    · rwa [Dict.keysAre_sortKeys]
    · rwa [Dict.get_sortKeys, Val.eq_toVal_sortKeys hscalar]
    · rwa [Dict.get_sortKeys, Val.isNonemptyList_sortKeys, Val.isStrList_sortKeys]
    · rwa [Dict.get_sortKeys, Val.isNonemptyStr_sortKeys]
    · rwa [differs_sortKeys, Dict.filterKeys_sortKeys, ← Dict.toVal_sortKeys, sha256Json_sortKeys]

omit [FloatText] in
theorem verifyItems_sortKeys (hform : form.WellFormed) {items : List (Option Dict)} {checks : List (String × Dict)}
    (h : form.verifyItems items = .ok checks) :
    form.verifyItems (items.map (Option.map Dict.sortKeys)) = .ok (checks.map fun check => (check.1, check.2.sortKeys)) := by
  induction items generalizing checks with
  | nil =>
    obtain rfl := Except.ok.inj h
    rfl
  | cons item items ih =>
    obtain ⟨check, hcheck, h⟩ := bind_ok.mp h
    obtain ⟨rest, hrest, h⟩ := bind_ok.mp h
    obtain rfl := Except.ok.inj h
    exact bind_ok.mpr ⟨_, verifyItem_sortKeys hform hcheck, bind_ok.mpr ⟨_, ih hrest, rfl⟩⟩

variable [Cryptography]

omit [FloatText] in
theorem verifySignature_sortKeys (record issuer : Dict) (trustedPublicKey : ByteArray) :
    form.verifySignature record.sortKeys issuer.sortKeys trustedPublicKey = form.verifySignature record issuer trustedPublicKey := by
  have hpayload (unsigned : Dict) (fingerprint : String) :
      canonicalJson (unsigned.sortKeys.insert "payload_sha256" (.str fingerprint)).toVal =
        canonicalJson (unsigned.insert "payload_sha256" (.str fingerprint)).toVal := by
    rw [canonicalJson, canonicalJson, ← Val.json_sortKeys, Dict.toVal_sortKeys, Dict.insert_sortKeys _ _ rfl, ← Dict.toVal_sortKeys,
      Val.json_sortKeys]
  unfold verifySignature
  simp only [differs_sortKeys, Dict.filterKeys_sortKeys, ← Dict.toVal_sortKeys, sha256Json_sortKeys, Dict.get_sortKeys, hpayload]
  cases record.get "signature" <;> simp only [Val.sortKeys]

/-- Evidence that is accepted is accepted when it is read back. -/
theorem verify_sortKeys (hform : form.WellFormed) {record : Dict} (hrecord : record.toVal.Readable) {trustedPublicKey : ByteArray}
    {profileId profileFingerprint : String} {verified : VerifiedEvidence}
    (h : form.verify (some record.toVal) trustedPublicKey profileId profileFingerprint = .ok verified) :
    form.verify (some record.sortKeys.toVal) trustedPublicKey profileId profileFingerprint =
      .ok { verified with checks := verified.checks.map fun check => (check.1, check.2.sortKeys) } := by
  obtain ⟨record', hread, h⟩ := bind_ok.mp h
  obtain rfl := Except.ok.inj ((readRecord_toVal record).symm.trans hread)
  obtain ⟨hfields, h⟩ := seq_ok.mp h
  obtain ⟨hidentity, h⟩ := seq_ok.mp h
  obtain ⟨hprofile, h⟩ := seq_ok.mp h
  obtain ⟨hbindings, h⟩ := seq_ok.mp h
  obtain ⟨hfingerprint, h⟩ := seq_ok.mp h
  obtain ⟨⟨issuer, issuerId, reviewerId⟩, hparties, h⟩ := bind_ok.mp h
  obtain ⟨items, hitems, h⟩ := bind_ok.mp h
  obtain ⟨checks, hchecks, h⟩ := bind_ok.mp h
  obtain ⟨fingerprint, hsignature, h⟩ := bind_ok.mp h
  obtain rfl := Except.ok.inj h
  refine bind_ok.mpr ⟨record.sortKeys, readRecord_toVal _, seq_ok.mpr ⟨?_, seq_ok.mpr ⟨?_, seq_ok.mpr ⟨?_, seq_ok.mpr ⟨?_,
    seq_ok.mpr ⟨hfingerprint, bind_ok.mpr ⟨_, parties_sortKeys hrecord hparties, bind_ok.mpr ⟨_, items_sortKeys hrecord hitems,
      bind_ok.mpr ⟨_, verifyItems_sortKeys hform hchecks, bind_ok.mpr ⟨fingerprint, ?_, rfl⟩⟩⟩⟩⟩⟩⟩⟩⟩⟩
  · rwa [Dict.keysAre_sortKeys]
  · rwa [differs_sortKeys, differs_sortKeys, differs_sortKeys]
  · rwa [differs_sortKeys, differs_sortKeys]
  · simpa only [differs_sortKeys] using hbindings
  · exact (verifySignature_sortKeys record issuer trustedPublicKey).trans hsignature

omit [Cryptography] in
theorem readable_exampleEvidence {values : Requirement → Val} {signature : Signature} (hvalues : ∀ r ∈ form.requirements, (values r).Readable) :
    (exampleEvidence form values signature).toVal.Readable := by
  have hrefs : (strList ["ref-1"]).Readable := Val.readableList_iff.mpr (List.forall_mem_map.mpr fun _ _ => trivial)
  have hitems : (Val.list (form.requirements.map fun r => (form.exampleItem values r).toVal)).Readable := by
    refine Val.readableList_iff.mpr (List.forall_mem_map.mpr fun r hr => Val.readable_insert (Val.readable_ofItems ?_) _ trivial)
    simp only [List.forall_mem_append, List.forall_mem_cons]
    refine ⟨⟨⟨trivial, trivial, trivial, nofun⟩, ?_⟩, trivial, hrefs, nofun⟩
    cases form.valued with
    | false => exact nofun
    | true => exact List.forall_mem_singleton.mpr (hvalues r hr)
  have hissuer : (exampleIssuer exampleKey).toVal.Readable :=
    Val.readable_ofItems (by simp only [List.forall_mem_cons]; exact ⟨trivial, trivial, trivial, nofun⟩)
  have hreview : exampleReview.toVal.Readable :=
    Val.readable_ofItems (by simp only [List.forall_mem_cons]; exact ⟨trivial, trivial, trivial, nofun⟩)
  refine Val.readable_ofItems ?_
  simp only [exampleSigned, exampleFields, List.forall_mem_append, List.forall_mem_cons, List.forall_mem_map]
  exact ⟨⟨⟨⟨⟨trivial, trivial, trivial, trivial, trivial, nofun⟩, fun _ _ => trivial⟩, hitems, hissuer, hreview, nofun⟩, trivial, nofun⟩,
    trivial, nofun⟩

omit [Runtime] [Cryptography] in
theorem readable_requiredValues (hform : form.WellFormed) : ∀ r ∈ form.requirements, (requiredValues r).Readable := by
  refine fun r hr => Val.readable_toVal.mpr fun kv hkv => ?_
  have hscalar := hform.scalar r hr kv.1 (List.mem_map_of_mem hkv)
  rw [Dict.get, Dict.mem_items_iff.mp hkv, Option.getD_some] at hscalar
  cases hv : kv.2 with
  | float f => rw [hv] at hscalar; cases hscalar
  | list xs => rw [hv] at hscalar; cases hscalar
  | dict items => rw [hv] at hscalar; cases hscalar
  | _ => trivial

end EvidenceForm

end

end Pmiri
