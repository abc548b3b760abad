import Mathlib
import Pmiri.Deployment.Evidence
import Pmiri.Python.Comprehension
import Pmiri.Python.Sha256

/-!
# What signed evidence says

Evidence that is accepted was signed, field by field, by the holder of the
key, is bound to what it is verified for, and meets each requirement once. The
observed values it requires are compared with `!=`, which does not tell a
number from a float of its value, or `True` from `1`.
-/

namespace Pmiri

open Py

/-! ## Values and their types -/

/-- `type(a) is type(b)` -/
def sameType : Val → Val → Bool
  | .none, .none | .bool _, .bool _ | .int _, .int _ | .float _, .float _ | .str _, .str _ | .list _, .list _
  | .dict _, .dict _ => true
  | _, _ => false

/-- A truth value, an integer or a text. -/
def isScalar : Val → Bool
  | .bool _ | .int _ | .str _ => true
  | _ => false

theorem eq_of_sameType {v e : Val} (he : isScalar e = true) (heq : v.eq e = true) (ht : sameType v e = true) : v = e := by
  cases e with
  | bool b =>
    cases v with
    | bool b' => cases b <;> cases b' <;> simp_all [Val.eq, Val.num?]
    | _ => cases ht
  | int i =>
    cases v with
    | int j => rw [Val.int_eq_int, beq_iff_eq] at heq; rw [heq]
    | _ => cases ht
  | str s => exact Val.eq_str.mp heq
  | _ => cases he

theorem sortKeys_scalar {e : Val} (he : isScalar e = true) : e.sortKeys = e := by
  cases e <;> first | rfl | cases he

theorem eq_scalar_of_sortKeys {v e : Val} (he : isScalar e = true) (h : v.sortKeys = e) : v = e := by
  cases v with
  | list xs =>
    rw [Val.sortKeys] at h
    rw [← h] at he
    cases he
  | dict items =>
    rw [Val.sortKeys] at h
    rw [← h] at he
    cases he
  | _ => exact h

theorem sameType_self {e : Val} : sameType e e = true := by cases e <;> rfl

theorem sameType_of_sortKeys {observed expected : Dict} (hscalar : ∀ k ∈ expected.keys, isScalar (expected.get k) = true)
    (h : observed.sortKeys = expected.sortKeys) : ∀ k ∈ expected.keys, sameType (observed.get k) (expected.get k) = true := by
  intro k hk
  have hget := congrArg (fun d => Dict.get d k) h
  simp only [Dict.get_sortKeys] at hget
  rw [sortKeys_scalar (hscalar k hk)] at hget
  rw [eq_scalar_of_sortKeys (hscalar k hk) hget, sameType_self]

/-- An object that is `==` to one of scalars is the same if its values have the same types. -/
theorem sortKeys_eq_iff {v : Val} {expected : Dict} (hscalar : ∀ k ∈ expected.keys, isScalar (expected.get k) = true)
    (h : v.eq expected.toVal = true) : ∃ observed, v.asDict = some observed ∧
      (observed.sortKeys = expected.sortKeys ↔ ∀ k ∈ expected.keys, sameType (observed.get k) (expected.get k) = true) := by
  cases v with
  | dict items =>
    refine ⟨Dict.ofItems items, rfl, sameType_of_sortKeys hscalar, ?_⟩
    · intro htypes
      rw [Dict.toVal, Val.eq, Bool.and_eq_true, Val.eqItems_iff] at h
      have hvalue : ∀ k v, (Dict.ofItems items).get? k = some v → ∃ e, expected.get? k = some e ∧ v.eq e = true := by
        intro k v hv
        obtain ⟨b, hb, hkey, heq⟩ := h.2 (k, v) (Dict.mem_ofItems (Dict.mem_items_iff.mpr hv))
        obtain ⟨k', e⟩ := b
        obtain rfl : k = k' := hkey
        exact ⟨e, Dict.mem_items_iff.mp hb, heq⟩
      refine Dict.sortKeys_congr fun k => ?_
      cases ho : (Dict.ofItems items).get? k with
      | none =>
        cases he : expected.get? k with
        | none => rfl
        | some e =>
          have hk : k ∈ expected.keys := Dict.contains_iff.mp (by rw [Dict.contains, he]; rfl)
          have ht := htypes k hk
          have hs := hscalar k hk
          rw [Dict.get, ho, Dict.get, he, Option.getD_none, Option.getD_some] at ht
          rw [Dict.get, he, Option.getD_some] at hs
          cases e with
          | none => cases hs
          | _ => cases ht
      | some v =>
        obtain ⟨e, he, heq⟩ := hvalue k v ho
        have hk : k ∈ expected.keys := Dict.contains_iff.mp (by rw [Dict.contains, he]; rfl)
        have ht := htypes k hk
        have hs := hscalar k hk
        rw [Dict.get, ho, Dict.get, he, Option.getD_some, Option.getD_some] at ht
        rw [Dict.get, he, Option.getD_some] at hs
        rw [he, eq_of_sameType hs heq ht]
  | _ => cases h

/-! ## What a form requires -/

namespace EvidenceForm

variable (form : EvidenceForm)

/-- An item that is the required one, with values that are equal as JSON values. -/
structure Meets (requirement : Requirement) (item : Dict) : Prop where
  keys : ∀ k, k ∈ item.keys ↔ k ∈ form.itemFields
  checkId : item.get "check_id" = .str requirement.checkId
  assertion : item.get "assertion" = .str requirement.assertion
  result : item.get "result" = .str "READY"
  values : form.valued = true → ∃ observed, (item.get "observed_values").asDict = some observed ∧
    observed.sortKeys = requirement.observedValues.sortKeys

/-- The record that the holder of the key signed, for these inputs, with these items and no others. -/
structure Exact (signed : Dict → Prop) (profileId profileFingerprint : String) (record : Dict) : Prop where
  signed : ∃ payload, signed payload ∧ payload.sortKeys = (record.without "signature").sortKeys
  profileId : record.get "profile_id" = .str profileId
  profileFingerprint : record.get "profile_fingerprint" = .str profileFingerprint
  bindings : ∀ b ∈ form.bindings, record.get b.1 = .str b.2
  items : ∃ xs items, record.get form.itemsField = .list xs ∧ xs.map Val.asDict = items.map some ∧
    List.Forall₂ form.Meets form.requirements items
  parties : ∃ issuer review issuerId reviewerId, (record.get "issuer").asDict = some issuer ∧
    (record.get "independent_review").asDict = some review ∧ issuer.get "principal_id" = .str issuerId ∧
    review.get "reviewer_id" = .str reviewerId ∧ issuerId ≠ "" ∧ reviewerId ≠ "" ∧ issuerId ≠ reviewerId

/-- The observed values of each item have the types of the required ones. -/
def Typed (record : Dict) : Prop :=
  ∀ xs item requirement observed, record.get form.itemsField = .list xs → some item ∈ xs.map Val.asDict →
    requirement ∈ form.requirements → item.get "check_id" = .str requirement.checkId →
    (item.get "observed_values").asDict = some observed →
    ∀ k ∈ requirement.observedValues.keys, sameType (observed.get k) (requirement.observedValues.get k) = true

/-- The requirements are in the order of their distinct ids, and their values are scalars. -/
structure WellFormed : Prop where
  sorted : form.checkIds = form.requirements.map (·.checkId)
  nodup : (form.requirements.map (·.checkId)).Nodup
  scalar : ∀ r ∈ form.requirements, ∀ k ∈ r.observedValues.keys, isScalar (r.observedValues.get k) = true

end EvidenceForm

theorem wellFormed_externalEvidence (authorityFingerprint : String) : (externalEvidence authorityFingerprint).WellFormed := by
  refine ⟨?_, ?_, ?_⟩
  · exact (show Keyed.sortBy id (EXTERNAL_REQUIREMENTS.map (·.checkId)) = EXTERNAL_REQUIREMENTS.map (·.checkId) by decide +kernel)
  · exact (show (EXTERNAL_REQUIREMENTS.map (·.checkId)).Nodup by decide)
  · exact (show ∀ r ∈ EXTERNAL_REQUIREMENTS, ∀ k ∈ r.observedValues.keys, isScalar (r.observedValues.get k) = true by decide +kernel)

theorem wellFormed_finalAcceptanceEvidence (authorityFingerprint readinessReportFingerprint : String) :
    (finalAcceptanceEvidence authorityFingerprint readinessReportFingerprint).WellFormed := by
  refine ⟨?_, ?_, ?_⟩
  · exact (show Keyed.sortBy id (FINAL_ACCEPTANCE_ASSERTIONS.map (·.checkId)) = FINAL_ACCEPTANCE_ASSERTIONS.map (·.checkId) by decide +kernel)
  · exact (show (FINAL_ACCEPTANCE_ASSERTIONS.map (·.checkId)).Nodup by decide)
  · exact (show ∀ r ∈ FINAL_ACCEPTANCE_ASSERTIONS, ∀ k ∈ r.observedValues.keys, isScalar (r.observedValues.get k) = true by decide +kernel)

/-! ## What is accepted -/

namespace EvidenceForm

variable {form : EvidenceForm}

/-- An item that passes its checks. -/
structure Passes (form : EvidenceForm) (requirement : Requirement) (item : Dict) : Prop where
  keys : ∀ k, k ∈ item.keys ↔ k ∈ form.itemFields
  checkId : item.get "check_id" = .str requirement.checkId
  assertion : item.get "assertion" = .str requirement.assertion
  result : item.get "result" = .str "READY"
  values : form.valued = true → (item.get "observed_values").eq requirement.observedValues.toVal = true

theorem identified_ok {item : Dict} {requirement : Requirement} (h : form.identified item = .ok requirement) :
    requirement ∈ form.requirements ∧ item.get "check_id" = .str requirement.checkId ∧
      item.get "assertion" = .str requirement.assertion ∧ item.get "result" = .str "READY" := by
  obtain ⟨known, -, h⟩ := bind_ok.mp h
  split at h
  · rename_i r hr
    obtain ⟨hchecks, h⟩ := seq_ok.mp h
    obtain rfl := Except.ok.inj h
    simp only [raiseIf_ok, Bool.or_eq_false_iff, differs_false] at hchecks
    exact ⟨List.mem_of_find?_eq_some hr, Val.eq_str.mp (by simpa using List.find?_some hr), hchecks.1.2, hchecks.2⟩
  · cases h

theorem parties_ok {record issuer : Dict} {issuerId reviewerId : String} (h : form.parties record = .ok (issuer, issuerId, reviewerId)) :
    ∃ review, (record.get "issuer").asDict = some issuer ∧ (record.get "independent_review").asDict = some review ∧
      issuer.get "principal_id" = .str issuerId ∧ review.get "reviewer_id" = .str reviewerId ∧ issuerId ≠ "" ∧ reviewerId ≠ "" ∧
        issuerId ≠ reviewerId := by
  obtain ⟨issuer', hissuer, h⟩ := bind_ok.mp h
  rw [dictOr_ok] at hissuer
  simp only [seq_ok, raiseIf_ok, Bool.or_eq_false_iff, Bool.not_eq_false'] at h
  obtain ⟨-, ⟨-, hprincipal⟩, h⟩ := h
  obtain ⟨review, hreview, h⟩ := bind_ok.mp h
  rw [dictOr_ok] at hreview
  simp only [seq_ok, raiseIf_ok, Bool.or_eq_false_iff, Bool.not_eq_false'] at h
  obtain ⟨-, ⟨⟨-, hreviewer⟩, -⟩, hdistinct, h⟩ := h
  obtain ⟨a, ha, hprincipal⟩ := Val.isNonemptyStr_iff.mp hprincipal
  obtain ⟨b, hb, hreviewer⟩ := Val.isNonemptyStr_iff.mp hreviewer
  rw [Dict.agrees, hprincipal, hreviewer, Val.str_eq_str, beq_eq_false_iff_ne] at hdistinct
  simp only [hprincipal, hreviewer, Val.strText, pure, Except.pure, Except.ok.injEq, Prod.mk.injEq] at h
  obtain ⟨rfl, rfl, rfl⟩ := h
  exact ⟨review, hissuer, hreview, hprincipal, hreviewer, ha, hb, hdistinct⟩

theorem items_ok {record : Dict} {items : List (Option Dict)} (h : form.items record = .ok items) :
    ∃ xs, record.get form.itemsField = .list xs ∧ items = xs.map Val.asDict ∧
      (items.filterMap fun item => item.map fun d => d.get "check_id") = form.checkIds.map .str := by
  unfold EvidenceForm.items at h
  split at h
  · rename_i xs hxs
    dsimp only at h
    split at h
    · rename_i hids
      obtain rfl := Except.ok.inj h
      exact ⟨xs, hxs, rfl, Val.eqList_str.mp hids⟩
    · cases h
  · cases h

variable [Runtime]

theorem verifyItem_ok {item : Option Dict} {check : String × Dict} (h : form.verifyItem item = .ok check) :
    ∃ d requirement, item = some d ∧ requirement ∈ form.requirements ∧ form.Passes requirement d := by
  cases item with
  | none => cases h
  | some d =>
    obtain ⟨hkeys, h⟩ := seq_ok.mp h
    obtain ⟨requirement, hr, h⟩ := bind_ok.mp h
    obtain ⟨hvalues, h⟩ := seq_ok.mp h
    rw [raiseIf_ok, Bool.not_eq_false', Dict.keysAre_iff] at hkeys
    rw [raiseIf_ok, Bool.and_eq_false_imp] at hvalues
    obtain ⟨hmem, hid, hassertion, hresult⟩ := identified_ok hr
    exact ⟨d, requirement, rfl, hmem, hkeys, hid, hassertion, hresult, fun hv => by simpa using hvalues hv⟩

theorem verifyItems_ok {items : List (Option Dict)} {checks : List (String × Dict)} (h : form.verifyItems items = .ok checks) :
    ∃ ds : List Dict, items = ds.map some ∧ ∀ d ∈ ds, ∃ requirement ∈ form.requirements, form.Passes requirement d := by
  induction items generalizing checks with
  | nil => exact ⟨[], rfl, nofun⟩
  | cons item items ih =>
    obtain ⟨check, hcheck, h⟩ := bind_ok.mp h
    obtain ⟨rest, hrest, -⟩ := bind_ok.mp h
    obtain ⟨ds, rfl, hds⟩ := ih hrest
    obtain ⟨d, requirement, rfl, hmem, hpasses⟩ := verifyItem_ok hcheck
    exact ⟨d :: ds, rfl, List.forall_mem_cons.mpr ⟨⟨requirement, hmem, hpasses⟩, hds⟩⟩

omit [Runtime] in
/-- An item that passes is the required one if its observed values have the required types. -/
theorem Passes.meets_iff {requirement : Requirement} {item : Dict} (h : form.Passes requirement item)
    (hscalar : ∀ k ∈ requirement.observedValues.keys, isScalar (requirement.observedValues.get k) = true) :
    form.Meets requirement item ↔ (form.valued = true → ∀ observed, (item.get "observed_values").asDict = some observed →
      ∀ k ∈ requirement.observedValues.keys, sameType (observed.get k) (requirement.observedValues.get k) = true) := by
  constructor
  · intro hmeets hvalued observed hobserved
    obtain ⟨observed', hobserved', hiff⟩ := sortKeys_eq_iff hscalar (h.values hvalued)
    obtain ⟨observed'', hobserved'', hsame⟩ := hmeets.values hvalued
    obtain rfl := Option.some.inj (hobserved.symm.trans hobserved')
    obtain rfl := Option.some.inj (hobserved.symm.trans hobserved'')
    exact hiff.mp hsame
  · refine fun htypes => ⟨h.keys, h.checkId, h.assertion, h.result, fun hvalued => ?_⟩
    obtain ⟨observed, hobserved, hiff⟩ := sortKeys_eq_iff hscalar (h.values hvalued)
    exact ⟨observed, hobserved, hiff.mpr (htypes hvalued observed hobserved)⟩

omit [Runtime] in
theorem forall₂_of_map_eq {α β γ : Type} {f : α → γ} {g : β → γ} {P : β → α → Prop} {xs : List α} {ys : List β}
    (h : xs.map f = ys.map g) (hP : ∀ x ∈ xs, ∀ y ∈ ys, f x = g y → P y x) : List.Forall₂ P ys xs := by
  induction xs generalizing ys with
  | nil =>
    obtain rfl := List.map_eq_nil_iff.mp h.symm
    exact .nil
  | cons x xs ih =>
    cases ys with
    | nil => cases h
    | cons y ys =>
      rw [List.map_cons, List.map_cons, List.cons.injEq] at h
      refine .cons (hP x List.mem_cons_self y List.mem_cons_self h.1) (ih h.2 fun x' hx y' hy => ?_)
      exact hP x' (List.mem_cons_of_mem _ hx) y' (List.mem_cons_of_mem _ hy)

/-- The items have the ids of the requirements, in their order, and each passes the checks of one of them. -/
theorem passes_items (hform : form.WellFormed) {record : Dict} {items : List (Option Dict)} {checks : List (String × Dict)}
    (hitems : form.items record = .ok items) (hchecks : form.verifyItems items = .ok checks) :
    ∃ (xs : List Val) (ds : List Dict), record.get form.itemsField = .list xs ∧ xs.map Val.asDict = ds.map some ∧
      ds.map (fun d => d.get "check_id") = form.requirements.map (fun r => Val.str r.checkId) ∧
        ∀ d ∈ ds, ∃ requirement ∈ form.requirements, form.Passes requirement d := by
  obtain ⟨xs, hxs, rfl, hids⟩ := items_ok hitems
  obtain ⟨ds, hds, hpasses⟩ := verifyItems_ok hchecks
  refine ⟨xs, ds, hxs, hds, ?_, hpasses⟩
  rw [hds, List.filterMap_map, hform.sorted, List.map_map] at hids
  calc ds.map (fun d => d.get "check_id")
      = ds.filterMap (fun d => some (d.get "check_id")) := (congrFun List.filterMap_eq_map ds).symm
    _ = form.requirements.map (fun r => Val.str r.checkId) := hids

omit [Runtime] in
/-- Requirements are told apart by their ids. -/
theorem WellFormed.unique (hform : form.WellFormed) {r r' : Requirement} (hr : r ∈ form.requirements) (hr' : r' ∈ form.requirements)
    (h : Val.str r.checkId = .str r'.checkId) : r = r' :=
  List.inj_on_of_nodup_map hform.nodup hr hr' (Val.str.inj h)

omit [Runtime] in
/-- What is signed is the record without its signature: the fingerprint it is signed with is the one it holds. -/
theorem signedPayload_sortKeys {record : Dict} {fingerprint : String} (h : record.get "payload_sha256" = .str fingerprint) :
    ((record.filterKeys fun key => ! ["payload_sha256", "signature"].contains key).insert "payload_sha256" (.str fingerprint)).sortKeys =
      (record.without "signature").sortKeys := by
  refine Dict.sortKeys_congr fun k => ?_
  rw [Dict.get?_insert, Dict.without, Dict.get?_filterKeys, Dict.get?_filterKeys]
  by_cases hk : k = "payload_sha256"
  · subst hk
    have hfound : record.get? "payload_sha256" = some (.str fingerprint) := by
      cases hv : record.get? "payload_sha256" with
      | none => rw [Dict.get, hv] at h; cases h
      | some v => rw [Dict.get, hv, Option.getD_some] at h; rw [h]
    rw [if_pos rfl, if_pos (by decide)]
    exact hfound.symm
  · rw [if_neg hk]
    by_cases hs : k = "signature"
    · subst hs
      rfl
    · rw [if_pos (by simp [hk, hs]), if_pos (by simp [hs])]

variable [Cryptography]

theorem verifySignature_ok {record issuer : Dict} {trusted : ByteArray} {fingerprint : String}
    (h : form.verifySignature record issuer trusted = .ok fingerprint) :
    ∃ key signature, ∃ payload : Dict, decodePublicKey trusted = .ok key ∧ payload.sortKeys = (record.without "signature").sortKeys ∧
      (∀ reads, record.toVal.Printed reads → payload.toVal.Printed reads) ∧
        Cryptography.verify key signature (canonicalJson payload.toVal) = true := by
  obtain ⟨key, hkey, h⟩ := bind_ok.mp h
  obtain ⟨-, h⟩ := seq_ok.mp h
  obtain ⟨hpayload, h⟩ := seq_ok.mp h
  rw [raiseIf_ok, differs_false] at hpayload
  split at h
  · split at h
    · cases h
    · rename_i signature _
      obtain ⟨hverify, -⟩ := seq_ok.mp h
      rw [raiseIf_ok, Bool.not_eq_false'] at hverify
      refine ⟨key, signature, _, hkey, signedPayload_sortKeys hpayload, fun reads hprinted => ?_, hverify⟩
      exact Val.printed_insert (Val.printed_filterKeys hprinted _) trivial
  · cases h

variable {reads : String → Rat} {signed : Dict → Prop} {trustedPublicKey : ByteArray} {profileId profileFingerprint : String}

/-- Where every message that the key verifies is a payload that its holder signed, the record is one of them. -/
theorem signed_of_verifySignature {record issuer : Dict} {fingerprint : String} (hprinted : record.toVal.Printed reads)
    (hpayload : ∀ payload, signed payload → payload.toVal.Printed reads)
    (hsigned : ∀ key signature message, decodePublicKey trustedPublicKey = .ok key →
      Cryptography.verify key signature message = true → ∃ payload, signed payload ∧ message = canonicalJson payload.toVal)
    (h : form.verifySignature record issuer trustedPublicKey = .ok fingerprint) :
    ∃ payload, signed payload ∧ payload.sortKeys = (record.without "signature").sortKeys := by
  obtain ⟨key, signature, message, hkey, hmessage, hp, hverify⟩ := verifySignature_ok h
  obtain ⟨payload, hmem, htext⟩ := hsigned key signature _ hkey hverify
  refine ⟨payload, hmem, ?_⟩
  have hsame := Val.json_injective (hpayload payload hmem) (hp reads hprinted) (canonicalJson_inj htext.symm)
  rw [Dict.toVal_sortKeys, Dict.toVal_sortKeys] at hsame
  rw [Dict.toVal_inj hsame, hmessage]

/-- Accepted evidence is exact if its observed values have the required types. -/
theorem exact_iff (hform : form.WellFormed) {file : Option Val} {verified : VerifiedEvidence}
    (hprinted : ∀ record, readRecord file = .ok record → record.toVal.Printed reads)
    (hpayload : ∀ payload, signed payload → payload.toVal.Printed reads)
    (hsigned : ∀ key signature message, decodePublicKey trustedPublicKey = .ok key →
      Cryptography.verify key signature message = true → ∃ payload, signed payload ∧ message = canonicalJson payload.toVal)
    (h : form.verify file trustedPublicKey profileId profileFingerprint = .ok verified) :
    ∃ record, readRecord file = .ok record ∧
      (form.Exact signed profileId profileFingerprint record ↔ (form.valued = true → form.Typed record)) := by
  obtain ⟨record, hrecord, h⟩ := bind_ok.mp h
  simp only [seq_ok, raiseIf_ok, Bool.or_eq_false_iff, differs_false] at h
  obtain ⟨-, -, ⟨hid, hfingerprint⟩, hbindings, -, h⟩ := h
  obtain ⟨⟨issuer, issuerId, reviewerId⟩, hparties, h⟩ := bind_ok.mp h
  obtain ⟨items, hitems, h⟩ := bind_ok.mp h
  obtain ⟨checks, hchecks, h⟩ := bind_ok.mp h
  obtain ⟨fingerprint, hsignature, -⟩ := bind_ok.mp h
  obtain ⟨review, hissuer, hreview, hprincipal, hreviewer, ha, hb, hdistinct⟩ := parties_ok hparties
  obtain ⟨xs, ds, hxs, hds, hids, hpasses⟩ := passes_items hform hitems hchecks
  refine ⟨record, hrecord, fun hexact hvalued => ?_, fun htyped => ?_⟩
  · intro xs' item requirement observed hxs' hitem hr hcheck hobserved
    obtain ⟨xs'', ds', hxs'', hds', hmeets⟩ := hexact.items
    obtain rfl := Val.list.inj (hxs'.symm.trans hxs'')
    rw [hds', List.mem_map_of_injective (Option.some_injective _)] at hitem
    obtain ⟨r, hr', hm⟩ := exists_of_forall₂ hmeets hitem
    obtain rfl := hform.unique hr hr' (hcheck.symm.trans hm.checkId)
    obtain ⟨observed', hobserved', hsame⟩ := hm.values hvalued
    obtain rfl := Option.some.inj (hobserved.symm.trans hobserved')
    exact sameType_of_sortKeys (hform.scalar requirement hr) hsame
  · have hmeets : List.Forall₂ form.Meets form.requirements ds := by
      refine forall₂_of_map_eq hids fun d hd r hr hcheck => ?_
      obtain ⟨r', hr', hp⟩ := hpasses d hd
      obtain rfl := hform.unique hr hr' (hcheck.symm.trans hp.checkId)
      refine (hp.meets_iff (hform.scalar r hr)).mpr fun hvalued observed hobserved => ?_
      refine htyped hvalued xs d r observed hxs ?_ hr hp.checkId hobserved
      rw [hds]
      exact List.mem_map_of_mem hd
    have hbound : ∀ b ∈ form.bindings, record.get b.1 = .str b.2 := fun b hb => by
      simpa using List.any_eq_false.mp hbindings b hb
    exact ⟨signed_of_verifySignature (hprinted record hrecord) hpayload hsigned hsignature, hid, hfingerprint, hbound,
      ⟨xs, ds, hxs, hds, hmeets⟩,
      ⟨issuer, review, issuerId, reviewerId, hissuer, hreview, hprincipal, hreviewer, ha, hb, hdistinct⟩⟩

end EvidenceForm

/-! ## Evidence that is accepted -/

theorem readRecord_toVal (record : Dict) : readRecord (some record.toVal) = .ok record := by
  rw [readRecord, dictOr, Val.asDict_toVal]

namespace EvidenceForm

variable (form : EvidenceForm)

section

variable [Runtime]

def exampleObserved (values : Requirement → Val) (requirement : Requirement) : Dict :=
  .ofItems ([("check_id", .str requirement.checkId), ("assertion", .str requirement.assertion), ("result", .str "READY")] ++
    (if form.valued then [("observed_values", values requirement)] else []) ++
    [("observation", .str "observed"), ("evidence_refs", strList ["ref-1"])])

/-- The item for a requirement, with these observed values. -/
def exampleItem (values : Requirement → Val) (requirement : Requirement) : Dict :=
  (form.exampleObserved values requirement).insert "observed_fingerprint"
    (.str (sha256Json (form.exampleObserved values requirement).toVal))

variable {form} {values : Requirement → Val} {requirement : Requirement}

omit [Runtime] in
theorem keys_exampleObserved : (form.exampleObserved values requirement).keys = form.observedFields := by
  unfold exampleObserved observedFields
  cases form.valued <;> exact Dict.keys_ofItems (by simp)

theorem exampleItem_fields :
    (form.exampleItem values requirement).get "check_id" = .str requirement.checkId ∧
      (form.exampleItem values requirement).get "assertion" = .str requirement.assertion ∧
      (form.exampleItem values requirement).get "result" = .str "READY" ∧
      (form.valued = true → (form.exampleItem values requirement).get "observed_values" = values requirement) ∧
      (form.exampleItem values requirement).get "observation" = .str "observed" ∧
      (form.exampleItem values requirement).get "evidence_refs" = strList ["ref-1"] ∧
      (form.exampleItem values requirement).get "observed_fingerprint" =
        .str (sha256Json (form.exampleObserved values requirement).toVal) := by
  cases hv : form.valued <;> simp [exampleItem, exampleObserved, hv, Dict.ofItems, Dict.get_insert]

theorem keysAre_exampleItem : (form.exampleItem values requirement).keysAre form.itemFields = true := by
  rw [Dict.keysAre_iff]
  intro k
  rw [exampleItem, Dict.mem_keys_insert, keys_exampleObserved, itemFields, List.mem_append, List.mem_singleton, or_comm]

theorem filterKeys_exampleItem :
    (form.exampleItem values requirement).filterKeys form.observedFields.contains = form.exampleObserved values requirement := by
  rw [exampleItem, Dict.filterKeys_insert]
  · exact Dict.filterKeys_self fun k hk => List.contains_iff_mem.mpr (keys_exampleObserved ▸ hk)
  · unfold observedFields
    cases form.valued <;> rfl

theorem verifyItem_exampleItem (hform : form.WellFormed) (hr : requirement ∈ form.requirements)
    (hvalues : form.valued = true → (values requirement).eq requirement.observedValues.toVal = true) :
    form.verifyItem (some (form.exampleItem values requirement)) = .ok (requirement.checkId, form.exampleItem values requirement) := by
  obtain ⟨hid, hassertion, hresult, hobserved, hobservation, hrefs, hfingerprint⟩ :=
    @exampleItem_fields form _ values requirement
  have hidentified : form.identified (form.exampleItem values requirement) = .ok requirement := by
    have hmem : requirement.checkId ∈ form.checkIds := hform.sorted ▸ List.mem_map_of_mem hr
    have hfound : (form.requirements.find? fun r => (Val.str requirement.checkId).eq (.str r.checkId)) = some requirement := by
      cases hf : form.requirements.find? fun r => (Val.str requirement.checkId).eq (.str r.checkId) with
      | none => exact absurd (Val.eq_str.mpr rfl) (List.find?_eq_none.mp hf requirement hr)
      | some r =>
        have hid' := List.find?_some hf
        rw [hform.unique hr (List.mem_of_find?_eq_some hf) (Val.eq_str.mp hid')]
    simp only [identified, hid, Val.isIn, hfound, differs_false.mpr hassertion, differs_false.mpr hresult, List.contains_iff_mem.mpr hmem]
    rfl
  have hval : (form.valued && !((form.exampleItem values requirement).get "observed_values").eq requirement.observedValues.toVal) = false := by
    cases hv : form.valued with
    | false => rfl
    | true => rw [hobserved hv, hvalues hv]; rfl
  refine seq_ok.mpr ⟨?_, bind_ok.mpr ⟨requirement, hidentified, seq_ok.mpr ⟨raiseIf_ok.mpr hval, ?_⟩⟩⟩
  · rw [keysAre_exampleItem]
    rfl
  · rw [hrefs, hobservation, filterKeys_exampleItem, differs_false.mpr hfingerprint]
    rfl

theorem verifyItems_exampleItems (hform : form.WellFormed) {requirements : List Requirement} (hr : ∀ r ∈ requirements, r ∈ form.requirements)
    (hvalues : form.valued = true → ∀ r ∈ requirements, (values r).eq r.observedValues.toVal = true) :
    ∃ checks, form.verifyItems (requirements.map fun r => some (form.exampleItem values r)) = .ok checks := by
  induction requirements with
  | nil => exact ⟨[], rfl⟩
  | cons r requirements ih =>
    obtain ⟨checks, hchecks⟩ := ih (fun r' h => hr r' (List.mem_cons_of_mem _ h)) fun hv r' h => hvalues hv r' (List.mem_cons_of_mem _ h)
    have hitem := verifyItem_exampleItem hform (hr r List.mem_cons_self) fun hv => hvalues hv r List.mem_cons_self
    exact ⟨_, bind_ok.mpr ⟨_, hitem, bind_ok.mpr ⟨_, hchecks, rfl⟩⟩⟩

variable (form values) (key : ByteArray) (profileId profileFingerprint signature : String)

def exampleIssuer (key : ByteArray) : Dict :=
  .ofItems [("key_id", .str (sha256Bytes key)), ("principal_id", .str "authority-1"), ("role", .str "deployment_authority")]

def exampleReview : Dict :=
  .ofItems [("reviewer_id", .str "reviewer-1"), ("review_result", .str "ACCEPTED"), ("evidence_ref", .str "review-1")]

omit [Runtime] in
/-- Leaving out the last keys of a display. -/
theorem filterKeys_ofItems_append {l l' : List (String × Val)} (h : ((l ++ l').map Prod.fst).Nodup) {p : String → Bool}
    (hp : ∀ k, p k = false ↔ k ∈ l'.map Prod.fst) : (Dict.ofItems (l ++ l')).filterKeys p = .ofItems l := by
  have hl : (l.map Prod.fst).Nodup := by
    rw [List.map_append] at h
    exact h.of_append_left
  refine Dict.ext ?_
  show (Dict.ofItems (l ++ l')).items.filter (fun kv => p kv.1) = (Dict.ofItems l).items
  rw [Dict.ofItems_items h, Dict.ofItems_items hl, List.filter_append]
  have hkept : (l.filter fun kv => p kv.1) = l := List.filter_eq_self.mpr fun kv hkv => by
    rw [List.map_append, List.nodup_append] at h
    by_contra hfalse
    exact h.2.2 kv.1 (List.mem_map_of_mem hkv) kv.1 ((hp kv.1).mp (by simpa using hfalse)) rfl
  have hdropped : (l'.filter fun kv => p kv.1) = [] := List.filter_eq_nil_iff.mpr fun kv hkv => by
    rw [(hp kv.1).mpr (List.mem_map_of_mem hkv)]
    exact Bool.false_ne_true
  rw [hkept, hdropped, List.append_nil]

/-- The fields that are fingerprinted. -/
def exampleFields : List (String × Val) :=
  [("artifact_kind", .str form.artifactKind), ("version", .str form.version), ("status", .str "VERIFIED"),
    ("profile_id", .str profileId), ("profile_fingerprint", .str profileFingerprint)] ++
  form.bindings.map (fun b => (b.1, .str b.2)) ++
  [(form.itemsField, .list (form.requirements.map fun r => (form.exampleItem values r).toVal)),
    ("issuer", (exampleIssuer key).toVal),
    ("independent_review", exampleReview.toVal)]

/-- The fields that are signed. -/
def exampleSigned : List (String × Val) :=
  form.exampleFields values key profileId profileFingerprint ++
    [("payload_sha256", .str (sha256Json (Dict.ofItems (form.exampleFields values key profileId profileFingerprint)).toVal))]

def exampleRecord : Dict :=
  .ofItems (form.exampleSigned values key profileId profileFingerprint ++ [("signature", .str signature)])

variable {form values key profileId profileFingerprint signature}

theorem nodup_exampleRecord (hfields : form.fields.Nodup) :
    ((form.exampleSigned values key profileId profileFingerprint ++ [("signature", Val.str signature)]).map Prod.fst).Nodup := by
  have hkeys : (form.exampleSigned values key profileId profileFingerprint ++ [("signature", Val.str signature)]).map Prod.fst =
      form.fields := by
    simp [exampleSigned, exampleFields, fields, Function.comp_def]
  rw [hkeys]
  exact hfields

theorem items_exampleRecord (hfields : form.fields.Nodup) :
    (form.exampleRecord values key profileId profileFingerprint signature).items =
      form.exampleSigned values key profileId profileFingerprint ++ [("signature", .str signature)] :=
  Dict.ofItems_items (nodup_exampleRecord hfields)

theorem get_exampleRecord (hfields : form.fields.Nodup) {k : String} {v : Val}
    (h : (k, v) ∈ form.exampleSigned values key profileId profileFingerprint ++ [("signature", .str signature)]) :
    (form.exampleRecord values key profileId profileFingerprint signature).get k = v := by
  have hfound : (form.exampleRecord values key profileId profileFingerprint signature).get? k = some v := by
    rw [← Dict.mem_items_iff, items_exampleRecord hfields]
    exact h
  rw [Dict.get, hfound, Option.getD_some]

theorem filterKeys_exampleRecord (hfields : form.fields.Nodup) :
    (form.exampleRecord values key profileId profileFingerprint signature).filterKeys
        (fun k => ! ["payload_sha256", "signature"].contains k) =
      .ofItems (form.exampleFields values key profileId profileFingerprint) := by
  have h := @nodup_exampleRecord form _ values key profileId profileFingerprint signature hfields
  rw [exampleSigned, List.append_assoc] at h
  rw [exampleRecord, exampleSigned, List.append_assoc]
  refine filterKeys_ofItems_append h fun k => ?_
  rw [Bool.not_eq_false', List.contains_iff_mem]
  rfl

theorem parties_exampleRecord (hfields : form.fields.Nodup) :
    form.parties (form.exampleRecord values key profileId profileFingerprint signature) =
      .ok (exampleIssuer key, "authority-1", "reviewer-1") := by
  have hissuer : (form.exampleRecord values key profileId profileFingerprint signature).get "issuer" = (exampleIssuer key).toVal :=
    get_exampleRecord hfields (by simp [exampleSigned, exampleFields])
  have hreview : (form.exampleRecord values key profileId profileFingerprint signature).get "independent_review" =
      exampleReview.toVal := get_exampleRecord hfields (by simp [exampleSigned, exampleFields])
  rw [parties, hissuer, hreview]
  have hkeys : (exampleIssuer key).keysAre ["key_id", "principal_id", "role"] = true :=
    Dict.keysAre_iff.mpr fun k => by rw [exampleIssuer, Dict.keys_ofItems (by simp)]; rfl
  have hreviewKeys : exampleReview.keysAre ["reviewer_id", "review_result", "evidence_ref"] = true :=
    Dict.keysAre_iff.mpr fun k => by rw [exampleReview, Dict.keys_ofItems (by simp)]; rfl
  have hfields : differs (exampleIssuer key) "role" "deployment_authority" = false ∧
      (exampleIssuer key).get "principal_id" = .str "authority-1" ∧ differs exampleReview "review_result" "ACCEPTED" = false ∧
      exampleReview.get "reviewer_id" = .str "reviewer-1" ∧ exampleReview.get "evidence_ref" = .str "review-1" := by
    simp [exampleIssuer, exampleReview, Dict.get_insert, Dict.ofItems]
  obtain ⟨hrole, hprincipal, hresult, hreviewer, href⟩ := hfields
  refine bind_ok.mpr ⟨exampleIssuer key, dictOr_ok.mpr (Val.asDict_toVal _), ?_⟩
  rw [hkeys, hrole, hprincipal]
  refine seq_ok.mpr ⟨rfl, seq_ok.mpr ⟨rfl, bind_ok.mpr ⟨exampleReview, dictOr_ok.mpr (Val.asDict_toVal _), ?_⟩⟩⟩
  rw [hreviewKeys, hresult, hreviewer, href, Dict.agrees, hprincipal, hreviewer]
  rfl

theorem map_asDict_exampleItems {requirements : List Requirement} :
    (requirements.map fun r => (form.exampleItem values r).toVal).map Val.asDict =
      requirements.map fun r => some (form.exampleItem values r) := by
  rw [List.map_map]
  exact List.map_congr_left fun r _ => Val.asDict_toVal _

theorem items_exampleRecord_ok (hform : form.WellFormed) (hfields : form.fields.Nodup) :
    form.items (form.exampleRecord values key profileId profileFingerprint signature) =
      .ok (form.requirements.map fun r => some (form.exampleItem values r)) := by
  have hitems : (form.exampleRecord values key profileId profileFingerprint signature).get form.itemsField =
      .list (form.requirements.map fun r => (form.exampleItem values r).toVal) :=
    get_exampleRecord hfields (by simp [exampleSigned, exampleFields])
  have hids : ((form.requirements.map fun r => some (form.exampleItem values r)).filterMap fun item =>
      item.map fun d => d.get "check_id") = form.checkIds.map .str := by
    rw [List.filterMap_map, hform.sorted, List.map_map]
    calc form.requirements.filterMap ((fun item => item.map fun d => d.get "check_id") ∘ fun r => some (form.exampleItem values r))
        = form.requirements.filterMap (fun r => some (.str r.checkId)) :=
          List.filterMap_congr fun r _ => congrArg some exampleItem_fields.1
      _ = form.requirements.map (Val.str ∘ (·.checkId)) := congrFun List.filterMap_eq_map _
  unfold EvidenceForm.items
  rw [hitems]
  dsimp only
  rw [map_asDict_exampleItems, hids, Val.eqList_refl]
  rfl

variable [Cryptography]

theorem verifySignature_exampleRecord (hfields : form.fields.Nodup) {trustedPublicKey decoded : ByteArray}
    (hkey : decodePublicKey trustedPublicKey = .ok key) (hsignature : decodeSignature signature = some decoded)
    (hverify : Cryptography.verify key decoded
      (canonicalJson (Dict.ofItems (form.exampleSigned values key profileId profileFingerprint)).toVal) = true) :
    form.verifySignature (form.exampleRecord values key profileId profileFingerprint signature) (exampleIssuer key) trustedPublicKey =
      .ok (sha256Json (Dict.ofItems (form.exampleFields values key profileId profileFingerprint)).toVal) := by
  have hpayload : (form.exampleRecord values key profileId profileFingerprint signature).get "payload_sha256" =
      .str (sha256Json (Dict.ofItems (form.exampleFields values key profileId profileFingerprint)).toVal) :=
    get_exampleRecord hfields (by simp [exampleSigned])
  have htext : (form.exampleRecord values key profileId profileFingerprint signature).get "signature" = .str signature :=
    get_exampleRecord hfields (by simp)
  have hid : (exampleIssuer key).get "key_id" = .str (sha256Bytes key) := by simp [exampleIssuer, Dict.get_insert, Dict.ofItems]
  have hsigned : (Dict.ofItems (form.exampleFields values key profileId profileFingerprint)).insert "payload_sha256"
      (.str (sha256Json (Dict.ofItems (form.exampleFields values key profileId profileFingerprint)).toVal)) =
      .ofItems (form.exampleSigned values key profileId profileFingerprint) := by
    rw [exampleSigned, Dict.ofItems, Dict.ofItems, List.foldl_append]
    rfl
  refine bind_ok.mpr ⟨key, hkey, seq_ok.mpr ⟨raiseIf_ok.mpr (differs_false.mpr hid), ?_⟩⟩
  dsimp only
  rw [filterKeys_exampleRecord hfields, htext, hsigned, differs_false.mpr hpayload]
  dsimp only
  rw [hsignature]
  dsimp only
  rw [hverify]
  rfl

/-- The record is accepted, with a signature that verifies. -/
theorem verify_exampleRecord (hform : form.WellFormed) (hfields : form.fields.Nodup) {trustedPublicKey decoded : ByteArray}
    (hvalues : form.valued = true → ∀ r ∈ form.requirements, (values r).eq r.observedValues.toVal = true)
    (hfingerprint : isHex 64 profileFingerprint = true) (hbindings : ∀ b ∈ form.bindings, isHex 64 b.2 = true)
    (hkey : decodePublicKey trustedPublicKey = .ok key) (hsignature : decodeSignature signature = some decoded)
    (hverify : Cryptography.verify key decoded
      (canonicalJson (Dict.ofItems (form.exampleSigned values key profileId profileFingerprint)).toVal) = true) :
    ∃ verified, form.verify (some (form.exampleRecord values key profileId profileFingerprint signature).toVal) trustedPublicKey
      profileId profileFingerprint = .ok verified := by
  have hkeys : (form.exampleRecord values key profileId profileFingerprint signature).keysAre form.fields = true := by
    rw [Dict.keysAre_iff]
    intro k
    rw [Dict.keys, items_exampleRecord hfields]
    simp [exampleSigned, exampleFields, fields, Function.comp_def]
  have hbound : (form.bindings.any fun b => differs (form.exampleRecord values key profileId profileFingerprint signature) b.1 b.2) = false := by
    rw [List.any_eq_false]
    intro b hb
    rw [Bool.not_eq_true, differs_false]
    refine get_exampleRecord hfields (List.mem_append_left _ (List.mem_append_left _ (List.mem_append_left _ (List.mem_append_right _ ?_))))
    exact List.mem_map_of_mem hb
  have hhex : (isHex 64 profileFingerprint && form.bindings.all fun b => isHex 64 b.2) = true := by
    rw [hfingerprint, Bool.true_and, List.all_eq_true]
    exact hbindings
  obtain ⟨checks, hchecks⟩ := verifyItems_exampleItems hform (fun r hr => hr) hvalues
  have hfp := verifySignature_exampleRecord hfields hkey hsignature hverify
  have hnamed : ∀ {k : String} {v : String}, (k, Val.str v) ∈ form.exampleFields values key profileId profileFingerprint →
      differs (form.exampleRecord values key profileId profileFingerprint signature) k v = false := fun h =>
    differs_false.mpr (get_exampleRecord hfields (by simp [exampleSigned, h]))
  have hread : readRecord (some (form.exampleRecord values key profileId profileFingerprint signature).toVal) =
      .ok (form.exampleRecord values key profileId profileFingerprint signature) := readRecord_toVal _
  refine ⟨⟨_, checks, "authority-1", "reviewer-1"⟩, bind_ok.mpr ⟨_, hread, seq_ok.mpr ⟨?_, seq_ok.mpr ⟨?_, seq_ok.mpr ⟨?_,
    seq_ok.mpr ⟨?_, seq_ok.mpr ⟨?_, bind_ok.mpr ⟨_, parties_exampleRecord hfields, bind_ok.mpr ⟨_,
      items_exampleRecord_ok hform hfields, bind_ok.mpr ⟨checks, hchecks, bind_ok.mpr ⟨_, hfp, rfl⟩⟩⟩⟩⟩⟩⟩⟩⟩⟩⟩
  · rw [hkeys]
    rfl
  · rw [hnamed, hnamed, hnamed]
    · rfl
    all_goals simp [exampleFields]
  · rw [hnamed, hnamed]
    · rfl
    all_goals simp [exampleFields]
  · rw [hbound]
    rfl
  · rw [hhex]
    rfl

end

end EvidenceForm

/-! ## Exactness -/

section

variable [Runtime] [Cryptography]

/-- Where the key verifies nothing but what its holder signed, accepted evidence is exact, the final evidence if and only if its
observed values have the types of the required ones. -/
theorem signedEvidence_exact_iff (file : Option Val) (trustedPublicKey : ByteArray)
    (profileId profileFingerprint authorityFingerprint readinessReportFingerprint : String) (reads : String → Rat)
    (signed : Dict → Prop) (hprinted : ∀ record, readRecord file = .ok record → record.toVal.Printed reads)
    (hpayload : ∀ payload, signed payload → payload.toVal.Printed reads)
    (hsigned : ∀ key signature message, decodePublicKey trustedPublicKey = .ok key →
      Cryptography.verify key signature message = true → ∃ payload, signed payload ∧ message = canonicalJson payload.toVal) :
    (∀ verified, verifyExternalEvidence file trustedPublicKey profileId profileFingerprint authorityFingerprint = .ok verified →
      ∃ record, readRecord file = .ok record ∧
        (externalEvidence authorityFingerprint).Exact signed profileId profileFingerprint record) ∧
    (∀ verified, verifyFinalAcceptanceEvidence file trustedPublicKey profileId profileFingerprint authorityFingerprint
        readinessReportFingerprint = .ok verified → ∃ record, readRecord file = .ok record ∧
      ((finalAcceptanceEvidence authorityFingerprint readinessReportFingerprint).Exact signed profileId profileFingerprint record ↔
        (finalAcceptanceEvidence authorityFingerprint readinessReportFingerprint).Typed record)) := by
  refine ⟨fun verified h => ?_, fun verified h => ?_⟩
  · obtain ⟨record, hrecord, hiff⟩ :=
      EvidenceForm.exact_iff (wellFormed_externalEvidence authorityFingerprint) hprinted hpayload hsigned h
    exact ⟨record, hrecord, hiff.mpr nofun⟩
  · obtain ⟨record, hrecord, hiff⟩ := EvidenceForm.exact_iff
      (wellFormed_finalAcceptanceEvidence authorityFingerprint readinessReportFingerprint) hprinted hpayload hsigned h
    exact ⟨record, hrecord, hiff.trans ⟨fun htyped => htyped rfl, fun htyped _ => htyped⟩⟩

end

/-! A key, and what it signed. -/

namespace EvidenceForm

def exampleKey : ByteArray := ⟨#[
  0xd7, 0x5a, 0x98, 0x01, 0x82, 0xb1, 0x0a, 0xb7, 0xd5, 0x4b, 0xfe, 0xd3, 0xc9, 0x64, 0x07, 0x3a,
  0x0e, 0xe1, 0x72, 0xf3, 0xda, 0xa6, 0x23, 0x25, 0xaf, 0x02, 0x1a, 0x68, 0xf7, 0x07, 0x51, 0x1a]⟩

def exampleFingerprint : String := "0000000000000000000000000000000000000000000000000000000000000000"

/-- A signature, as text and as it is decoded. -/
structure Signature where
  text : String
  decoded : ByteArray
  decodes : decodeSignature text = some decoded

/-- Of the external evidence. -/
def exampleExternalSignature : Signature where
  text := "bSo7ySsX4zoMj8lXOAW9dr2dJskKHC4CrfqylBuN8zNbieY/s+6epJqkjMp80t/90UirtH+KnhMhF24Rz1lbDQ=="
  decoded := ⟨#[
    0x6d, 0x2a, 0x3b, 0xc9, 0x2b, 0x17, 0xe3, 0x3a, 0x0c, 0x8f, 0xc9, 0x57, 0x38, 0x05, 0xbd, 0x76,
    0xbd, 0x9d, 0x26, 0xc9, 0x0a, 0x1c, 0x2e, 0x02, 0xad, 0xfa, 0xb2, 0x94, 0x1b, 0x8d, 0xf3, 0x33,
    0x5b, 0x89, 0xe6, 0x3f, 0xb3, 0xee, 0x9e, 0xa4, 0x9a, 0xa4, 0x8c, 0xca, 0x7c, 0xd2, 0xdf, 0xfd,
    0xd1, 0x48, 0xab, 0xb4, 0x7f, 0x8a, 0x9e, 0x13, 0x21, 0x17, 0x6e, 0x11, 0xcf, 0x59, 0x5b, 0x0d]⟩
  decodes := by decide +kernel

/-- Of the final evidence. -/
def exampleFinalSignature : Signature where
  text := "WPRhN8dQkPLFAjN6N+IofEM9HrH79FGYf+9nT4pw5jGW6U8WLrJEjVaUQ3CKVGC/2bPJ//3VIhlALFfv6UvjAw=="
  decoded := ⟨#[
    0x58, 0xf4, 0x61, 0x37, 0xc7, 0x50, 0x90, 0xf2, 0xc5, 0x02, 0x33, 0x7a, 0x37, 0xe2, 0x28, 0x7c,
    0x43, 0x3d, 0x1e, 0xb1, 0xfb, 0xf4, 0x51, 0x98, 0x7f, 0xef, 0x67, 0x4f, 0x8a, 0x70, 0xe6, 0x31,
    0x96, 0xe9, 0x4f, 0x16, 0x2e, 0xb2, 0x44, 0x8d, 0x56, 0x94, 0x43, 0x70, 0x8a, 0x54, 0x60, 0xbf,
    0xd9, 0xb3, 0xc9, 0xff, 0xfd, 0xd5, 0x22, 0x19, 0x40, 0x2c, 0x57, 0xef, 0xe9, 0x4b, 0xe3, 0x03]⟩
  decodes := by decide +kernel

/-- Of the final evidence with 34.0 scenarios. -/
def exampleFloatSignature : Signature where
  text := "jpGRZr7NyW8Nplya4zIfe95euf5Nqu/o47NYV/y0B0T+YvCatJXuAQNW1H3nyAVNPZVhj86bh0kzPrkgu7RSBA=="
  decoded := ⟨#[
    0x8e, 0x91, 0x91, 0x66, 0xbe, 0xcd, 0xc9, 0x6f, 0x0d, 0xa6, 0x5c, 0x9a, 0xe3, 0x32, 0x1f, 0x7b,
    0xde, 0x5e, 0xb9, 0xfe, 0x4d, 0xaa, 0xef, 0xe8, 0xe3, 0xb3, 0x58, 0x57, 0xfc, 0xb4, 0x07, 0x44,
    0xfe, 0x62, 0xf0, 0x9a, 0xb4, 0x95, 0xee, 0x01, 0x03, 0x56, 0xd4, 0x7d, 0xe7, 0xc8, 0x05, 0x4d,
    0x3d, 0x95, 0x61, 0x8f, 0xce, 0x9b, 0x87, 0x49, 0x33, 0x3e, 0xb9, 0x20, 0xbb, 0xb4, 0x52, 0x04]⟩
  decodes := by decide +kernel

section

variable [Runtime] (form : EvidenceForm) (values : Requirement → Val) (signature : Signature)

/-- What is signed. -/
def examplePayload : Dict := .ofItems (form.exampleSigned values exampleKey "profile-1" exampleFingerprint)

def exampleEvidence : Dict := form.exampleRecord values exampleKey "profile-1" exampleFingerprint signature.text

/-- The key has signed the one payload. -/
@[reducible] def exampleCryptography : Cryptography where
  verify key decoded message := decide (key = exampleKey ∧ decoded = signature.decoded ∧
    message = canonicalJson (examplePayload form values).toVal)
  loadPemPublicKey _ := .error (.valueError "ValueError" "Unable to load PEM file.")

variable {form values signature}

omit [Runtime] in
theorem decodePublicKey_exampleKey [Cryptography] : decodePublicKey exampleKey = .ok exampleKey := by
  have hempty : exampleKey.isEmpty = false := by decide
  have hpem : "-----BEGIN".toUTF8.toList.isPrefixOf exampleKey.toList = false := by decide +kernel
  have hsize : exampleKey.size = 32 := by decide
  rw [decodePublicKey, hempty, hpem, if_pos hsize]
  rfl

theorem verify_exampleEvidence (hform : form.WellFormed) (hfields : form.fields.Nodup)
    (hvalues : form.valued = true → ∀ r ∈ form.requirements, (values r).eq r.observedValues.toVal = true)
    (hbindings : ∀ b ∈ form.bindings, b.2 = exampleFingerprint) :
    let := exampleCryptography form values signature
    ∃ verified, form.verify (some (exampleEvidence form values signature).toVal) exampleKey "profile-1" exampleFingerprint =
      .ok verified := by
  let := exampleCryptography form values signature
  have hhex : isHex 64 exampleFingerprint = true := by decide +kernel
  exact verify_exampleRecord hform hfields hvalues hhex (fun b hb => (hbindings b hb).symm ▸ hhex) decodePublicKey_exampleKey
    signature.decodes (decide_eq_true ⟨rfl, rfl, rfl⟩)

/-- The key verifies nothing but the payload. -/
theorem signed_examplePayload :
    let := exampleCryptography form values signature
    ∀ key decoded message, decodePublicKey exampleKey = .ok key → Cryptography.verify key decoded message = true →
      ∃ payload, payload = examplePayload form values ∧ message = canonicalJson payload.toVal :=
  fun _ _ _ _ h => ⟨_, rfl, (of_decide_eq_true h).2.2⟩

theorem printed_exampleItem {reads : String → Rat} {r : Requirement} (hvalue : (values r).Printed reads) :
    (form.exampleItem values r).toVal.Printed reads := by
  refine Val.printed_insert (Val.printed_ofItems ?_) trivial
  simp only [List.forall_mem_append, List.forall_mem_cons]
  refine ⟨⟨⟨trivial, trivial, trivial, nofun⟩, ?_⟩, trivial, ⟨trivial, trivial⟩, nofun⟩
  cases form.valued with
  | false => exact nofun
  | true => exact List.forall_mem_singleton.mpr hvalue

theorem printed_exampleSigned {reads : String → Rat} (hvalues : ∀ r ∈ form.requirements, (values r).Printed reads) :
    ∀ kv ∈ form.exampleSigned values exampleKey "profile-1" exampleFingerprint, kv.2.Printed reads := by
  have hitems : (Val.list (form.requirements.map fun r => (form.exampleItem values r).toVal)).Printed reads :=
    Val.printedList_iff.mpr (List.forall_mem_map.mpr fun r hr => printed_exampleItem (hvalues r hr))
  have hissuer : (exampleIssuer exampleKey).toVal.Printed reads :=
    Val.printed_ofItems (by simp only [List.forall_mem_cons]; exact ⟨trivial, trivial, trivial, nofun⟩)
  have hreview : exampleReview.toVal.Printed reads :=
    Val.printed_ofItems (by simp only [List.forall_mem_cons]; exact ⟨trivial, trivial, trivial, nofun⟩)
  simp only [exampleSigned, exampleFields, List.forall_mem_append, List.forall_mem_cons, List.forall_mem_map]
  exact ⟨⟨⟨⟨trivial, trivial, trivial, trivial, trivial, nofun⟩, fun _ _ => trivial⟩, hitems, hissuer, hreview, nofun⟩, trivial, nofun⟩

theorem printed_examplePayload {reads : String → Rat} (hvalues : ∀ r ∈ form.requirements, (values r).Printed reads) :
    ∀ payload, payload = examplePayload form values → payload.toVal.Printed reads := by
  rintro _ rfl
  exact Val.printed_ofItems (printed_exampleSigned hvalues)

theorem printed_exampleEvidence {reads : String → Rat} (hvalues : ∀ r ∈ form.requirements, (values r).Printed reads) :
    ∀ record, readRecord (some (exampleEvidence form values signature).toVal) = .ok record → record.toVal.Printed reads := by
  intro record h
  rw [readRecord_toVal] at h
  obtain rfl := Except.ok.inj h
  refine Val.printed_ofItems (List.forall_mem_append.mpr ⟨printed_exampleSigned hvalues, List.forall_mem_singleton.mpr trivial⟩)

end

variable {form : EvidenceForm}

/-- The values that are required. -/
def requiredValues (requirement : Requirement) : Val := requirement.observedValues.toVal

theorem printed_requiredValues (hform : form.WellFormed) {reads : String → Rat} :
    ∀ r ∈ form.requirements, (requiredValues r).Printed reads := by
  intro r hr
  refine Val.printed_toVal.mpr fun kv hkv => ?_
  have hscalar := hform.scalar r hr kv.1 (List.mem_map_of_mem hkv)
  rw [Dict.get, Dict.mem_items_iff.mp hkv, Option.getD_some] at hscalar
  cases hv : kv.2 with
  | float f => rw [hv] at hscalar; cases hscalar
  | list xs => rw [hv] at hscalar; cases hscalar
  | dict items => rw [hv] at hscalar; cases hscalar
  | _ => trivial

/-- The values that are required, with 34.0 scenarios. -/
def floatValues (requirement : Requirement) : Val :=
  if requirement.checkId = "FA-02" then (requirement.observedValues.insert "scenario_count" (.float ⟨"34.0", 34, by decide⟩)).toVal
  else requirement.observedValues.toVal

theorem floatValues_eq : ∀ r ∈ FINAL_ACCEPTANCE_ASSERTIONS, (floatValues r).eq r.observedValues.toVal = true := by
  decide +kernel

/-- How the one float is read. -/
def exampleReads (number : String) : Rat := if number = "34.0" then 34 else 0

theorem printed_floatValues {authorityFingerprint readinessReportFingerprint : String} :
    ∀ r ∈ (finalAcceptanceEvidence authorityFingerprint readinessReportFingerprint).requirements, (floatValues r).Printed exampleReads := by
  have hfloat : (Val.float ⟨"34.0", 34, by decide⟩).Printed exampleReads := by
    refine ⟨List.all_iff_forall_prop.mp (by decide +kernel), fun i h => ?_, by decide +kernel⟩
    have hpoint : '.' ∈ (toString i).toList := by
      rw [h]
      decide +kernel
    exact absurd (mem_toString hpoint) (by decide)
  intro r hr
  have hrequired : (requiredValues r).Printed exampleReads := printed_requiredValues (wellFormed_finalAcceptanceEvidence _ _) r hr
  rw [floatValues]
  split
  · exact Val.printed_insert hrequired hfloat
  · exact hrequired

theorem floatValues_type : ∀ r ∈ FINAL_ACCEPTANCE_ASSERTIONS, r.checkId = "FA-02" → "scenario_count" ∈ r.observedValues.keys ∧
    sameType (.float ⟨"34.0", 34, by decide⟩) (r.observedValues.get "scenario_count") = false := by decide +kernel

/-- A float is not of the required type. -/
theorem not_meets_floatValues [Runtime] {authorityFingerprint readinessReportFingerprint : String} {requirement : Requirement}
    (hid : requirement.checkId = "FA-02") (hr : requirement ∈ FINAL_ACCEPTANCE_ASSERTIONS) :
    ¬ (finalAcceptanceEvidence authorityFingerprint readinessReportFingerprint).Meets requirement
      ((finalAcceptanceEvidence authorityFingerprint readinessReportFingerprint).exampleItem floatValues requirement) := by
  intro hmeets
  obtain ⟨observed, hobserved, hsame⟩ := hmeets.values rfl
  rw [exampleItem_fields.2.2.2.1 rfl, floatValues, if_pos hid, Val.asDict_toVal] at hobserved
  obtain rfl := Option.some.inj hobserved
  obtain ⟨hkey, htype⟩ := floatValues_type requirement hr hid
  have hscalar := (wellFormed_finalAcceptanceEvidence authorityFingerprint readinessReportFingerprint).scalar requirement hr
  have hsameType := sameType_of_sortKeys hscalar hsame "scenario_count" hkey
  rw [Dict.get_insert_self, htype] at hsameType
  cases hsameType

end EvidenceForm

open EvidenceForm

/-- Final evidence with 34.0 scenarios is accepted. -/
theorem float_evidence_accepted :
    letI := asciiRuntime
    letI form := finalAcceptanceEvidence exampleFingerprint exampleFingerprint
    letI := exampleCryptography form floatValues exampleFloatSignature
    letI record := exampleEvidence form floatValues exampleFloatSignature
    (∀ key signature message, decodePublicKey exampleKey = .ok key → Cryptography.verify key signature message = true →
      ∃ payload, payload = examplePayload form floatValues ∧ message = canonicalJson payload.toVal) ∧
    (∃ verified, verifyFinalAcceptanceEvidence (some record.toVal) exampleKey "profile-1" exampleFingerprint exampleFingerprint
      exampleFingerprint = .ok verified) ∧
    readRecord (some record.toVal) = .ok record ∧ record.toVal.Printed exampleReads ∧
    ¬ form.Exact (fun payload => payload = examplePayload form floatValues) "profile-1" exampleFingerprint record := by
  let := asciiRuntime
  let form := finalAcceptanceEvidence exampleFingerprint exampleFingerprint
  let := exampleCryptography form floatValues exampleFloatSignature
  have hfields : form.fields.Nodup := by decide
  refine ⟨signed_examplePayload, verify_exampleEvidence (wellFormed_finalAcceptanceEvidence _ _) hfields (fun _ => floatValues_eq) ?_,
    readRecord_toVal _, ?_, fun hexact => ?_⟩
  · exact List.forall_mem_cons.mpr ⟨rfl, List.forall_mem_singleton.mpr rfl⟩
  · exact printed_exampleEvidence printed_floatValues _ (readRecord_toVal _)
  · obtain ⟨xs, items, hxs, hitems, hmeets⟩ := hexact.items
    have hlist : (exampleEvidence form floatValues exampleFloatSignature).get form.itemsField =
        .list (form.requirements.map fun r => (form.exampleItem floatValues r).toVal) :=
      get_exampleRecord hfields (by simp [exampleSigned, exampleFields])
    obtain rfl := Val.list.inj (hxs.symm.trans hlist)
    have hdicts : items = form.requirements.map (form.exampleItem floatValues) := by
      refine List.map_injective_iff.mpr (Option.some_injective _) (hitems.symm.trans ?_)
      rw [map_asDict_exampleItems, List.map_map]
      rfl
    rw [hdicts] at hmeets
    exact not_meets_floatValues rfl List.mem_cons_self (List.forall₂_cons.mp hmeets).1

/-- The two kinds of evidence, accepted and exact. -/
theorem signedEvidence_exact_iff_example :
    letI := asciiRuntime
    letI external := externalEvidence exampleFingerprint
    letI final := finalAcceptanceEvidence exampleFingerprint exampleFingerprint
    letI externalRecord := exampleEvidence external requiredValues exampleExternalSignature
    letI finalRecord := exampleEvidence final requiredValues exampleFinalSignature
    (letI _ := exampleCryptography external requiredValues exampleExternalSignature
      ∃ verified record, verifyExternalEvidence (some externalRecord.toVal) exampleKey "profile-1" exampleFingerprint exampleFingerprint =
        .ok verified ∧ external.Exact (fun payload => payload = examplePayload external requiredValues) "profile-1" exampleFingerprint record) ∧
    (letI _ := exampleCryptography final requiredValues exampleFinalSignature
      ∃ verified record, verifyFinalAcceptanceEvidence (some finalRecord.toVal) exampleKey "profile-1" exampleFingerprint
        exampleFingerprint exampleFingerprint = .ok verified ∧
        (final.Exact (fun payload => payload = examplePayload final requiredValues) "profile-1" exampleFingerprint record ↔
          final.Typed record)) := by
  let := asciiRuntime
  let external := externalEvidence exampleFingerprint
  let final := finalAcceptanceEvidence exampleFingerprint exampleFingerprint
  have hexternal := wellFormed_externalEvidence exampleFingerprint
  have hfinal := wellFormed_finalAcceptanceEvidence exampleFingerprint exampleFingerprint
  constructor
  · let := exampleCryptography external requiredValues exampleExternalSignature
    obtain ⟨verified, hverified⟩ := @verify_exampleEvidence _ external requiredValues exampleExternalSignature hexternal (by decide)
      nofun (List.forall_mem_singleton.mpr rfl)
    obtain ⟨record, -, hexact⟩ := (signedEvidence_exact_iff (some (exampleEvidence external requiredValues exampleExternalSignature).toVal)
      exampleKey "profile-1" exampleFingerprint exampleFingerprint exampleFingerprint exampleReads
      (fun payload => payload = examplePayload external requiredValues) (printed_exampleEvidence (printed_requiredValues hexternal))
      (printed_examplePayload (printed_requiredValues hexternal)) signed_examplePayload).1 verified hverified
    exact ⟨verified, record, hverified, hexact⟩
  · let := exampleCryptography final requiredValues exampleFinalSignature
    obtain ⟨verified, hverified⟩ := @verify_exampleEvidence _ final requiredValues exampleFinalSignature hfinal (by decide)
      (fun _ r _ => Val.eq_refl _) (List.forall_mem_cons.mpr ⟨rfl, List.forall_mem_singleton.mpr rfl⟩)
    obtain ⟨record, -, hexact⟩ := (signedEvidence_exact_iff (some (exampleEvidence final requiredValues exampleFinalSignature).toVal)
      exampleKey "profile-1" exampleFingerprint exampleFingerprint exampleFingerprint exampleReads
      (fun payload => payload = examplePayload final requiredValues) (printed_exampleEvidence (printed_requiredValues hfinal))
      (printed_examplePayload (printed_requiredValues hfinal)) signed_examplePayload).2 verified hverified
    exact ⟨verified, record, hverified, hexact⟩

end Pmiri
