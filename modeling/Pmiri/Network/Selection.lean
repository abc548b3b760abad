import Pmiri.Network.History

/-!
# The selected target

The address that an accepted binding selects, and the entry of the resolved
addresses that it names. A set of public addresses is checked against the
entry; a mixed set is not.
-/

namespace Pmiri

open Py

/-- The resolved addresses of a record. -/
def resolvedAddresses (record : Dict) : List Dict :=
  match record.get "resolved_addresses" with
  | .list entries => entries.filterMap Val.asDict
  | _ => []

/-- The entry carries the id that the selection names. -/
def selects (s e : Dict) : Bool := (e.get "resolution_entry_id").eq (s.get "resolution_entry_ref")

/-- The selected target names exactly one of the resolved addresses, and is
that address, which is public; without one the resolution set is denied. -/
structure SelectedApproved (record : Dict) : Prop where
  approved : record.get "selected_target" ≠ .none → ∃ s e, (record.get "selected_target").asDict = some s ∧
    (resolvedAddresses record).filter (selects s) = [e] ∧ s.agrees "ip" e "ip" = true ∧
    s.agrees "family" e "family" = true ∧ s.agrees "policy_status" e "policy_status" = true ∧
    e.get "policy_status" = .str "ALLOWLISTED_PUBLIC"
  absent : record.get "selected_target" = .none → record.get "resolution_set_status" = .str "DENIED_MIXED"

/-- What the validator does not ask of a selection: it takes the first entry
with the id that the selection names for the only one, and looks for no entry
at all where the set is mixed. -/
structure SelectionUnchecked (record : Dict) : Prop where
  unique : ∀ s, (record.get "selected_target").asDict = some s → ((resolvedAddresses record).filter (selects s)).length ≤ 1
  mixed : record.get "resolution_set_status" = .str "DENIED_MIXED" →
    ∀ s, (record.get "selected_target").asDict = some s → ∃ e ∈ resolvedAddresses record, selects s e = true ∧
      isPublic e = true ∧ s.agrees "ip" e "ip" = true ∧ s.agrees "family" e "family" = true

/-! ## What the validator accepts -/

theorem checkEntry_ok {entry : Val} {e : Dict} (h : checkEntry entry = .ok e) : entry.asDict = some e := by
  unfold checkEntry at h
  split at h
  · cases h
  · rename_i e' he
    obtain ⟨-, h⟩ := seq_ok.mp h
    obtain ⟨-, h⟩ := seq_ok.mp h
    split at h
    all_goals
      obtain ⟨-, h⟩ := seq_ok.mp h
      obtain rfl : e' = e := Except.ok.inj h
      exact he

/-- The entries that the loop returns are those of the list. -/
theorem checkEntries_ok {entries : List Val} {es : List Dict} (h : checkEntries entries = .ok es) :
    entries.filterMap Val.asDict = es := by
  induction entries generalizing es with
  | nil => exact Except.ok.inj h
  | cons entry rest ih =>
    obtain ⟨e, he, h⟩ := bind_ok.mp h
    obtain ⟨es', hes, h⟩ := bind_ok.mp h
    obtain rfl : e :: es' = es := Except.ok.inj h
    rw [List.filterMap_cons_some (checkEntry_ok he), ih hes]

theorem nonemptyList_ok {v : Val} {message : String} {vs : List Val} (h : nonemptyList v message = .ok vs) : v = .list vs := by
  unfold nonemptyList at h
  split at h
  · rw [Except.ok.inj h]
  · cases h

/-- The entries that the validator goes through are those of the record. -/
theorem resolvedAddresses_of_checked {record : Dict} {message : String} {addresses : List Val} {entries : List Dict}
    (h : nonemptyList (record.get "resolved_addresses") message = .ok addresses) (he : checkEntries addresses = .ok entries) :
    resolvedAddresses record = entries := by
  rw [resolvedAddresses, nonemptyList_ok h]
  exact checkEntries_ok he

/-- A set of public addresses selects the first entry with the id it names. -/
theorem checkSelection_public {entries : List Dict} {selected : Val} (hpublic : entries.all isPublic = true)
    (h : checkSelection entries selected = .ok ()) :
    ∃ s e, selected.asDict = some s ∧ e ∈ entries ∧ selects s e = true ∧ s.agrees "ip" e "ip" = true ∧
      s.agrees "family" e "family" = true ∧ s.agrees "policy_status" e "policy_status" = true := by
  rw [checkSelection, if_pos hpublic] at h
  split at h
  · cases h
  rename_i s hs
  obtain ⟨_, -, h⟩ := bind_ok.mp h
  obtain ⟨-, h⟩ := seq_ok.mp h
  obtain ⟨r, hr, h⟩ := bind_ok.mp h
  have hget : s.get "resolution_entry_ref" = r := by
    unfold Dict.item at hr
    split at hr
    · rename_i v hv
      rw [Dict.get, hv, Option.getD_some, Except.ok.inj hr]
    · cases hr
  split at h
  · cases h
  rename_i e he
  simp only [raiseIf_ok, List.any_cons, List.any_nil, Bool.or_false, Bool.or_eq_false_iff, Bool.not_eq_false'] at h
  have hfound := List.find?_some he
  exact ⟨s, e, hs, List.mem_of_find?_eq_some he, by rw [selects, hget]; exact hfound, h⟩

/-- A mixed set selects nothing, or what calls itself public. -/
theorem checkSelection_mixed {entries : List Dict} {selected : Val} (hmixed : entries.all isPublic = false)
    (h : checkSelection entries selected = .ok ()) :
    selected = .none ∨ ∃ s, selected.asDict = some s ∧ s.get "policy_status" = .str "ALLOWLISTED_PUBLIC" := by
  rw [checkSelection, if_neg (by simp [hmixed])] at h
  split at h
  · exact .inl (Val.isNone_iff.mp ‹_›)
  split at h
  · cases h
  · rename_i s hs
    simp only [seq_ok, raiseIf_ok, Bool.or_eq_false_iff, differs_false] at h
    exact .inr ⟨s, hs, h.1.2⟩

theorem isPublic_iff {e : Dict} : isPublic e = true ↔ e.get "policy_status" = .str "ALLOWLISTED_PUBLIC" := by
  rw [isPublic, Bool.not_eq_true', differs_false]

/-- The only entry that a selection names, found in a list. -/
theorem filter_selects {entries : List Dict} {s e : Dict} (he : e ∈ entries) (hs : selects s e = true)
    (hunique : (entries.filter (selects s)).length ≤ 1) : entries.filter (selects s) = [e] := by
  have hmem : e ∈ entries.filter (selects s) := List.mem_filter.mpr ⟨he, hs⟩
  obtain ⟨e', he'⟩ := List.length_eq_one_iff.mp (le_antisymm hunique (List.length_pos_of_mem hmem))
  rw [he', List.mem_singleton] at hmem
  rw [he', hmem]

section

variable [Runtime]

/-- What an accepted binding says of its resolution. -/
theorem resolution_of_accepted {record : Dict} (h : validateConnectionBinding record = .ok ()) :
    record.get "resolution_set_status" = .str (expectedSetStatus (resolvedAddresses record)) ∧
      checkSelection (resolvedAddresses record) (record.get "selected_target") = .ok () := by
  obtain ⟨-, h⟩ := seq_ok.mp h
  obtain ⟨addresses, haddresses, h⟩ := bind_ok.mp h
  obtain ⟨entries, hentries, h⟩ := bind_ok.mp h
  simp only [seq_ok, raiseIf_ok, differs_false] at h
  obtain ⟨hset, hselection, -⟩ := h
  rw [resolvedAddresses_of_checked haddresses hentries]
  exact ⟨hset, hselection⟩

theorem tls_of_accepted {record : Dict} (h : validateConnectionBinding record = .ok ()) :
    ∃ tls, (record.get "tls").asDict = some tls := by
  obtain ⟨-, h⟩ := seq_ok.mp h
  obtain ⟨addresses, haddresses, h⟩ := bind_ok.mp h
  obtain ⟨entries, hentries, h⟩ := bind_ok.mp h
  simp only [seq_ok] at h
  obtain ⟨-, -, -, htls, -⟩ := h
  unfold checkTls at htls
  split at htls
  · cases htls
  · exact ⟨_, ‹_›⟩

/-- A validated binding has public addresses only. -/
theorem public_of_validated {record : Dict} (h : validateConnectionBinding record = .ok ())
    (hv : record.get "binding_status" = .str "VALIDATED") : (resolvedAddresses record).all isPublic = true := by
  obtain ⟨-, h⟩ := seq_ok.mp h
  obtain ⟨addresses, haddresses, h⟩ := bind_ok.mp h
  obtain ⟨entries, hentries, h⟩ := bind_ok.mp h
  simp only [seq_ok, raiseIf_ok] at h
  obtain ⟨-, -, -, -, h⟩ := h
  obtain ⟨_, -, h⟩ := bind_ok.mp h
  obtain ⟨_, -, h⟩ := bind_ok.mp h
  simp only [seq_ok, raiseIf_ok, Bool.and_eq_false_imp, Bool.not_eq_true', differs_false, Bool.or_eq_false_iff] at h
  obtain ⟨⟨⟨hset, -⟩, -⟩, -⟩ := h.2 hv
  rw [resolvedAddresses_of_checked haddresses hentries]
  rw [expectedSetStatus] at hset
  split at hset
  · assumption
  · simp at hset

/-- The selected target of an accepted binding is one of the approved
addresses exactly if it is on what the validator leaves out. -/
theorem selectedApproved_iff {record : Dict} (h : validateConnectionBinding record = .ok ()) :
    SelectedApproved record ↔ SelectionUnchecked record := by
  obtain ⟨hset, hselection⟩ := resolution_of_accepted h
  constructor
  · intro ha
    refine ⟨fun s hs => ?_, fun _ s hs => ?_⟩
    all_goals
      have hne : record.get "selected_target" ≠ .none := fun hn => by rw [hn] at hs; cases hs
      obtain ⟨s', e, hs', hfilter, hip, hfamily, -, hpublic⟩ := ha.approved hne
      obtain rfl : s' = s := Option.some.inj (hs'.symm.trans hs)
    · rw [hfilter]
      exact le_rfl
    · obtain ⟨he, hselects⟩ := List.mem_filter.mp (hfilter ▸ List.mem_singleton_self e)
      exact ⟨e, he, hselects, isPublic_iff.mpr hpublic, hip, hfamily⟩
  · intro hu
    by_cases hp : (resolvedAddresses record).all isPublic = true
    · obtain ⟨s, e, hs, he, hselects, hip, hfamily, hstatus⟩ := checkSelection_public hp hselection
      refine ⟨fun _ => ⟨s, e, hs, filter_selects he hselects (hu.unique s hs), hip, hfamily, hstatus, ?_⟩, fun hn => ?_⟩
      · exact isPublic_iff.mp (List.all_eq_true.mp hp e he)
      · rw [hn] at hs
        cases hs
    · rw [Bool.not_eq_true] at hp
      have hdenied : record.get "resolution_set_status" = .str "DENIED_MIXED" := by
        rw [hset, expectedSetStatus, hp]
        rfl
      refine ⟨fun hn => ?_, fun _ => hdenied⟩
      rcases checkSelection_mixed hp hselection with hnone | ⟨s, hs, hstatus⟩
      · exact absurd hnone hn
      · obtain ⟨e, he, hselects, hpublic, hip, hfamily⟩ := hu.mixed hdenied s hs
        have hagrees : s.agrees "policy_status" e "policy_status" = true := by
          rw [Dict.agrees, hstatus, isPublic_iff.mp hpublic, Val.eq_refl]
        exact ⟨s, e, hs, filter_selects he hselects (hu.unique s hs), hip, hfamily, hagrees, isPublic_iff.mp hpublic⟩

/-! ## Other selections -/

/-- An accepted record is accepted with every selection that its resolution
accepts. -/
theorem validate_reselect {record s : Dict} (h : validateConnectionBinding record = .ok ())
    (hs : checkSelection (resolvedAddresses record) s.toVal = .ok ()) :
    validateConnectionBinding (resealed record "selected_target" s.toVal) = .ok () := by
  obtain ⟨hheader, h⟩ := seq_ok.mp h
  have hheader' : checkHeader (resealed record "selected_target" s.toVal) = .ok () := checkHeader_resealed (by decide) _ hheader
  have hself : (resealed record "selected_target" s.toVal).get "selected_target" = s.toVal := get_resealed_self (by decide)
  have htls : checkTls (resealed record "selected_target" s.toVal) = checkTls record := by
    simp (disch := decide) only [checkTls, Dict.agrees, get_resealed]
  have hsome : s.toVal.isNone = false := rfl
  obtain ⟨addresses, haddresses, h⟩ := bind_ok.mp h
  obtain ⟨entries, hentries, h⟩ := bind_ok.mp h
  rw [resolvedAddresses_of_checked haddresses hentries] at hs
  simp only [seq_ok, raiseIf_ok] at h
  obtain ⟨hset, -, hproxy, htls', h⟩ := h
  obtain ⟨vs, hvs, h⟩ := bind_ok.mp h
  obtain ⟨events, hevents, h⟩ := bind_ok.mp h
  simp only [seq_ok, raiseIf_ok] at h
  obtain ⟨hepochs, hvalidated⟩ := h
  simp (disch := decide) only [validateConnectionBinding, seq_ok, raiseIf_ok, hheader', get_resealed, haddresses, ok_bind,
    hentries, differs, Dict.agrees, hself, hs, htls, htls', hproxy, hvs, hevents, hsome] at hset hepochs hvalidated ⊢
  refine ⟨hset, hepochs, ?_⟩
  rw [Bool.and_eq_false_imp] at hvalidated ⊢
  intro hv
  have hstate := hvalidated hv
  simp only [Bool.or_eq_false_iff] at hstate ⊢
  exact ⟨⟨⟨hstate.1.1.1, trivial⟩, hstate.1.2⟩, hstate.2⟩

/-- The input of a binding whose host has a public and a private address. -/
def exampleMixedInput : BindingInput where
  endpoint := "https://example.com/"
  addresses := ["93.184.216.34", "10.0.0.1"]
  observedAt := "2026-01-01T00:00:00Z"
  connectionEpoch := 0
  invalidationEpoch := 0

/-- The private address, selected as a public one under an unknown id. -/
def exampleSelection : Dict :=
  .ofItems [
    ("resolution_entry_ref", .str "unknown"),
    ("ip", .str "10.0.0.1"),
    ("family", .str "IPv4"),
    ("policy_status", .str "ALLOWLISTED_PUBLIC")]

omit [Runtime] in
theorem readsBack_private : ReadsBack "10.0.0.1" := by
  have hr : IpAddress.read "10.0.0.1" = some (.v4 167772161) := by decide
  intro p hp
  rw [hr] at hp
  obtain rfl := Option.some.inj hp
  decide

theorem exampleMixed_accepted : validateConnectionBinding (exampleMixedInput.record exampleTarget) = .ok () := by
  have hdest : exampleMixedInput.destination exampleTarget ≠ "" := by
    simp [BindingInput.destination, exampleMixedInput]
  refine exampleMixedInput.validate_record exampleTarget (List.cons_ne_nil _ _) (fun a ha => ?_) ?_ rfl le_rfl le_rfl hdest
    (.inl rfl)
  · rcases List.mem_cons.mp ha with rfl | ha
    · exact readsBack_example
    · rw [List.mem_singleton.mp ha]
      exact readsBack_private
  · rw [authority_example]
    rfl

theorem resolvedAddresses_record (i : BindingInput) (target : NormalizedTarget) :
    resolvedAddresses (i.record target) = i.entries target := by
  rw [resolvedAddresses, (i.record_fields target).2.2.1]
  simp [List.filterMap_map, Val.asDict_toVal]

theorem exampleSelection_accepted :
    checkSelection (resolvedAddresses (exampleMixedInput.record exampleTarget)) exampleSelection.toVal = .ok () := by
  have hmixed : (exampleMixedInput.entries exampleTarget).all isPublic = false := by
    rw [exampleMixedInput.all_isPublic_entries exampleTarget (List.cons_ne_nil _ _)]
    show (!(["93.184.216.34", "10.0.0.1"].isEmpty) && (["93.184.216.34", "10.0.0.1"].map resolutionEntry).all
      (·.policyStatus == "ALLOWLISTED_PUBLIC")) = false
    decide
  have hsome : (exampleMixedInput.entries exampleTarget).all (!isPublic ·) = false := by
    have hfirst : resolutionEntry "93.184.216.34" = ⟨"93.184.216.34", "IPv4", "ALLOWLISTED_PUBLIC"⟩ := by decide
    simp [BindingInput.entries, exampleMixedInput, BindingInput.isPublic_entry, hfirst]
  have hkeys : exampleSelection.keysAre selectionFields = true := Dict.keysAre_iff.mpr fun _ => Dict.mem_keys_ofItems
  have hstatus : exampleSelection.get "policy_status" = .str "ALLOWLISTED_PUBLIC" := by
    simp [exampleSelection, Dict.ofItems]
  rw [resolvedAddresses_record, checkSelection, if_neg (by simp [hmixed]), if_neg (by exact Bool.false_ne_true), Val.asDict_toVal]
  simp only [seq_ok, raiseIf_ok, hkeys, differs, hstatus, Val.eq_refl, hsome]
  exact ⟨rfl, trivial⟩

/-- The mixed binding with that selection. -/
def exampleReselected : Dict := resealed (exampleMixedInput.record exampleTarget) "selected_target" exampleSelection.toVal

theorem selected_reselected : (exampleReselected.get "selected_target").asDict = some exampleSelection := by
  rw [exampleReselected, get_resealed_self (by decide), Val.asDict_toVal]

theorem resolvedAddresses_reselected : resolvedAddresses exampleReselected = exampleMixedInput.entries exampleTarget := by
  rw [resolvedAddresses, exampleReselected, get_resealed (by decide) (by decide), ← resolvedAddresses,
    resolvedAddresses_record]

/-- No entry has the id that the selection names. -/
theorem not_selects {e : Dict} (he : e ∈ exampleMixedInput.entries exampleTarget) : selects exampleSelection e = false := by
  obtain ⟨index, hindex, rfl⟩ := List.mem_mapIdx.mp he
  have hid := (exampleMixedInput.entry_fields exampleTarget index
    ((exampleMixedInput.addresses.map resolutionEntry)[index])).2.2.2
  have href : exampleSelection.get "resolution_entry_ref" = .str "unknown" := by
    simp [exampleSelection, Dict.get_insert, Dict.ofItems]
  rw [selects, hid, href, Val.str_eq_str, beq_eq_false_iff_ne]
  intro h
  have hfirst := congrArg (fun s => s.toList.head?) h
  simp [BindingInput.entryRef] at hfirst

theorem reselected_unapproved : ¬ SelectedApproved exampleReselected := by
  intro ha
  have hsome := selected_reselected
  obtain ⟨s, e, hs, hfilter, -⟩ := ha.approved (fun hn => by rw [hn] at hsome; cases hsome)
  rw [selected_reselected, Option.some.injEq] at hs
  obtain ⟨he, hselects⟩ := List.mem_filter.mp (hfilter ▸ List.mem_singleton_self e)
  rw [resolvedAddresses_reselected] at he
  rw [← hs, not_selects he] at hselects
  cases hselects

omit [Runtime] in
theorem exampleSelection_ip : exampleSelection.get "ip" = .str "10.0.0.1" := by
  simp [exampleSelection, Dict.get_insert, Dict.ofItems]

end

/-- An accepted binding that selects a private address, under an id that no
entry has. -/
theorem accepted_unknown_selection :
    letI := asciiRuntime
    ∃ record s, validateConnectionBinding record = .ok () ∧ (record.get "selected_target").asDict = some s ∧
      s.get "ip" = .str "10.0.0.1" ∧ ¬ SelectedApproved record :=
  let := asciiRuntime
  ⟨exampleReselected, exampleSelection, validate_reselect exampleMixed_accepted exampleSelection_accepted,
    selected_reselected, exampleSelection_ip, reselected_unapproved⟩

theorem selectedApproved_iff_example :
    letI := asciiRuntime
    SelectedApproved ((exampleBindingInput 0).record exampleTarget) ↔
      SelectionUnchecked ((exampleBindingInput 0).record exampleTarget) :=
  let := asciiRuntime
  selectedApproved_iff (exampleBinding_accepted le_rfl).1

end Pmiri
