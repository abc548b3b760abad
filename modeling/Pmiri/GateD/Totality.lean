import Pmiri.GateD.ProviderCall
import Pmiri.Network.Built

/-!
# Every network evaluation that has something to resolve returns

`evaluate_network` evaluates a resolution twice, in `NetworkPolicy` and in the
builder of the connection binding, and validates the decision it puts together
of both. The two agree and the decision is valid, unless a URL normalizes and
the resolver gave no address at all: the reason class of an empty resolution
is not in the vocabulary of reason classes.
-/

namespace Pmiri

open Py

/-! ## Resolutions -/

section

variable [Runtime] [Idna]

/-- What `NetworkPolicy` says of some answers. -/
theorem evaluateResolution_resolved {url : String} {target : NormalizedTarget} (hurl : normalizeUrl url = .ok target)
    {addresses : List String} (hne : addresses ≠ []) :
    ∃ r, evaluateResolution url addresses = .ok r ∧ r.entries = addresses.map resolutionEntry ∧
      (r.resolutionSetStatus = "ALL_ALLOWLISTED_PUBLIC" ∧ (∀ a ∈ addresses, PublicAddress a) ∧
          r.selectedTarget = addresses.head?.map resolutionEntry ∨
        r.resolutionSetStatus = "DENIED_MIXED" ∧ (¬ ∀ a ∈ addresses, PublicAddress a) ∧ r.selectedTarget = none) := by
  obtain ⟨a, rest, rfl⟩ := List.exists_cons_of_ne_nil hne
  have hall : ((a :: rest).map resolutionEntry).all (·.policyStatus == "ALLOWLISTED_PUBLIC") = true ↔
      ∀ b ∈ a :: rest, PublicAddress b := by
    rw [List.all_eq_true, List.forall_mem_map]
    simp only [beq_iff_eq, policyStatus_iff]
  simp only [evaluateResolution, hurl, ok_bind]
  rw [List.map_cons] at hall ⊢
  by_cases hpublic : ∀ b ∈ a :: rest, PublicAddress b
  · exact ⟨_, if_pos (hall.mpr hpublic), rfl, .inl ⟨rfl, hpublic, rfl⟩⟩
  · exact ⟨_, if_neg (fun h => hpublic (hall.mp h)), rfl, .inr ⟨rfl, hpublic, rfl⟩⟩

/-- The empty answer has a reason of its own. -/
theorem evaluateResolution_nil {url : String} {target : NormalizedTarget} (hurl : normalizeUrl url = .ok target) :
    evaluateResolution url [] = .ok ⟨target.safeUrl, [], "DENIED_MIXED", none, "DENY", "DNS_UNVALIDATED"⟩ := by
  simp only [evaluateResolution, hurl, ok_bind, List.map_nil]
  rfl

end

namespace GateDDecisionEngine

/-- The arguments of the claimed domain: words of the vocabularies and no
lifecycle. -/
structure Plain (i : NetworkInput) : Prop where
  operation : i.operation ∈ OPERATIONS
  purpose : i.purpose ∈ PURPOSES
  tls : i.tlsIdentityStatus = "MATCHED" ∨ i.tlsIdentityStatus = "MISMATCHED"
  revalidation : i.finalRevalidationResult = "MATCHED" ∨ i.finalRevalidationResult = "MISMATCHED" ∨
    i.finalRevalidationResult = "DENIED"
  unbound : i.Unbound

section

variable [Runtime] (g : GateDDecisionEngine)

theorem startingLifecycle_unbound {i : NetworkInput} (h : i.Unbound) : startingLifecycle i = .ok "NOT_APPLICABLE" := by
  by_cases hcall : i.operation = "provider_call"
  · simp [startingLifecycle, hcall, h.lifecycle, h.lifecycleRef, h.contentLifecycle, raiseIf, bind, Except.bind, pure,
      Except.pure]
  · simp [startingLifecycle, hcall, h.lifecycle, h.contentLifecycle]

/-- The binding of a plain evaluation is built from legal arguments. -/
theorem bindingInput_legal {i : NetworkInput} (h : Plain i) (hne : i.addresses ≠ []) (f : NetworkFindings) :
    (g.bindingInput i f).Legal where
  addresses := hne
  connectionEpoch := Int.natCast_nonneg _
  invalidationEpoch := Int.natCast_nonneg _
  tlsIdentityStatus := h.tls
  finalRevalidationResult := h.revalidation
  proxy := .inr ⟨.inl rfl, rfl⟩
  destinationIdentityRef := by
    intro he
    have hhead := congrArg (fun s : String => s.toList.head?) (Option.some.inj he)
    simp [ref] at hhead

variable [Idna]

/-- An allow needs every condition at once. -/
def AllowConditions (i : NetworkInput) : Prop :=
  (∃ target, normalizeUrl i.url = .ok target) ∧ i.addresses ≠ [] ∧ (∀ a ∈ i.addresses, PublicAddress a) ∧
    i.tlsIdentityStatus = "MATCHED" ∧ i.finalRevalidationResult = "MATCHED" ∧ g.networkExecutionEnabled = true

/-- The decision of one evaluation: an allow exactly under its conditions, and
a validated connection exactly with an allow. -/
structure Decides (i : NetworkInput) (r : Dict) : Prop where
  action : r.get "action_result" = .str "ALLOW" ∧ g.AllowConditions i ∨
    r.get "action_result" = .str "DENY" ∧ ¬ g.AllowConditions i
  validated : r.get "connection_binding_status" = .str "VALIDATED" ↔ r.get "action_result" = .str "ALLOW"

omit [Runtime] [Idna] in
theorem urlReason_mem (message : String) : urlReason message ∈ REASON_CLASSES := by
  rw [urlReason]
  split_ifs <;> decide

omit [Runtime] [Idna] in
theorem deny_ne : "DENY" ≠ "ALLOW" := by decide

omit [Runtime] [Idna] in
theorem denied_ne : "DENIED" ≠ "VALIDATED" := by decide

/-- A URL that does not normalize is denied. -/
theorem evaluateNetwork_unnormalized {i : NetworkInput} (h : Plain i) {e : Exc} (hurl : normalizeUrl i.url = .error e) :
    ∃ r, g.evaluateNetwork i = .ok r ∧ g.Decides i r := by
  let f : NetworkFindings :=
    ⟨normalizedTarget "invalid" "invalid", "DENIED_MIXED", none, none, "DENIED", "DENY", urlReason e.message⟩
  have hf : g.networkFindings i = .ok f := by rw [networkFindings, hurl]
  have hb : g.networkBinding i f = .ok none := by rw [networkBinding, hurl]
  have hvalid := g.networkRecord_valid (f := f) (c := g.connectionView i f none) h.operation h.purpose h.unbound
    (urlReason_mem _) (.inr rfl) fun ha => absurd ha deny_ne
  refine ⟨_, g.evaluateNetwork_ok.mpr ⟨_, f, none, startingLifecycle_unbound h.unbound, hf, hb, hvalid, rfl⟩, ?_⟩
  have haction := (g.networkRecord_fields i f (g.connectionView i f none) "NOT_APPLICABLE").2.2.1
  have hstatus := (g.networkRecord_transport i f (g.connectionView i f none) "NOT_APPLICABLE").2.2.2.1
  refine ⟨.inr ⟨haction, ?_⟩, ?_⟩
  · rintro ⟨⟨target, ht⟩, -⟩
    rw [hurl] at ht
    cases ht
  · rw [hstatus, haction]
    exact iff_of_false (fun he => denied_ne (Val.str.inj he)) (fun he => deny_ne (Val.str.inj he))

/-- What is found for a URL that normalizes and some answers. -/
theorem networkFindings_resolved {i : NetworkInput} {target : NormalizedTarget} (hurl : normalizeUrl i.url = .ok target)
    (hne : i.addresses ≠ []) :
    ∃ f, g.networkFindings i = .ok f ∧ f.reason ∈ REASON_CLASSES ∧
      (f.action = "ALLOW" ∧ g.AllowConditions i ∧ f.resolutionStatus = "ALL_ALLOWLISTED_PUBLIC" ∨
        f.action = "DENY" ∧ ¬ g.AllowConditions i) := by
  obtain ⟨r, hr, hentries, hset⟩ := evaluateResolution_resolved hurl hne
  refine ⟨_, by rw [networkFindings, hurl]; simp only [hr, ok_bind]; rfl, ?_⟩
  simp only [AllowConditions, hurl, Except.ok.injEq, exists_eq', true_and]
  rcases hset with ⟨hstatus, hpublic, -⟩ | ⟨hstatus, hpublic, -⟩
  · rw [networkVerdict, hstatus]
    by_cases htls : i.tlsIdentityStatus = "MATCHED"
    · by_cases hfinal : i.finalRevalidationResult = "MATCHED"
      · cases hexec : g.networkExecutionEnabled
        · simp [htls, hfinal]
          decide
        · simp only [htls, hfinal, bne_self_eq_false, Bool.not_true, Bool.false_eq_true, ↓reduceIte, ne_eq, hne,
            not_false_eq_true, and_self, and_true]
          exact ⟨by decide, .inl ⟨trivial, trivial, hpublic⟩⟩
      · simp [htls, hfinal]
        decide
    · simp [htls]
      decide
  · have hany : r.entries.any (·.policyStatus != "ALLOWLISTED_PUBLIC") = true := by
      rw [hentries, List.any_map, List.any_eq_true]
      push Not at hpublic
      obtain ⟨a, ha, hprivate⟩ := hpublic
      refine ⟨a, ha, ?_⟩
      rw [Function.comp_apply, bne_iff_ne]
      exact fun he => hprivate ((policyStatus_iff a).mp he)
    rw [networkVerdict, hstatus, hany]
    simp [hpublic]
    decide

/-- Some answers for a URL that normalizes are decided on. -/
theorem evaluateNetwork_resolved {i : NetworkInput} (h : Plain i) {target : NormalizedTarget}
    (hurl : normalizeUrl i.url = .ok target) (hne : i.addresses ≠ []) :
    ∃ r, g.evaluateNetwork i = .ok r ∧ g.Decides i r := by
  obtain ⟨f, hf, hreason, haction⟩ := g.networkFindings_resolved hurl hne
  have hlegal := g.bindingInput_legal h hne f
  let b := (g.bindingInput i f).record target
  have hb : g.networkBinding i f = .ok (some b) := by
    rw [networkBinding, hurl, List.isEmpty_eq_false_iff.mpr hne]
    simp only [Bool.false_eq_true, ↓reduceIte, BindingInput.build_of_legal hlegal hurl]
    rfl
  obtain ⟨-, -, -, -, -, -, -, hevents, -, -, hbinding⟩ := (g.bindingInput i f).record_fields target
  have hlast : lastEvent b = (g.bindingInput i f).event := by
    simp [b, lastEvent, hevents, Val.asDict_toVal]
  have hresult : (g.bindingInput i f).event.get "result" = .str (g.bindingInput i f).verdict.2 := by
    simp [BindingInput.event, Dict.get_insert, Dict.ofItems]
  have hverdict : (g.bindingInput i f).verdict.1 = "VALIDATED" ↔ g.AllowConditions i := by
    rw [BindingInput.verdict_validated_iff hne, AllowConditions]
    simp only [hurl, Except.ok.injEq, exists_eq', true_and, ne_eq, hne, not_false_eq_true]
    rfl
  have hview : (g.connectionView i f (some b)).bindingStatus = .str (g.bindingInput i f).verdict.1 ∧
      (g.connectionView i f (some b)).eventResult = .str (g.bindingInput i f).verdict.2 := by
    simp only [connectionView, hlast, hresult, and_true]
    exact hbinding
  have hvalid := g.networkRecord_valid (f := f) (c := g.connectionView i f (some b)) h.operation h.purpose h.unbound
    hreason (haction.imp And.left And.left) fun ha => by
      rcases haction with ⟨-, hallow, hset⟩ | ⟨hdeny, -⟩
      · have hv := hverdict.mpr hallow
        obtain ⟨-, htls, hmatched⟩ := (g.bindingInput i f).verdict_validated hv
        exact ⟨hset, htls, by rw [hview.1, hv], by rw [hview.2, hmatched]⟩
      · exact absurd (hdeny.symm.trans ha) deny_ne
  refine ⟨_, g.evaluateNetwork_ok.mpr ⟨_, f, some b, startingLifecycle_unbound h.unbound, hf, hb, hvalid, rfl⟩, ?_⟩
  have hrecord := (g.networkRecord_fields i f (g.connectionView i f (some b)) "NOT_APPLICABLE").2.2.1
  have hstatus := (g.networkRecord_transport i f (g.connectionView i f (some b)) "NOT_APPLICABLE").2.2.2.1
  rw [hview.1] at hstatus
  refine ⟨?_, ?_⟩
  · rw [hrecord]
    rcases haction with ⟨ha, hallow, -⟩ | ⟨ha, hallow⟩
    · exact .inl ⟨congrArg Val.str ha, hallow⟩
    · exact .inr ⟨congrArg Val.str ha, hallow⟩
  · rw [hrecord, hstatus, Val.str.injEq, Val.str.injEq, hverdict]
    rcases haction with ⟨ha, hallow, -⟩ | ⟨ha, hallow⟩
    · exact iff_of_true hallow ha
    · exact iff_of_false hallow fun he => deny_ne (ha.symm.trans he)

/-- A URL that normalizes is not decided on without an answer. -/
theorem evaluateNetwork_unresolved {i : NetworkInput} {target : NormalizedTarget} (hurl : normalizeUrl i.url = .ok target)
    (hnil : i.addresses = []) (r : Dict) : g.evaluateNetwork i ≠ .ok r := by
  intro h
  obtain ⟨start, f, b, -, hf, -, hvalid, rfl⟩ := g.evaluateNetwork_ok.mp h
  have hreason : f.reason = "DNS_UNVALIDATED" := by
    rw [networkFindings, hurl] at hf
    simp only [hnil, evaluateResolution_nil hurl, ok_bind] at hf
    cases hf
    rfl
  obtain ⟨x, hx, hget⟩ := hvalid.reason
  have hr : (g.networkRecord i f (g.connectionView i f b) start).get "reason_class" = .str f.reason := by
    simp [networkRecord, lifecycleFields, get_finalize, Dict.get_insert, Dict.ofItems]
  rw [hr, hreason] at hget
  rw [← Val.str.inj hget] at hx
  exact absurd hx (by decide)

end

end GateDDecisionEngine

/-! ## The two evaluators -/

section

variable [Runtime] [Idna]

theorem buildConnectionBinding_ok {i : BindingInput} {record : Dict} (h : buildConnectionBinding i = .ok record) :
    ∃ target, record = i.record target := by
  obtain ⟨target, -, h⟩ := bind_ok.mp h
  simp only [seq_ok] at h
  exact ⟨target, (Except.ok.inj h.2.2.2.2.2.2).symm⟩

/-- The policy and the builder, given one URL and its answers, agree on the set
status and on what is selected: the first answer, or nothing. -/
def ResolutionsAgree (url : String) (addresses : List String) : Prop :=
  ∀ r i record, evaluateResolution url addresses = .ok r → i.endpoint = url → i.addresses = addresses →
    buildConnectionBinding i = .ok record →
    record.get "resolution_set_status" = .str r.resolutionSetStatus ∧
      (r.selectedTarget = none ∧ record.get "selected_target" = .none ∨
        ∃ first, ∃ selected : Dict, addresses.head? = some first ∧ r.selectedTarget = some (resolutionEntry first) ∧
          record.get "selected_target" = selected.toVal ∧ selected.get "ip" = .str (resolutionEntry first).ip)

theorem resolutionsAgree (url : String) (addresses : List String) : ResolutionsAgree url addresses := by
  rintro r i record hr rfl rfl hbuild
  obtain ⟨target, rfl⟩ := buildConnectionBinding_ok hbuild
  obtain ⟨-, -, -, hset, hselected, -⟩ := i.record_fields target
  obtain ⟨t, ht, -⟩ := bind_ok.mp hr
  rw [hset, hselected, BindingInput.resolutionSetStatus]
  rcases haddresses : i.addresses with _ | ⟨a, rest⟩
  · rw [haddresses, evaluateResolution_nil ht] at hr
    obtain rfl := Except.ok.inj hr
    have hpublic : i.allPublic = false := by rw [BindingInput.allPublic, haddresses]; rfl
    rw [hpublic, BindingInput.selected, haddresses]
    exact ⟨rfl, .inl ⟨rfl, rfl⟩⟩
  · have hne : i.addresses ≠ [] := by rw [haddresses]; exact List.cons_ne_nil _ _
    obtain ⟨r', hr', -, hstatus⟩ := evaluateResolution_resolved ht hne
    obtain rfl : r' = r := Except.ok.inj (hr'.symm.trans hr)
    have hfirst : i.selected target =
        if i.allPublic then (BindingInput.selection target (resolutionEntry a)).toVal else .none := by
      rw [BindingInput.selected, haddresses, List.map_cons]
    rw [hfirst]
    rcases hstatus with ⟨hstatus, hpublic, hselect⟩ | ⟨hstatus, hpublic, hselect⟩
    · rw [if_pos ((BindingInput.allPublic_iff hne).mpr hpublic), if_pos ((BindingInput.allPublic_iff hne).mpr hpublic)]
      refine ⟨by rw [hstatus], .inr ⟨a, _, rfl, by rw [hselect, haddresses]; rfl, rfl, ?_⟩⟩
      exact (BindingInput.selection_fields target (resolutionEntry a)).1
    · have hpublic' : i.allPublic = false := by
        rw [← Bool.not_eq_true]
        exact fun h => hpublic ((BindingInput.allPublic_iff hne).mp h)
      rw [hpublic']
      exact ⟨by rw [hstatus]; rfl, .inl ⟨hselect, rfl⟩⟩

end

end Pmiri
