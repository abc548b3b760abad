import Pmiri.GateD.Totality
import Pmiri.Network.AnyBuilt
import Pmiri.Python.Raises

/-!
# Network evaluations of any strings

The URL and the addresses that `evaluate_network` gets may be strings that are
no text. The URL is in the identifier of every decision, also of one that
rejects it; the addresses are in the binding, which is built where the URL
normalizes. Neither has a fingerprint then, and what is raised for that is not
caught.
-/

namespace Pmiri

open Py

/-- What `normalize_url` does with a URL that is no text: the message that it refuses it with, or nothing where it gets as far as
the fingerprint of its parts, which UTF-8 does not encode. -/
class UntextUrl where
  refusal : Str → Option String

section

variable [Runtime] [Idna] [UntextUrl]

/-- `normalize_url` of any string. -/
def normalizeAny (url : Str) : Except Exc NormalizedTarget :=
  if url.isText then normalizeUrl url.text
  else
    match UntextUrl.refusal url with
    | some msg => .error (networkBoundaryError msg)
    | none => .error (.valueError "UnicodeEncodeError" "surrogates not allowed")

theorem normalizeAny_of_isText {url : Str} (h : url.isText = true) : normalizeAny url = normalizeUrl url.text := if_pos h

/-! ## Resolutions -/

structure AnyResolution where
  normalizedTarget : String
  entries : List AnyEntry
  resolutionSetStatus : String
  selectedTarget : Option AnyEntry
  actionResult : String
  reasonClass : String

/-- `NetworkPolicy.evaluate_resolution` of any strings. -/
def evaluateAnyResolution (url : Str) (addresses : List Str) : Except Exc AnyResolution := do
  let target ← normalizeAny url
  let entries := addresses.map anyEntry
  match entries with
  | [] => return ⟨target.safeUrl, [], "DENIED_MIXED", none, "DENY", "DNS_UNVALIDATED"⟩
  | first :: _ =>
    if entries.all (·.policyStatus == "ALLOWLISTED_PUBLIC") then
      return ⟨target.safeUrl, entries, "ALL_ALLOWLISTED_PUBLIC", some first, "DENY", "OUTBOUND_NETWORK_DISABLED"⟩
    else
      return ⟨target.safeUrl, entries, "DENIED_MIXED", none, "DENY", "PRIVATE_OR_UNAPPROVED_ADDRESS"⟩

/-- The entry, where its address is text. -/
def AnyEntry.texts (e : AnyEntry) : ResolutionEntry := ⟨e.ip.text, e.family, e.policyStatus⟩

/-- The resolution, where its addresses are texts. -/
def AnyResolution.texts (r : AnyResolution) : ResolutionDecision :=
  ⟨r.normalizedTarget, r.entries.map AnyEntry.texts, r.resolutionSetStatus, r.selectedTarget.map AnyEntry.texts, r.actionResult,
    r.reasonClass⟩

omit [Runtime] [Idna] [UntextUrl] in
theorem texts_anyEntry {address : Str} (h : address.isText = true) : (anyEntry address).texts = resolutionEntry address.text := by
  rw [anyEntry_of_isText h, AnyEntry.texts, Str.text_ofString]

theorem evaluateAnyResolution_texts {url : Str} {addresses : List Str} (hurl : url.isText = true)
    (haddresses : ∀ a ∈ addresses, a.isText = true) :
    (evaluateAnyResolution url addresses).map AnyResolution.texts = evaluateResolution url.text (addresses.map Str.text) := by
  have hentries : (addresses.map anyEntry).map AnyEntry.texts = (addresses.map Str.text).map resolutionEntry := by
    rw [List.map_map, List.map_map]
    exact List.map_congr_left fun a ha => texts_anyEntry (haddresses a ha)
  have hall : (addresses.map anyEntry).all (·.policyStatus == "ALLOWLISTED_PUBLIC") =
      ((addresses.map Str.text).map resolutionEntry).all (·.policyStatus == "ALLOWLISTED_PUBLIC") := by
    rw [← hentries, List.all_map (f := AnyEntry.texts)]
    rfl
  rw [← hentries] at hall
  rw [evaluateAnyResolution, evaluateResolution, normalizeAny_of_isText hurl, ← hentries]
  cases normalizeUrl url.text with
  | error e => rfl
  | ok target =>
    simp only [ok_bind]
    cases hany : addresses.map anyEntry with
    | nil => rfl
    | cons first rest =>
      rw [hany, List.map_cons] at hall
      simp only [List.map_cons, hall]
      split <;> rfl

/-- The policy and the builder, given one URL and its answers, agree on the set status and on what is selected: the first answer,
or nothing. -/
def AnyResolutionsAgree (url : Str) (addresses : List Str) : Prop :=
  ∀ r (i : AnyBindingInput) record, evaluateAnyResolution url addresses = .ok r → Str.ofString i.endpoint = url →
    i.addresses = addresses → buildAnyBinding i = .ok record →
    record.get "resolution_set_status" = .str r.resolutionSetStatus ∧
      (r.selectedTarget = none ∧ record.get "selected_target" = .none ∨
        ∃ first, ∃ selected : Dict, addresses.head? = some first ∧ r.selectedTarget = some (anyEntry first) ∧
          record.get "selected_target" = selected.toVal ∧ selected.get "ip" = .str (anyEntry first).ip.text)

/-- What is selected is the first answer. -/
theorem selected_evaluate {url : Str} {addresses : List Str} {r : AnyResolution} (h : evaluateAnyResolution url addresses = .ok r) :
    r.selectedTarget = none ∨ r.selectedTarget = addresses.head?.map anyEntry := by
  obtain ⟨target, -, h⟩ := bind_ok.mp h
  cases addresses with
  | nil =>
    cases h
    exact .inl rfl
  | cons a rest =>
    simp only [List.map_cons] at h
    split at h
    · cases h
      exact .inr rfl
    · cases h
      exact .inl rfl

theorem anyResolutionsAgree (url : Str) (addresses : List Str) : AnyResolutionsAgree url addresses := by
  rintro r i record hr rfl rfl hbuild
  -- What is built is built of texts, and of texts the two agree.
  have hwritable := AnyBindingInput.writable_of_build hbuild
  rw [AnyBindingInput.build_texts hwritable] at hbuild
  have htexts := evaluateAnyResolution_texts (Str.isText_ofString i.endpoint) hwritable.addresses
  rw [hr, Str.text_ofString] at htexts
  obtain ⟨hset, hselected⟩ := resolutionsAgree _ _ _ i.texts record htexts.symm rfl rfl hbuild
  refine ⟨hset, hselected.imp (And.imp_left Option.map_eq_none_iff.mp) ?_⟩
  rintro ⟨first, selected, hfirst, htarget, hrecord, hip⟩
  obtain ⟨e, he, -⟩ := Option.map_eq_some_iff.mp htarget
  have hhead : r.selectedTarget = i.addresses.head?.map anyEntry := by
    rcases selected_evaluate hr with hnone | hhead
    · rw [hnone] at he
      cases he
    · exact hhead
  obtain ⟨a, ha, rfl⟩ := Option.map_eq_some_iff.mp (List.head?_map.symm.trans hfirst)
  have hatext := hwritable.addresses a (List.mem_of_head? ha)
  refine ⟨a, selected, ha, by rw [hhead, ha, Option.map_some], hrecord, ?_⟩
  rw [hip, anyEntry_of_isText hatext, Str.text_ofString]

/-! ## Evaluations -/

/-- `except NetworkBoundaryError` catches it. -/
def isNetworkBoundary : Exc → Bool
  | .valueError cls _ => cls == "NetworkBoundaryError"
  | _ => false

omit [Runtime] [Idna] [UntextUrl] in
theorem refused (c : Bool) (msg : String) : OnlyRaises isNetworkBoundary (raiseIf c (networkBoundaryError msg)) :=
  onlyRaises_raiseIf c rfl

omit [Runtime] [Idna] [UntextUrl] in
theorem onlyRaises_map {α β : Type} {caught : Exc → Bool} {x : Except Exc α} {f : α → β} (h : OnlyRaises caught x) :
    OnlyRaises caught (x.map f) := by
  intro e he
  cases x with
  | error e' =>
    obtain rfl := Except.error.inj he
    exact h e' rfl
  | ok a => cases he

omit [UntextUrl] in
theorem onlyRaises_canonicalHost (host : List Char) : OnlyRaises isNetworkBoundary (canonicalHost host) := by
  have hname : OnlyRaises isNetworkBoundary (hostAscii host) := by
    unfold hostAscii
    extract_lets jp
    have hlabels (name : List Char) : OnlyRaises isNetworkBoundary (jp name) :=
      onlyRaises_seq.mpr ⟨refused _ _, fun _ => onlyRaises_ok name⟩
    split
    · exact hlabels _
    · split
      · exact onlyRaises_error.mpr rfl
      · split
        · exact onlyRaises_error.mpr rfl
        · exact hlabels _
  rw [canonicalHost]
  split
  · exact onlyRaises_ok _
  · exact hname

omit [Runtime] [Idna] [UntextUrl] in
theorem onlyRaises_percent (cs : List Char) : OnlyRaises isNetworkBoundary (canonicalizePercentEncoding cs) := by
  fun_induction canonicalizePercentEncoding cs with
  | case1 => exact onlyRaises_ok _
  | case2 _ _ _ ih => exact onlyRaises_map ih
  | case4 => exact onlyRaises_map ‹_›
  | _ => exact onlyRaises_error.mpr rfl

omit [UntextUrl] in
/-- `normalize_url` of a text raises nothing but `NetworkBoundaryError`. -/
theorem onlyRaises_normalizeUrl (url : String) : OnlyRaises isNetworkBoundary (normalizeUrl url) := by
  unfold normalizeUrl
  refine onlyRaises_seq.mpr ⟨refused _ _, fun _ => ?_⟩
  split
  · exact onlyRaises_error.mpr rfl
  split
  · exact onlyRaises_error.mpr rfl
  refine onlyRaises_seq.mpr ⟨refused _ _, fun _ => onlyRaises_seq.mpr ⟨refused _ _, fun _ => ?_⟩⟩
  split
  · exact onlyRaises_error.mpr rfl
  refine onlyRaises_seq.mpr ⟨refused _ _, fun _ => onlyRaises_bind.mpr ⟨onlyRaises_canonicalHost _, fun host _ => ?_⟩⟩
  refine onlyRaises_seq.mpr ⟨refused _ _, fun _ => onlyRaises_seq.mpr ⟨refused _ _, fun _ => ?_⟩⟩
  refine onlyRaises_bind.mpr ⟨onlyRaises_percent _, fun encoded _ => ?_⟩
  extract_lets path jp
  split
  · exact onlyRaises_ok _
  · exact onlyRaises_bind.mpr ⟨onlyRaises_map (onlyRaises_percent _), fun _ _ => onlyRaises_ok _⟩

/-- The arguments of `evaluate_network`, with no lifecycle. -/
structure AnyNetworkInput where
  operation : String
  purpose : String
  url : Str
  addresses : List Str
  tlsIdentityStatus : String := "MATCHED"
  finalRevalidationResult : String := "MATCHED"

omit [Runtime] [Idna] [UntextUrl] in
/-- The arguments, where they are texts. -/
def AnyNetworkInput.texts (i : AnyNetworkInput) : NetworkInput where
  operation := i.operation
  purpose := i.purpose
  url := i.url.text
  addresses := i.addresses.map Str.text
  tlsIdentityStatus := i.tlsIdentityStatus
  finalRevalidationResult := i.finalRevalidationResult

namespace GateDDecisionEngine

variable (g : GateDDecisionEngine)

/-- What is found of the URL and the addresses. What a decision takes of the selected address it takes once the binding is built. -/
def anyFindings (i : AnyNetworkInput) : Except Exc NetworkFindings :=
  match normalizeAny i.url with
  | .error e =>
    if isNetworkBoundary e then
      .ok ⟨normalizedTarget "invalid" "invalid", "DENIED_MIXED", none, none, "DENIED", "DENY", urlReason e.message⟩
    else .error e
  | .ok target => do
    let resolution ← evaluateAnyResolution i.url i.addresses
    let verdict := g.networkVerdict i.texts resolution.texts
    return ⟨normalizedTarget target.authority target.requestTarget, resolution.resolutionSetStatus,
      resolution.selectedTarget.map (·.ip.text), resolution.selectedTarget.map (·.family), verdict.2.2, verdict.2.1, verdict.1⟩

/-- What the connection binding is built from. -/
def anyBindingInput (i : AnyNetworkInput) (f : NetworkFindings) : AnyBindingInput where
  endpoint := i.url.text
  addresses := i.addresses
  observedAt := .ofString g.now
  connectionEpoch := g.invalidationEpoch
  invalidationEpoch := g.invalidationEpoch
  tlsIdentityStatus := i.tlsIdentityStatus
  finalRevalidationResult := i.finalRevalidationResult
  destinationIdentityRef := some (.ofString (ref "destination" f.normalized.toVal))
  executionEnabled := g.networkExecutionEnabled

def anyBinding (i : AnyNetworkInput) (f : NetworkFindings) : Except Exc (Option Dict) :=
  match normalizeAny i.url with
  | .error _ => .ok none
  | .ok _ => if i.addresses.isEmpty then .ok none else (buildAnyBinding (g.anyBindingInput i f)).map some

/-- `evaluate_network` of any URL and addresses. The fingerprints that the URL itself goes into are computed for every
decision, whatever was found. -/
def evaluateAnyNetwork (i : AnyNetworkInput) : Except Exc Dict := do
  let start ← startingLifecycle i.texts
  let f ← g.anyFindings i
  let binding ← g.anyBinding i f
  let _tls ← sha256Any (.ofItems [("url", .str i.url), ("tls", .lit i.tlsIdentityStatus)])
  let _decision ← sha256Any (.ofItems [("kind", .lit "network"), ("url", .str i.url), ("epoch", .int g.invalidationEpoch)])
  let record := g.networkRecord i.texts f (g.connectionView i.texts f binding) start
  validateOutboundDecision record
  return record

/-! ## Evaluations of texts -/

omit [Runtime] [Idna] [UntextUrl] in
theorem writable_urlParts (i : AnyNetworkInput) :
    (AnyVal.ofItems [("kind", .lit "network"), ("url", .str i.url), ("epoch", .int g.invalidationEpoch)]).Writable ↔
      i.url.isText = true ∧ writesInt g.invalidationEpoch = true := by
  simp [AnyVal.Writable, AnyVal.dumps_ofItems, AnyVal.encodes_ofItems, AnyVal.dumps, AnyVal.encodes, and_comm]

theorem writable_of_evaluate {i : AnyNetworkInput} {r : Dict} (h : g.evaluateAnyNetwork i = .ok r) :
    i.url.isText = true ∧ writesInt g.invalidationEpoch = true := by
  obtain ⟨start, -, h⟩ := bind_ok.mp h
  obtain ⟨f, -, h⟩ := bind_ok.mp h
  obtain ⟨binding, -, h⟩ := bind_ok.mp h
  obtain ⟨tls, -, h⟩ := bind_ok.mp h
  obtain ⟨decision, hdecision, -⟩ := bind_ok.mp h
  by_contra hnot
  obtain ⟨e, he⟩ := serialized_of_not_writable (mt (g.writable_urlParts i).mp hnot)
  rw [sha256Any, he] at hdecision
  cases hdecision

theorem anyFindings_texts {i : AnyNetworkInput} (hurl : i.url.isText = true)
    (haddresses : (∃ target, normalizeUrl i.url.text = .ok target) → ∀ a ∈ i.addresses, a.isText = true) :
    g.anyFindings i = g.networkFindings i.texts := by
  rw [anyFindings, networkFindings, normalizeAny_of_isText hurl]
  show _ = match normalizeUrl i.url.text with | .error e => _ | .ok target => _
  cases htarget : normalizeUrl i.url.text with
  | error e => exact if_pos (onlyRaises_normalizeUrl _ e htarget)
  | ok target =>
    have htexts := evaluateAnyResolution_texts hurl (haddresses ⟨target, htarget⟩)
    show _ = evaluateResolution i.url.text (i.addresses.map Str.text) >>= _
    rw [← htexts]
    cases evaluateAnyResolution i.url i.addresses with
    | error e => rfl
    | ok r =>
      simp only [ok_bind, Except.map, AnyResolution.texts, Option.map_map]
      rfl

omit [Idna] [UntextUrl] in
theorem anyBindingInput_writable {i : AnyNetworkInput} (haddresses : ∀ a ∈ i.addresses, a.isText = true)
    (hepoch : writesInt g.invalidationEpoch = true) (f : NetworkFindings) : (g.anyBindingInput i f).Writable where
  addresses := haddresses
  observedAt := Str.isText_ofString _
  resolverRef := Str.isText_ofString _
  destinationIdentityRef := by
    intro r hr
    obtain rfl := Option.some.inj hr
    exact Str.isText_ofString _
  proxyIdentityRef := nofun
  connectionEpoch := hepoch
  invalidationEpoch := hepoch

omit [Idna] [UntextUrl] in
theorem anyBindingInput_texts (i : AnyNetworkInput) (f : NetworkFindings) :
    (g.anyBindingInput i f).texts = g.bindingInput i.texts f := by
  simp [anyBindingInput, AnyBindingInput.texts, bindingInput, AnyNetworkInput.texts]

theorem anyBinding_texts {i : AnyNetworkInput} (hurl : i.url.isText = true)
    (haddresses : (∃ target, normalizeUrl i.url.text = .ok target) → ∀ a ∈ i.addresses, a.isText = true)
    (hepoch : writesInt g.invalidationEpoch = true) (f : NetworkFindings) : g.anyBinding i f = g.networkBinding i.texts f := by
  rw [anyBinding, networkBinding, normalizeAny_of_isText hurl]
  show _ = match normalizeUrl i.url.text with | .error _ => _ | .ok _ => _
  cases htarget : normalizeUrl i.url.text with
  | error e => rfl
  | ok target =>
    have hwritable := g.anyBindingInput_writable (haddresses ⟨target, htarget⟩) hepoch f
    dsimp only
    rw [AnyBindingInput.build_texts hwritable, g.anyBindingInput_texts, AnyNetworkInput.texts, List.isEmpty_map]

/-- Of texts `evaluate_network` makes what it makes of them. -/
theorem evaluateAnyNetwork_texts {i : AnyNetworkInput} (hurl : i.url.isText = true)
    (haddresses : (∃ target, normalizeUrl i.url.text = .ok target) → ∀ a ∈ i.addresses, a.isText = true)
    (hepoch : writesInt g.invalidationEpoch = true) : g.evaluateAnyNetwork i = g.evaluateNetwork i.texts := by
  have htls : ∃ digest, sha256Any (.ofItems [("url", .str i.url), ("tls", .lit i.tlsIdentityStatus)]) = .ok digest := by
    rw [sha256Any, serialized_of_writable (by
      simp [AnyVal.Writable, AnyVal.dumps_ofItems, AnyVal.encodes_ofItems, AnyVal.dumps, AnyVal.encodes, hurl])]
    exact ⟨_, rfl⟩
  have hdecision : ∃ digest, sha256Any (.ofItems [("kind", .lit "network"), ("url", .str i.url),
      ("epoch", .int g.invalidationEpoch)]) = .ok digest := by
    rw [sha256Any, serialized_of_writable ((g.writable_urlParts i).mpr ⟨hurl, hepoch⟩)]
    exact ⟨_, rfl⟩
  obtain ⟨tls, htls⟩ := htls
  obtain ⟨decision, hdecision⟩ := hdecision
  simp only [evaluateAnyNetwork, evaluateNetwork, g.anyFindings_texts hurl haddresses, g.anyBinding_texts hurl haddresses hepoch,
    htls, hdecision, ok_bind]

/-! ## Total and exact evaluations -/

/-- The arguments of the claimed domain: words of the vocabularies. -/
structure PlainAny (i : AnyNetworkInput) : Prop where
  operation : i.operation ∈ OPERATIONS
  purpose : i.purpose ∈ PURPOSES
  tls : i.tlsIdentityStatus = "MATCHED" ∨ i.tlsIdentityStatus = "MISMATCHED"
  revalidation : i.finalRevalidationResult = "MATCHED" ∨ i.finalRevalidationResult = "MISMATCHED" ∨
    i.finalRevalidationResult = "DENIED"

omit [Runtime] [Idna] [UntextUrl] in
theorem PlainAny.plain {i : AnyNetworkInput} (h : PlainAny i) : Plain i.texts :=
  ⟨h.operation, h.purpose, h.tls, h.revalidation, ⟨rfl, rfl, rfl⟩⟩

/-- An allow needs every condition at once. -/
def AnyAllowConditions (i : AnyNetworkInput) : Prop :=
  (∃ target, normalizeAny i.url = .ok target) ∧ i.addresses ≠ [] ∧ (∀ a ∈ i.addresses, PublicAny a) ∧
    i.tlsIdentityStatus = "MATCHED" ∧ i.finalRevalidationResult = "MATCHED" ∧ g.networkExecutionEnabled = true

/-- The decision of one evaluation: an allow exactly under its conditions, and a validated connection exactly with an allow. -/
structure AnyDecides (i : AnyNetworkInput) (r : Dict) : Prop where
  action : r.get "action_result" = .str "ALLOW" ∧ g.AnyAllowConditions i ∨
    r.get "action_result" = .str "DENY" ∧ ¬ g.AnyAllowConditions i
  validated : r.get "connection_binding_status" = .str "VALIDATED" ↔ r.get "action_result" = .str "ALLOW"

/-- `evaluate_network` is total and exact on `i`. -/
def NetworkExact (i : AnyNetworkInput) : Prop :=
  (∃ r, g.evaluateAnyNetwork i = .ok r ∧ g.AnyDecides i r) ∧ AnyResolutionsAgree i.url i.addresses

/-- The text of the URL and of the addresses that are resolved can be written, and where the URL normalizes there is an address. -/
structure NetworkWritable (i : AnyNetworkInput) : Prop where
  url : i.url.isText = true
  epoch : writesInt g.invalidationEpoch = true
  addresses : (∃ target, normalizeUrl i.url.text = .ok target) → i.addresses ≠ [] ∧ ∀ a ∈ i.addresses, a.isText = true

omit [Runtime] in
theorem anyAllowConditions_texts [Runtime] {i : AnyNetworkInput} (h : g.NetworkWritable i) :
    g.AnyAllowConditions i ↔ g.AllowConditions i.texts := by
  rw [AnyAllowConditions, AllowConditions, normalizeAny_of_isText h.url]
  refine and_congr_right fun htarget => and_congr ?_ (and_congr_left' ?_)
  · exact not_congr List.map_eq_nil_iff.symm
  · have haddresses := (h.addresses htarget).2
    exact (List.forall_mem_map.trans (forall₂_congr fun a ha => (publicAny_of_isText (haddresses a ha)).symm)).symm

/-- What is resolved by a decision has an address, and its addresses are texts. -/
theorem addresses_of_evaluate {i : AnyNetworkInput} (hurl : i.url.isText = true) (hepoch : writesInt g.invalidationEpoch = true)
    {r : Dict} (hr : g.evaluateAnyNetwork i = .ok r) {target : NormalizedTarget} (htarget : normalizeUrl i.url.text = .ok target) :
    i.addresses ≠ [] ∧ ∀ a ∈ i.addresses, a.isText = true := by
  by_cases hnil : i.addresses = []
  · have hnone : i.texts.addresses = [] := by rw [AnyNetworkInput.texts, hnil, List.map_nil]
    have hempty (a : Str) (ha : a ∈ i.addresses) : a.isText = true := by
      rw [hnil] at ha
      cases ha
    rw [g.evaluateAnyNetwork_texts hurl (fun _ => hempty) hepoch] at hr
    exact absurd hr (g.evaluateNetwork_unresolved (show normalizeUrl i.texts.url = _ from htarget) hnone r)
  · refine ⟨hnil, ?_⟩
    obtain ⟨start, -, hr⟩ := bind_ok.mp hr
    obtain ⟨f, -, hr⟩ := bind_ok.mp hr
    obtain ⟨binding, hbinding, -⟩ := bind_ok.mp hr
    simp only [anyBinding, normalizeAny_of_isText hurl, htarget, List.isEmpty_eq_false_iff.mpr hnil, Bool.false_eq_true,
      ↓reduceIte] at hbinding
    cases hbuild : buildAnyBinding (g.anyBindingInput i f) with
    | error e =>
      rw [hbuild] at hbinding
      cases hbinding
    | ok record => exact (AnyBindingInput.writable_of_build hbuild).addresses

/-- An evaluation is total and exact exactly if what it takes the fingerprint of can be written and it has an address for a URL
that normalizes. -/
theorem networkExact_iff {i : AnyNetworkInput} (h : PlainAny i) : g.NetworkExact i ↔ g.NetworkWritable i := by
  constructor
  · rintro ⟨⟨r, hr, -⟩, -⟩
    obtain ⟨hurl, hepoch⟩ := g.writable_of_evaluate hr
    exact ⟨hurl, hepoch, fun htarget => g.addresses_of_evaluate hurl hepoch hr htarget.choose_spec⟩
  · intro hwritable
    refine ⟨?_, anyResolutionsAgree _ _⟩
    rw [g.evaluateAnyNetwork_texts hwritable.url (fun htarget => (hwritable.addresses htarget).2) hwritable.epoch]
    have hdecides : ∃ r, g.evaluateNetwork i.texts = .ok r ∧ g.Decides i.texts r := by
      rcases hurl : normalizeUrl i.url.text with e | target
      · exact g.evaluateNetwork_unnormalized h.plain hurl
      · exact g.evaluateNetwork_resolved h.plain hurl (mt List.map_eq_nil_iff.mp (hwritable.addresses ⟨target, hurl⟩).1)
    obtain ⟨r, hr, haction, hvalidated⟩ := hdecides
    rw [← g.anyAllowConditions_texts hwritable] at haction
    exact ⟨r, hr, haction, hvalidated⟩

end GateDDecisionEngine

end

/-- A URL that is no text is refused at once, as one with a scheme that is not allowed. -/
@[reducible] def refusesUntext : UntextUrl where
  refusal _ := some "SCHEME_NOT_ALLOWED"

/-- One public address for `https://example.com/`. -/
def exampleAnyNetwork : AnyNetworkInput where
  operation := "provider_call"
  purpose := "provider_call"
  url := .ofString "https://example.com/"
  addresses := [.ofString "93.184.216.34"]

theorem exampleAnyNetwork_plain : GateDDecisionEngine.PlainAny exampleAnyNetwork where
  operation := by decide
  purpose := by decide
  tls := .inl rfl
  revalidation := .inl rfl

/-- A resolver that has no answer for `https://example.com/`. -/
theorem unanswered_raises :
    letI := asciiRuntime
    letI : Idna := ⟨none⟩
    letI := refusesUntext
    (∃ e, (exampleEngine 0).evaluateAnyNetwork { exampleAnyNetwork with addresses := [] } = .error e) ∧
      ¬ (exampleEngine 0).NetworkExact { exampleAnyNetwork with addresses := [] } := by
  let := asciiRuntime
  let _ : Idna := ⟨none⟩
  let := refusesUntext
  have htexts := (exampleEngine 0).evaluateAnyNetwork_texts (i := { exampleAnyNetwork with addresses := [] })
    (Str.isText_ofString _) (fun _ a ha => nomatch ha) (writesInt_of_lt (by decide))
  have hraises (r : Dict) : (exampleEngine 0).evaluateAnyNetwork { exampleAnyNetwork with addresses := [] } ≠ .ok r := by
    rw [htexts]
    have hurl : normalizeUrl (Str.ofString "https://example.com/").text = .ok exampleTarget := by
      rw [Str.text_ofString, normalizeUrl_example]
    exact (exampleEngine 0).evaluateNetwork_unresolved hurl rfl r
  constructor
  · rcases hr : (exampleEngine 0).evaluateAnyNetwork { exampleAnyNetwork with addresses := [] } with e | r
    · exact ⟨e, rfl⟩
    · exact absurd hr (hraises r)
  · rintro ⟨⟨r, hr, -⟩, -⟩
    exact hraises r hr

theorem networkExact_iff_example :
    letI := asciiRuntime
    letI : Idna := ⟨none⟩
    letI := refusesUntext
    (exampleEngine 0).NetworkExact exampleAnyNetwork := by
  let := asciiRuntime
  let _ : Idna := ⟨none⟩
  let := refusesUntext
  refine ((exampleEngine 0).networkExact_iff exampleAnyNetwork_plain).mpr
    ⟨Str.isText_ofString _, writesInt_of_lt (by decide), fun _ => ⟨by simp [exampleAnyNetwork], ?_⟩⟩
  simp [exampleAnyNetwork]

end Pmiri
