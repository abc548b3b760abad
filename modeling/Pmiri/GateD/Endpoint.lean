import Pmiri.GateD.Connector
import Pmiri.Network.Selection

/-!
# The endpoint of a transport

What the construction of an HTTPS transport says of its connection binding.
The endpoint is compared with the decision and the decision with the binding,
but the binding's authority with neither, nor is the binding's own status
looked at.
-/

namespace Pmiri

open Py

section

variable [Runtime] [Idna]

/-- `HttpsJsonProviderTransport` -/
abbrev HttpsJsonProviderTransport := AuthorizedHttpsTransport "provider_call"

namespace AuthorizedHttpsTransport

variable {operation : String} (t : AuthorizedHttpsTransport operation)

/-- `self.selected_ip` -/
def selectedIp : String := (t.networkDecision.get "selected_target_ip").toStr

/-- The connection binding of a transport is one to its endpoint. -/
structure BoundToEndpoint (binding : Dict) : Prop where
  authority : binding.get "normalized_authority" = .str t.target.authority
  validated : binding.get "binding_status" = .str "VALIDATED"
  address : ∃ e ∈ resolvedAddresses binding, e.get "ip" = .str t.selectedIp ∧ e.get "policy_status" = .str "ALLOWLISTED_PUBLIC"
  connectionEpoch : t.networkDecision.agrees "connection_epoch" binding "connection_epoch" = true
  invalidationEpoch : t.networkDecision.agrees "invalidation_epoch" binding "invalidation_epoch" = true
  tls : ∃ tls, (binding.get "tls").asDict = some tls ∧
    t.networkDecision.agrees "tls_identity_fingerprint" tls "identity_binding_fingerprint" = true
  finalEvent : t.networkDecision.agrees "final_revalidation_event_sequence" (lastEvent binding) "sequence" = true ∧
    t.networkDecision.agrees "final_revalidation_result" (lastEvent binding) "result" = true

/-- What the construction of a transport checks. -/
theorem bound_ok : ∃ binding, t.connectionBinding.asDict = some binding ∧ normalizeUrl t.endpoint = .ok t.target ∧
    validateConnectionBinding binding = .ok () ∧ checkTransportConnection t.networkDecision binding = .ok () ∧
    ∃ ip, t.networkDecision.get "selected_target_ip" = .str ip := by
  obtain ⟨target, hurl, h⟩ := bind_ok.mp t.bound
  obtain ⟨-, h⟩ := seq_ok.mp h
  obtain ⟨binding, hbinding, h⟩ := bind_ok.mp h
  obtain ⟨hvalid, h⟩ := seq_ok.mp h
  obtain ⟨hconnection, h⟩ := seq_ok.mp h
  obtain ⟨-, h⟩ := seq_ok.mp h
  obtain ⟨hip, h⟩ := seq_ok.mp h
  have htarget : target = t.target := Except.ok.inj h
  rw [htarget] at hurl
  refine ⟨binding, ?_, orUnauthorized_ok.mp hurl, orUnauthorized_ok.mp hvalid, hconnection, ?_⟩
  · unfold requiredBinding at hbinding
    split at hbinding
    · cases hbinding
    · rename_i b hb
      rw [hb, Except.ok.inj hbinding]
  · rw [raiseIf_ok, Bool.not_eq_false', Val.isNonemptyStr_iff] at hip
    obtain ⟨ip, -, hip⟩ := hip
    exact ⟨ip, hip⟩

end AuthorizedHttpsTransport

omit [Runtime] [Idna] in
theorem checkSelectedTarget_ok {decision : Dict} {selected : Val} (h : checkSelectedTarget decision selected = .ok ()) :
    ∃ s, selected.asDict = some s ∧ decision.agrees "selected_target_ip" s "ip" = true := by
  unfold checkSelectedTarget at h
  split at h
  · cases h
  · rename_i s hs
    simp only [selectedTargetFields, raiseIf_ok, List.any_cons, Bool.or_eq_false_iff, Bool.not_eq_false'] at h
    exact ⟨s, hs, h.2.1⟩

omit [Idna] in
/-- A validated binding whose address the decision selects has that address
among its own. -/
theorem selected_of_validated {decision binding : Dict} {ip : String} (hvalid : validateConnectionBinding binding = .ok ())
    (hv : binding.get "binding_status" = .str "VALIDATED")
    (hselected : checkSelectedTarget decision (binding.get "selected_target") = .ok ())
    (hip : decision.get "selected_target_ip" = .str ip) :
    ∃ e ∈ resolvedAddresses binding, e.get "ip" = .str ip ∧ e.get "policy_status" = .str "ALLOWLISTED_PUBLIC" := by
  have hpublic := public_of_validated hvalid hv
  obtain ⟨s, hs, hagrees⟩ := checkSelectedTarget_ok hselected
  obtain ⟨s', e, hs', he, -, hentry, -⟩ := checkSelection_public hpublic (resolution_of_accepted hvalid).2
  obtain rfl : s' = s := Option.some.inj (hs'.symm.trans hs)
  rw [Dict.agrees, hip, Val.str_eq] at hagrees
  rw [Dict.agrees, hagrees, Val.str_eq] at hentry
  exact ⟨e, he, hentry, isPublic_iff.mp (List.all_eq_true.mp hpublic e he)⟩

/-- A constructed transport is bound to its endpoint exactly if its binding
names the endpoint's authority and is validated. -/
theorem AuthorizedHttpsTransport.boundToEndpoint_iff {operation endpoint : String} {networkDecision : Dict}
    {credential : Option (List UInt8)} {authorized : Bool} {connectionBinding : Val} {limits : ResourceLimits}
    {connect : Connection} {t : AuthorizedHttpsTransport operation}
    (h : construct operation endpoint networkDecision credential authorized connectionBinding limits connect = .ok t) :
    ∃ binding target, connectionBinding.asDict = some binding ∧ normalizeUrl endpoint = .ok target ∧ t.target = target ∧
      (t.BoundToEndpoint binding ↔
        binding.get "normalized_authority" = .str target.authority ∧
          binding.get "binding_status" = .str "VALIDATED") := by
  have hsame : t.endpoint = endpoint ∧ t.connectionBinding = connectionBinding := by
    unfold construct at h
    split at h
    · cases h
    · split at h
      · cases h
      · cases h
        exact ⟨rfl, rfl⟩
  obtain ⟨binding, hbinding, hurl, hvalid, hconnection, ip, hip⟩ := t.bound_ok
  refine ⟨binding, t.target, hsame.2 ▸ hbinding, hsame.1 ▸ hurl, rfl, fun hb => ⟨hb.authority, hb.validated⟩, ?_⟩
  rintro ⟨hauthority, hv⟩
  simp only [checkTransportConnection, seq_ok, raiseIf_ok, Bool.or_eq_false_iff, Bool.not_eq_false'] at hconnection
  obtain ⟨-, -, -, -, hselected, htls, hfinal, hepoch, hinvalid⟩ := hconnection
  obtain ⟨tls, htlsDict⟩ := tls_of_accepted hvalid
  rw [htlsDict, Option.getD_some] at htls
  refine ⟨hauthority, hv, ?_, hepoch, hinvalid, ⟨tls, htlsDict, htls⟩, hfinal⟩
  rw [selectedIp, hip, Val.toStr_str]
  exact selected_of_validated hvalid hv hselected hip

/-! ## Bindings to another host -/

omit [Idna] in
/-- A decision to fetch `https://example.com/` over a connection. -/
def decisionFor (binding selected tls : Dict) : Dict :=
  .ofItems [
    ("action_result", .str "ALLOW"),
    ("operation", .str "connector_fetch"),
    ("canonicalization_profile_id", .str CANONICALIZATION_PROFILE_ID),
    ("canonicalization_profile_fingerprint", .str CANONICALIZATION_PROFILE_FINGERPRINT),
    ("resolution_set_status", .str "ALL_ALLOWLISTED_PUBLIC"),
    ("connection_binding_status", .str "VALIDATED"),
    ("final_revalidation_result", .str "MATCHED"),
    ("tls_identity_status", .str "MATCHED"),
    ("connection_binding_fingerprint", binding.get "binding_fingerprint"),
    ("connection_binding_ref", binding.get "connection_binding_id"),
    ("destination_identity_ref", binding.get "destination_identity_ref"),
    ("selected_target_resolution_ref", selected.get "resolution_entry_ref"),
    ("selected_target_ip", selected.get "ip"),
    ("selected_target_family", selected.get "family"),
    ("tls_identity_fingerprint", tls.get "identity_binding_fingerprint"),
    ("final_revalidation_event_sequence", (lastEvent binding).get "sequence"),
    ("connection_epoch", binding.get "connection_epoch"),
    ("invalidation_epoch", binding.get "invalidation_epoch"),
    ("normalized_target", (Dict.ofItems [
      ("scheme", .str "HTTPS"),
      ("authority", .str "example.com"),
      ("path_class", .str "/")]).toVal)]

/-- The decision constructs a transport over any validated binding whose
selection and last event it copies. -/
theorem validateBinding_decisionFor {binding selected tls : Dict} (hvalid : validateConnectionBinding binding = .ok ())
    (hprofile : binding.get "canonicalization_profile_id" = .str CANONICALIZATION_PROFILE_ID ∧
      binding.get "canonicalization_profile_fingerprint" = .str CANONICALIZATION_PROFILE_FINGERPRINT)
    (hselected : binding.get "selected_target" = selected.toVal) (htls : binding.get "tls" = tls.toVal)
    (hresult : (lastEvent binding).get "result" = .str "MATCHED") (hip : (selected.get "ip").isNonemptyStr = true) :
    validateBinding "https://example.com/" (decisionFor binding selected tls) "connector_fetch" binding.toVal =
      .ok exampleTarget := by
  refine bind_ok.mpr ⟨exampleTarget, orUnauthorized_ok.mpr normalizeUrl_example, seq_ok.mpr ⟨?_, bind_ok.mpr ⟨binding, ?_,
    seq_ok.mpr ⟨orUnauthorized_ok.mpr hvalid, seq_ok.mpr ⟨?_, seq_ok.mpr ⟨?_, seq_ok.mpr ⟨?_, rfl⟩⟩⟩⟩⟩⟩⟩
  · simp only [checkTransportDecision, seq_ok, raiseIf_ok, raiseIfM_ok, Bool.or_eq_false_iff, differs_false,
      Val.notIn_ok_false]
    refine ⟨⟨"ALLOW", by decide, ?_⟩, ?_⟩ <;> simp [decisionFor, Dict.get_insert, Dict.ofItems]
  · rw [requiredBinding, Val.asDict_toVal]
  · simp only [checkTransportConnection, checkSelectedTarget, seq_ok, raiseIf_ok, Dict.agrees, hselected, htls,
      Val.asDict_toVal, Option.getD_some, selectedTargetFields, List.any_cons, List.any_nil]
    simp [decisionFor, Dict.get_insert, Dict.ofItems, hprofile, hresult, Val.eq_refl]
  · have htarget : (decisionFor binding selected tls).get "normalized_target" = (Dict.ofItems [
        ("scheme", .str "HTTPS"), ("authority", .str "example.com"), ("path_class", .str "/")]).toVal := by
      simp [decisionFor, Dict.ofItems]
    have hrequest : exampleTarget.requestTarget = "/" := rfl
    simp [checkTransportTarget, htarget, Val.asDict_toVal, Dict.get_insert, Dict.ofItems, authority_example, hrequest]
  · rw [raiseIf_ok, Bool.not_eq_false', show (decisionFor binding selected tls).get "selected_target_ip" = selected.get "ip" by
      simp [decisionFor, Dict.get_insert, Dict.ofItems]]
    exact hip

omit [Idna] in
/-- `https://elsewhere.example/` -/
def elsewhereTarget : NormalizedTarget :=
  ⟨"HTTPS", "elsewhere.example", 443, "/", none, sha256Json (Dict.ofItems [
    ("scheme", .str "HTTPS"),
    ("authority", .str "elsewhere.example"),
    ("path", .str "/"),
    ("query", .none)]).toVal⟩

omit [Idna] in
/-- The connection of the example to a target. -/
abbrev connectionTo (target : NormalizedTarget) : Dict := (exampleBindingInput 0).record target

omit [Idna] in
abbrev selectionOf (target : NormalizedTarget) : Dict :=
  BindingInput.selection target ⟨"93.184.216.34", "IPv4", "ALLOWLISTED_PUBLIC"⟩

omit [Idna] in
theorem connectionTo_accepted {target : NormalizedTarget} (hsni : sniOf (.str target.authority) = .ok target.host) :
    validateConnectionBinding (connectionTo target) = .ok () := by
  have hdest : (exampleBindingInput 0).destination target ≠ "" := by
    simp [BindingInput.destination, exampleBindingInput]
  refine (exampleBindingInput 0).validate_record target (List.cons_ne_nil _ _) (fun a ha => ?_) hsni rfl le_rfl le_rfl hdest
    (.inl rfl)
  rw [List.mem_singleton.mp ha]
  exact readsBack_example

omit [Idna] in
theorem transport_connectionTo [Idna] {target : NormalizedTarget} (hsni : sniOf (.str target.authority) = .ok target.host) :
    validateBinding "https://example.com/"
      (decisionFor (connectionTo target) (selectionOf target) ((exampleBindingInput 0).tls target)) "connector_fetch"
      (connectionTo target).toVal = .ok exampleTarget := by
  have hentry : resolutionEntry "93.184.216.34" = ⟨"93.184.216.34", "IPv4", "ALLOWLISTED_PUBLIC"⟩ := by decide
  have hmap : (exampleBindingInput 0).addresses.map resolutionEntry = [⟨"93.184.216.34", "IPv4", "ALLOWLISTED_PUBLIC"⟩] := by
    rw [show (exampleBindingInput 0).addresses = ["93.184.216.34"] from rfl, List.map_singleton, hentry]
  have hpublic : (exampleBindingInput 0).allPublic = true := by
    rw [BindingInput.allPublic, hmap]
    rfl
  obtain ⟨-, -, -, -, hselected, -, htls, hevents, -⟩ := (exampleBindingInput 0).record_fields target
  have hverdict : (exampleBindingInput 0).verdict.2 = "MATCHED" := by
    simp only [BindingInput.verdict, BindingInput.resolutionSetStatus, hpublic, ↓reduceIte]
    rfl
  refine validateBinding_decisionFor (connectionTo_accepted hsni) ?_ ?_ htls ?_ ?_
  · simp [BindingInput.get_record, BindingInput.unsealed, Dict.get_insert, Dict.ofItems]
  · rw [hselected, BindingInput.selected, hmap, hpublic]
    rfl
  · rw [lastEvent, hevents]
    simp [Val.asDict_toVal, BindingInput.event, Dict.get_insert, Dict.ofItems, hverdict]
  · rw [(BindingInput.selection_fields target _).1]
    decide

omit [Idna] in
/-- Nothing answers on it. -/
def deadConnection : Connection := fun _ => .error (.osError "ConnectionRefusedError")

/-- The transport over the connection to a target. -/
def transportTo {target : NormalizedTarget} (hsni : sniOf (.str target.authority) = .ok target.host) :
    HttpsConnectorTransport where
  endpoint := "https://example.com/"
  networkDecision := decisionFor (connectionTo target) (selectionOf target) ((exampleBindingInput 0).tls target)
  connectionBinding := (connectionTo target).toVal
  connect := deadConnection
  target := exampleTarget
  bound := transport_connectionTo hsni

theorem construct_transportTo {target : NormalizedTarget} (hsni : sniOf (.str target.authority) = .ok target.host) :
    AuthorizedHttpsTransport.construct "connector_fetch" "https://example.com/"
      (decisionFor (connectionTo target) (selectionOf target) ((exampleBindingInput 0).tls target)) none true
      (connectionTo target).toVal {} deadConnection = .ok (transportTo hsni) := by
  unfold AuthorizedHttpsTransport.construct
  rw [if_neg (by decide)]
  split
  · rename_i e he
    rw [transport_connectionTo hsni] at he
    cases he
  · rename_i t ht
    rw [transport_connectionTo hsni] at ht
    obtain rfl := Except.ok.inj ht
    rfl

omit [Idna] in
theorem sniOf_elsewhere : sniOf (.str elsewhereTarget.authority) = .ok elsewhereTarget.host := by
  rw [show elsewhereTarget.authority = "elsewhere.example" by show bracketed "elsewhere.example" = _; decide]
  rfl

omit [Idna] in
theorem authority_elsewhere : (connectionTo elsewhereTarget).get "normalized_authority" = .str "elsewhere.example" := by
  rw [((exampleBindingInput 0).record_fields elsewhereTarget).2.1]
  exact congrArg Val.str (show bracketed "elsewhere.example" = "elsewhere.example" by decide)

omit [Idna] in
theorem sniOf_example : sniOf (.str exampleTarget.authority) = .ok exampleTarget.host := by
  rw [authority_example]
  rfl

end

/-- A transport to `https://example.com/` over a validated binding to another
host. -/
theorem transport_bound_elsewhere :
    letI := asciiRuntime
    letI : Idna := ⟨none⟩
    ∃ decision binding connect, ∃ t : HttpsConnectorTransport,
      AuthorizedHttpsTransport.construct "connector_fetch" "https://example.com/" decision none true binding.toVal {} connect =
        .ok t ∧
      binding.get "normalized_authority" = .str "elsewhere.example" ∧ ¬ t.BoundToEndpoint binding := by
  let := asciiRuntime
  let : Idna := ⟨none⟩
  refine ⟨_, _, _, _, construct_transportTo sniOf_elsewhere, authority_elsewhere, fun hb => ?_⟩
  have hauthority := hb.authority
  rw [authority_elsewhere] at hauthority
  exact absurd (Val.str.inj hauthority) (by rw [show (transportTo sniOf_elsewhere).target = exampleTarget from rfl, authority_example]; decide)

theorem boundToEndpoint_iff_example :
    letI := asciiRuntime
    letI : Idna := ⟨none⟩
    ∃ decision binding connect, ∃ t : HttpsConnectorTransport, ∃ b target,
      AuthorizedHttpsTransport.construct "connector_fetch" "https://example.com/" decision none true binding {} connect = .ok t ∧
      binding.asDict = some b ∧ normalizeUrl "https://example.com/" = .ok target ∧ t.target = target ∧
      (t.BoundToEndpoint b ↔
        b.get "normalized_authority" = .str target.authority ∧ b.get "binding_status" = .str "VALIDATED") := by
  let := asciiRuntime
  let : Idna := ⟨none⟩
  obtain ⟨b, target, h⟩ := AuthorizedHttpsTransport.boundToEndpoint_iff (construct_transportTo sniOf_example)
  exact ⟨_, _, _, _, b, target, construct_transportTo sniOf_example, h⟩

end Pmiri
