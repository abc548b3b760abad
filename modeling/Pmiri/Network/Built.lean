import Pmiri.Network.Builder
import Pmiri.Network.Host
import Pmiri.Python.Sha256

/-!
# Built bindings are valid

The builder of connection bindings and their validator derive the same fields
by different code. They agree for every resolver's answer, because the text of
an address reads back, and for every host, because the server name is cut out
of the authority that was made from it.
-/

namespace Pmiri

open Py

theorem readsBack (address : String) : ReadsBack address := fun _ hp => IpAddress.read_print hp

/-- The server name of an authority is the host. -/
theorem sniOf_bracketed {name : List Char} (hopen : startsWith name "[" = false) :
    sniOf (.str (bracketed (String.ofList name))) = .ok (String.ofList name) := by
  simp only [bracketed, String.toList_ofList, hopen, Bool.not_false, Bool.and_true]
  split
  · have hclose : ("[" ++ String.ofList name ++ "]").toList = '[' :: (name ++ [']']) := by simp
    have hcut : (startsWith ('[' :: (name ++ [']'])) "[" && ('[' :: (name ++ [']'])).getLast? == some ']') = true := by
      rw [← List.cons_append, List.getLast?_concat]
      simp [startsWith]
    simp only [sniOf, hclose, if_pos hcut, List.drop_succ_cons, List.drop_zero, List.dropLast_concat]
  · simp only [sniOf, String.toList_ofList, hopen, Bool.false_and, Bool.false_eq_true, ↓reduceIte]

theorem sniOf_authority [Runtime] [Idna] {url : String} {target : NormalizedTarget} (h : normalizeUrl url = .ok target) :
    sniOf (.str target.authority) = .ok target.host := by
  obtain ⟨host, name, hname, hhost⟩ := normalizeUrl_host h
  rw [NormalizedTarget.authority, hhost]
  exact sniOf_bracketed (startsWith_canonicalHost hname)

/-! ## What the builder accepts -/

/-- The address is that of a public host. -/
def PublicAddress (address : String) : Prop := classifyAddress address = "ALLOWLISTED_PUBLIC"

theorem policyStatus_iff (address : String) :
    (resolutionEntry address).policyStatus = "ALLOWLISTED_PUBLIC" ↔ PublicAddress address := by
  rw [resolutionEntry, PublicAddress, classifyAddress]
  cases hr : IpAddress.read address with
  | none => simp
  | some p => simp only [classifyAddress, IpAddress.read_print hr]

namespace BindingInput

/-- A mode the builder knows, with an identity exactly for an explicit
proxy. -/
def ProxyLegal (i : BindingInput) : Prop :=
  (i.proxyMode = "EXPLICIT_PROXY" ∧ ∃ r, i.proxyIdentityRef = some r ∧ r ≠ "") ∨
    (i.proxyMode = "DIRECT" ∨ i.proxyMode = "DENY") ∧ i.proxyIdentityRef = none

/-- The arguments that `build_connection_binding` is meant for. -/
structure Legal (i : BindingInput) : Prop where
  addresses : i.addresses ≠ []
  connectionEpoch : 0 ≤ i.connectionEpoch
  invalidationEpoch : 0 ≤ i.invalidationEpoch
  tlsIdentityStatus : i.tlsIdentityStatus = "MATCHED" ∨ i.tlsIdentityStatus = "MISMATCHED"
  finalRevalidationResult : i.finalRevalidationResult = "MATCHED" ∨ i.finalRevalidationResult = "MISMATCHED" ∨
    i.finalRevalidationResult = "DENIED"
  proxy : i.ProxyLegal
  destinationIdentityRef : i.destinationIdentityRef ≠ some "identity://mismatch"

theorem checkProxy_proxy {i : BindingInput} (h : i.ProxyLegal) : checkProxy i.proxy.toVal = .ok () := by
  rcases h with ⟨hmode, r, hr, hne⟩ | ⟨hmode, hr⟩
  · have hp : i.proxy = .ofItems [("mode", .str "EXPLICIT_PROXY"), ("proxy_identity_ref", .str r)] := by
      rw [proxy, hmode, hr]
      simp only [if_neg hne]
    have hget : i.proxy.get "mode" = .str "EXPLICIT_PROXY" ∧ i.proxy.get "proxy_identity_ref" = .str r := by
      rw [hp]
      simp [Dict.get_insert, Dict.ofItems]
    have hwithin : i.proxy.keysWithin ["mode", "proxy_identity_ref"] = true := by
      rw [hp, Dict.keysWithin_iff]
      exact fun _ => Dict.mem_keys_ofItems.mp
    have htruthy : (Val.str r).truthy = true := by simpa [Val.truthy] using hne
    simp [checkProxy, Val.asDict_toVal, seq_ok, Val.notIn_ok_false, hget, differs, htruthy, hwithin]
  · have hp : i.proxy = .ofItems [("mode", .str i.proxyMode)] := by rw [proxy, hr]
    have hget : i.proxy.get "mode" = .str i.proxyMode := by
      rw [hp]
      simp [Dict.ofItems]
    have hnone : i.proxy.contains "proxy_identity_ref" = false := by
      rw [← Bool.not_eq_true, Dict.contains_iff, hp, Dict.mem_keys_ofItems]
      simp
    have hwithin : i.proxy.keysWithin ["mode", "proxy_identity_ref"] = true := by
      rw [hp, Dict.keysWithin_iff]
      exact fun k hk => List.mem_cons.mpr (.inl (List.mem_singleton.mp (Dict.mem_keys_ofItems.mp hk)))
    rcases hmode with hmode | hmode <;>
      simp [checkProxy, Val.asDict_toVal, seq_ok, Val.notIn_ok_false, hget, hmode, differs, hnone, hwithin]

theorem destination_ne_empty {i : BindingInput} (target : NormalizedTarget) : i.destination target ≠ "" := by
  have happ : "destination://" ++ target.authority ≠ "" := by simp
  rw [destination]
  split
  · split
    · exact happ
    · assumption
  · exact happ

theorem destination_ne_mismatch {i : BindingInput} (target : NormalizedTarget)
    (h : i.destinationIdentityRef ≠ some "identity://mismatch") : i.destination target ≠ "identity://mismatch" := by
  have happ : "destination://" ++ target.authority ≠ "identity://mismatch" := by
    intro he
    have hhead := congrArg (fun s : String => s.toList.head?) he
    simp at hhead
  rw [destination]
  split
  · rename_i r hr
    split
    · exact happ
    · rintro rfl
      exact h hr
  · exact happ

theorem allPublic_iff {i : BindingInput} (h : i.addresses ≠ []) :
    i.allPublic = true ↔ ∀ a ∈ i.addresses, PublicAddress a := by
  rw [allPublic, List.isEmpty_eq_false_iff.mpr h, Bool.not_false, Bool.true_and, List.all_eq_true, List.forall_mem_map]
  simp only [beq_iff_eq, policyStatus_iff]

theorem verdict_validated_iff {i : BindingInput} (h : i.addresses ≠ []) :
    i.verdict.1 = "VALIDATED" ↔ (∀ a ∈ i.addresses, PublicAddress a) ∧ i.tlsIdentityStatus = "MATCHED" ∧
      i.finalRevalidationResult = "MATCHED" ∧ i.executionEnabled = true := by
  rw [← allPublic_iff h, verdict, resolutionSetStatus]
  split_ifs <;> simp_all

section

variable [Runtime]

theorem validate_of_legal {i : BindingInput} (h : i.Legal) {target : NormalizedTarget}
    (hsni : sniOf (.str target.authority) = .ok target.host) : validateConnectionBinding (i.record target) = .ok () :=
  i.validate_record target h.addresses (fun a _ => readsBack a) hsni (checkProxy_proxy h.proxy) h.connectionEpoch
    h.invalidationEpoch (destination_ne_empty target)
    (h.tlsIdentityStatus.imp_right fun hm => ⟨hm, destination_ne_mismatch target h.destinationIdentityRef⟩)

/-- The builder returns its record for every endpoint that normalizes. -/
theorem build_of_legal [Idna] {i : BindingInput} (h : i.Legal) {target : NormalizedTarget}
    (hendpoint : normalizeUrl i.endpoint = .ok target) : buildConnectionBinding i = .ok (i.record target) := by
  have hmode : (!(["DIRECT", "EXPLICIT_PROXY", "DENY"].contains i.proxyMode)) = false ∧
      (i.proxyMode == "EXPLICIT_PROXY" && (i.proxyIdentityRef.getD "").isEmpty) = false ∧
      (i.proxyMode != "EXPLICIT_PROXY" && i.proxyIdentityRef.isSome) = false := by
    rcases h.proxy with ⟨hmode, r, hr, hne⟩ | ⟨hmode | hmode, hr⟩ <;> simp_all
  have hepochs : (decide (i.connectionEpoch < 0) || decide (i.invalidationEpoch < 0)) = false := by
    have hc := h.connectionEpoch
    have hi := h.invalidationEpoch
    simp only [Bool.or_eq_false_iff, decide_eq_false_iff_not]
    omega
  have hresults : (!(["MATCHED", "MISMATCHED"].contains i.tlsIdentityStatus) ||
      !(["MATCHED", "MISMATCHED", "DENIED"].contains i.finalRevalidationResult)) = false := by
    rcases h.tlsIdentityStatus with ht | ht <;> rcases h.finalRevalidationResult with hf | hf | hf <;> simp [ht, hf]
  simp only [buildConnectionBinding, hendpoint, ok_bind, hmode, hepochs, hresults, raiseIf, Bool.false_eq_true, ↓reduceIte,
    validate_of_legal h (sniOf_authority hendpoint)]
  rfl

end

end BindingInput

/-- For every endpoint that normalizes and all legal arguments the builder
returns a record that its validator accepts, validated exactly if all
addresses are public, both statuses match and execution is enabled. -/
theorem buildConnectionBinding_legal [Runtime] [Idna] {i : BindingInput} {target : NormalizedTarget} (h : i.Legal)
    (hendpoint : normalizeUrl i.endpoint = .ok target) :
    ∃ record, buildConnectionBinding i = .ok record ∧ validateConnectionBinding record = .ok () ∧
      (record.get "binding_status" = .str "VALIDATED" ↔
        (∀ a ∈ i.addresses, PublicAddress a) ∧ i.tlsIdentityStatus = "MATCHED" ∧ i.finalRevalidationResult = "MATCHED" ∧
          i.executionEnabled = true) := by
  refine ⟨i.record target, BindingInput.build_of_legal h hendpoint,
    BindingInput.validate_of_legal h (sniOf_authority hendpoint), ?_⟩
  obtain ⟨-, -, -, -, -, -, -, -, -, -, hstatus⟩ := i.record_fields target
  rw [hstatus, Val.str.injEq, BindingInput.verdict_validated_iff h.addresses]

end Pmiri
