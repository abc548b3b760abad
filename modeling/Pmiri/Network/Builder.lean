import Pmiri.Network.Binding

/-!
# The builder of connection bindings

`network.py` and `policy.py`: a connection binding is built from a resolution,
a TLS status and a final revalidation that the caller supplies, and validated
before it is returned.
-/

namespace Pmiri

open Py

/-! ## Resolutions -/

structure ResolutionEntry where
  ip : String
  family : String
  policyStatus : String
deriving DecidableEq

/-- An answer of the resolver. One that is not an address counts as an
unapproved IPv4 address. -/
def resolutionEntry (address : String) : ResolutionEntry :=
  match IpAddress.read address with
  | none => ⟨address, "IPv4", "DENIED_UNALLOWLISTED"⟩
  | some parsed => ⟨parsed.print, familyOf parsed, classifyAddress parsed.print⟩

structure ResolutionDecision where
  normalizedTarget : String
  entries : List ResolutionEntry
  resolutionSetStatus : String
  selectedTarget : Option ResolutionEntry
  actionResult : String
  reasonClass : String
deriving DecidableEq

section

variable [Runtime] [Idna]

/-- `NetworkPolicy.evaluate_resolution` -/
def evaluateResolution (url : String) (addresses : List String) : Except Exc ResolutionDecision := do
  let target ← normalizeUrl url
  let entries := addresses.map resolutionEntry
  match entries with
  | [] => return ⟨target.safeUrl, [], "DENIED_MIXED", none, "DENY", "DNS_UNVALIDATED"⟩
  | first :: _ =>
    if entries.all (·.policyStatus == "ALLOWLISTED_PUBLIC") then
      return ⟨target.safeUrl, entries, "ALL_ALLOWLISTED_PUBLIC", some first, "DENY", "OUTBOUND_NETWORK_DISABLED"⟩
    else
      return ⟨target.safeUrl, entries, "DENIED_MIXED", none, "DENY", "PRIVATE_OR_UNAPPROVED_ADDRESS"⟩

end

/-! ## The record -/

/-- What a connection binding is built from. -/
structure BindingInput where
  endpoint : String
  addresses : List String
  observedAt : String
  connectionEpoch : Int
  invalidationEpoch : Int
  tlsIdentityStatus : String := "MATCHED"
  finalRevalidationResult : String := "MATCHED"
  resolverRef : String := "resolver://supplied-observation"
  destinationIdentityRef : Option String := none
  proxyMode : String := "DIRECT"
  proxyIdentityRef : Option String := none
  executionEnabled : Bool := true

namespace BindingInput

variable (i : BindingInput)

/-- `destination_identity_ref or "destination://" + target.authority` -/
def destination (target : NormalizedTarget) : String :=
  match i.destinationIdentityRef with
  | some r => if r = "" then "destination://" ++ target.authority else r
  | none => "destination://" ++ target.authority

def entryRef (target : NormalizedTarget) (index : Nat) : String :=
  "resolution://" ++ String.ofList (target.fingerprint.toList.take 24) ++ "/" ++ toString index

def entry (target : NormalizedTarget) (index : Nat) (e : ResolutionEntry) : Dict :=
  .ofItems [
    ("resolution_entry_id", .str (entryRef target index)),
    ("ip", .str e.ip),
    ("family", .str e.family),
    ("policy_status", .str e.policyStatus),
    ("observed_at", .str i.observedAt),
    ("allowlist_ref", .str "allowlist://public-addresses")]

def entries (target : NormalizedTarget) : List Dict :=
  (i.addresses.map resolutionEntry).mapIdx (i.entry target)

def allPublic : Bool := !i.addresses.isEmpty && (i.addresses.map resolutionEntry).all (·.policyStatus == "ALLOWLISTED_PUBLIC")

def resolutionSetStatus : String := if i.allPublic then "ALL_ALLOWLISTED_PUBLIC" else "DENIED_MIXED"

/-- The selection of the first entry. -/
def selection (target : NormalizedTarget) (first : ResolutionEntry) : Dict :=
  .ofItems [
    ("resolution_entry_ref", .str (entryRef target 0)),
    ("ip", .str first.ip),
    ("family", .str first.family),
    ("policy_status", .str first.policyStatus)]

def selected (target : NormalizedTarget) : Val :=
  match i.addresses.map resolutionEntry with
  | first :: _ => if i.allPublic then (selection target first).toVal else .none
  | [] => .none

/-- `binding_status` and `event_result` -/
def verdict : String × String :=
  if i.resolutionSetStatus != "ALL_ALLOWLISTED_PUBLIC" then ("DENIED", "DENIED")
  else if i.tlsIdentityStatus != "MATCHED" then ("DENIED", "MISMATCHED")
  else if i.finalRevalidationResult != "MATCHED" then ("STALE", "MISMATCHED")
  else if !i.executionEnabled then ("DENIED", "DENIED")
  else ("VALIDATED", "MATCHED")

def proxy : Dict :=
  .ofItems (("mode", .str i.proxyMode) ::
    match i.proxyIdentityRef with
    | some r => if r = "" then [] else [("proxy_identity_ref", .str r)]
    | none => [])

def event : Dict :=
  .ofItems [
    ("sequence", .int 0),
    ("event_type", .str "INITIAL_RESOLUTION"),
    ("observed_at", .str i.observedAt),
    ("result", .str i.verdict.2),
    ("prior_connection_epoch", .int i.connectionEpoch),
    ("connection_epoch", .int i.connectionEpoch),
    ("prior_invalidation_epoch", .int i.invalidationEpoch),
    ("invalidation_epoch", .int i.invalidationEpoch),
    ("reason_class", .str (if i.verdict.2 = "MATCHED" then "NONE" else "EXACT_BINDING_MISSING"))]

variable [Runtime]

def tls (target : NormalizedTarget) : Dict :=
  .ofItems [
    ("scheme", .str "HTTPS"),
    ("sni", .str target.host),
    ("certificate_fingerprint", .str (tlsDigest (.str target.authority) (.str i.tlsIdentityStatus) "tls")),
    ("identity_status", .str i.tlsIdentityStatus),
    ("expected_identity_ref", .str (i.destination target)),
    ("verified_identity_ref",
      .str (if i.tlsIdentityStatus = "MATCHED" then i.destination target else "identity://mismatch")),
    ("identity_binding_fingerprint", .str (tlsDigest (.str target.authority) (.str i.tlsIdentityStatus) "status"))]

/-- The record without its fingerprint. -/
def unsealed (target : NormalizedTarget) : Dict :=
  .ofItems [
    ("record_type", .str "PMIRI_D2_CONNECTION_BINDING"),
    ("schema_version", .str "0.3"),
    ("connection_binding_id", .str ("connection://" ++ String.ofList (target.fingerprint.toList.take 32))),
    ("destination_identity_ref", .str (i.destination target)),
    ("canonicalization_profile_id", .str CANONICALIZATION_PROFILE_ID),
    ("canonicalization_profile_fingerprint", .str CANONICALIZATION_PROFILE_FINGERPRINT),
    ("normalized_authority", .str target.authority),
    ("resolver_ref", .str i.resolverRef),
    ("resolved_addresses", .list ((i.entries target).map Dict.toVal)),
    ("resolution_set_status", .str i.resolutionSetStatus),
    ("selected_target", i.selected target),
    ("proxy", i.proxy.toVal),
    ("tls", (i.tls target).toVal),
    ("revalidation_events", .list [i.event.toVal]),
    ("connection_epoch", .int i.connectionEpoch),
    ("invalidation_epoch", .int i.invalidationEpoch),
    ("binding_status", .str i.verdict.1)]

def record (target : NormalizedTarget) : Dict :=
  (i.unsealed target).insert "binding_fingerprint" (.str (sha256Json (i.unsealed target).toVal))

end BindingInput

/-- `build_connection_binding` -/
def buildConnectionBinding [Runtime] [Idna] (i : BindingInput) : Except Exc Dict := do
  let target ← normalizeUrl i.endpoint
  raiseIf (!(["DIRECT", "EXPLICIT_PROXY", "DENY"].contains i.proxyMode)) (networkBoundaryError "PROXY_MODE_INVALID")
  raiseIf (i.proxyMode == "EXPLICIT_PROXY" && (i.proxyIdentityRef.getD "").isEmpty)
    (networkBoundaryError "PROXY_IDENTITY_MISSING")
  raiseIf (i.proxyMode != "EXPLICIT_PROXY" && i.proxyIdentityRef.isSome) (networkBoundaryError "PROXY_IDENTITY_FORBIDDEN")
  raiseIf (decide (i.connectionEpoch < 0) || decide (i.invalidationEpoch < 0))
    (networkBoundaryError "CONNECTION_EPOCH_INVALID")
  raiseIf (!(["MATCHED", "MISMATCHED"].contains i.tlsIdentityStatus) ||
    !(["MATCHED", "MISMATCHED", "DENIED"].contains i.finalRevalidationResult))
    (networkBoundaryError "REVALIDATION_RESULT_INVALID")
  let record := i.record target
  validateConnectionBinding record
  return record

/-! ## The built record -/

/-- Reading an address back from its text gives the address. -/
def ReadsBack (address : String) : Prop := ∀ p, IpAddress.read address = some p → IpAddress.read p.print = some p

theorem readsBack_example : ReadsBack "93.184.216.34" := by
  have hr : IpAddress.read "93.184.216.34" = some (.v4 1572395042) := by decide
  intro p hp
  rw [hr] at hp
  obtain rfl := Option.some.inj hp
  decide

namespace BindingInput

variable (i : BindingInput) (target : NormalizedTarget)

theorem entry_fields (index : Nat) (e : ResolutionEntry) :
    (i.entry target index e).get "ip" = .str e.ip ∧ (i.entry target index e).get "family" = .str e.family ∧
      (i.entry target index e).get "policy_status" = .str e.policyStatus ∧
      (i.entry target index e).get "resolution_entry_id" = .str (entryRef target index) := by
  simp [entry, Dict.get_insert, Dict.ofItems]

theorem keysAre_entry (index : Nat) (e : ResolutionEntry) : (i.entry target index e).keysAre entryFields = true :=
  Dict.keysAre_iff.mpr fun _ => Dict.mem_keys_ofItems

/-- An entry for an address that reads back passes its round of the loop. -/
theorem checkEntry_entry {address : String} (index : Nat) (h : ReadsBack address) :
    checkEntry (i.entry target index (resolutionEntry address)).toVal =
      .ok (i.entry target index (resolutionEntry address)) := by
  have hall : entryFields.all (i.entry target index (resolutionEntry address)).contains = true :=
    (Bool.and_eq_true_iff.mp (i.keysAre_entry target index (resolutionEntry address))).2
  obtain ⟨hip, hfamily, hstatus, -⟩ := i.entry_fields target index (resolutionEntry address)
  simp only [checkEntry, Val.asDict_toVal, seq_ok, raiseIf_ok, hall, keysAre_entry, Bool.not_true, true_and, hip, ipOfVal]
  rcases hr : IpAddress.read address with _ | p
  · have hn : resolutionEntry address = ⟨address, "IPv4", "DENIED_UNALLOWLISTED"⟩ := by rw [resolutionEntry, hr]
    simp only [hn] at hip hfamily hstatus
    simp only [hn, hr, hfamily, hstatus, differs, Val.str_eq_str, seq_ok, raiseIf_ok]
    exact ⟨by simp, rfl⟩
  · have hp : resolutionEntry address = ⟨p.print, familyOf p, classifyAddress p.print⟩ := by rw [resolutionEntry, hr]
    simp only [hp] at hip hfamily hstatus
    simp only [hp, h p hr, hip, hfamily, hstatus, differs, Val.str_eq_str, seq_ok, raiseIf_ok]
    exact ⟨by simp, rfl⟩

theorem checkEntries_entries (h : ∀ a ∈ i.addresses, ReadsBack a) :
    checkEntries ((i.entries target).map Dict.toVal) = .ok (i.entries target) := by
  have hall : ∀ es : List Dict, (∀ e ∈ es, checkEntry e.toVal = .ok e) → checkEntries (es.map Dict.toVal) = .ok es := by
    intro es hes
    induction es with
    | nil => rfl
    | cons e es ih =>
      rw [List.map_cons, checkEntries, hes e List.mem_cons_self, ih fun e' h' => hes e' (List.mem_cons_of_mem _ h')]
      rfl
  refine hall _ fun e he => ?_
  obtain ⟨index, hi, rfl⟩ := List.mem_mapIdx.mp he
  rw [List.getElem_map]
  exact i.checkEntry_entry target index (h _ (List.getElem_mem _))

theorem isPublic_entry (index : Nat) (e : ResolutionEntry) :
    isPublic (i.entry target index e) = (e.policyStatus == "ALLOWLISTED_PUBLIC") := by
  rw [isPublic, differs, (i.entry_fields target index e).2.2.1, Val.str_eq_str, Bool.not_not]

theorem all_isPublic_entries (hne : i.addresses ≠ []) : (i.entries target).all isPublic = i.allPublic := by
  have : ∀ (es : List ResolutionEntry) (n : Nat),
      (es.mapIdx fun index => i.entry target (index + n)).all isPublic = es.all (·.policyStatus == "ALLOWLISTED_PUBLIC") := by
    intro es
    induction es with
    | nil => intro n; rfl
    | cons e es ih =>
      intro n
      rw [List.mapIdx_cons, List.all_cons, List.all_cons, isPublic_entry]
      congr 1
      simpa only [Nat.add_assoc, Nat.add_comm 1 n] using ih (n + 1)
  have h0 := this (i.addresses.map resolutionEntry) 0
  simp only [Nat.add_zero] at h0
  rw [entries, h0, allPublic, List.isEmpty_eq_false_iff.mpr hne, Bool.not_false, Bool.true_and]

theorem expectedSetStatus_entries (hne : i.addresses ≠ []) :
    expectedSetStatus (i.entries target) = i.resolutionSetStatus := by
  rw [expectedSetStatus, i.all_isPublic_entries target hne, resolutionSetStatus]

theorem hashable_entryId {e : Dict} (h : e ∈ i.entries target) : (e.get "resolution_entry_id").hashable = true := by
  obtain ⟨index, hi, rfl⟩ := List.mem_mapIdx.mp h
  rw [(i.entry_fields target index _).2.2.2]
  rfl

theorem selection_fields (e : ResolutionEntry) :
    (selection target e).get "ip" = .str e.ip ∧ (selection target e).get "family" = .str e.family ∧
      (selection target e).get "policy_status" = .str e.policyStatus ∧
      (selection target e).get "resolution_entry_ref" = .str (entryRef target 0) := by
  simp [selection, Dict.get_insert, Dict.ofItems]

theorem checkSelection_selected (hne : i.addresses ≠ []) :
    checkSelection (i.entries target) (i.selected target) = .ok () := by
  obtain ⟨a, rest, ha⟩ := List.exists_cons_of_ne_nil hne
  obtain ⟨tail, htail⟩ : ∃ tail, i.entries target = i.entry target 0 (resolutionEntry a) :: tail :=
    ⟨_, by rw [entries, ha, List.map_cons, List.mapIdx_cons]⟩
  have hsel : i.selected target = if i.allPublic then (selection target (resolutionEntry a)).toVal else .none := by
    rw [selected, ha, List.map_cons]
  rw [checkSelection, i.all_isPublic_entries target hne, hsel]
  cases i.allPublic with
  | false => rfl
  | true =>
    obtain ⟨hip, hfamily, hstatus, hid⟩ := i.entry_fields target 0 (resolutionEntry a)
    obtain ⟨hip', hfamily', hstatus', hid'⟩ := selection_fields target (resolutionEntry a)
    have hset : (Val.str (entryRef target 0)).inSet ((i.entries target).map (·.get "resolution_entry_id")) = .ok true := by
      have hhash : ((i.entries target).map (·.get "resolution_entry_id")).all Val.hashable = true := by
        simpa using fun e he => i.hashable_entryId target he
      rw [Val.inSet, hhash, htail, List.map_cons, List.any_cons, hid]
      simp [Val.hashable]
    have hfind : (i.entries target).find? (fun entry => (entry.get "resolution_entry_id").eq (.str (entryRef target 0))) =
        some (i.entry target 0 (resolutionEntry a)) := by
      rw [htail, List.find?_cons_of_pos (by rw [hid]; simp)]
    have hitem : (selection target (resolutionEntry a)).item "resolution_entry_ref" = .ok (.str (entryRef target 0)) := by
      rw [Dict.item_of_contains (Dict.contains_of_str hid'), hid']
    simp only [↓reduceIte, Val.asDict_toVal, hid', hset, hitem, ok_bind, hfind, List.any_cons, List.any_nil, Dict.agrees, hip, hip',
      hfamily, hfamily', hstatus, hstatus', Val.eq_refl, Bool.not_true, Bool.or_false]
    rfl

theorem checkEvents_event :
    checkEvents 0 .none [i.event.toVal] = .ok [i.event] := by
  have hkeys : ∀ k, k ∈ i.event.keys ↔ k ∈ eventFields ++ ["reason_class"] := fun k => Dict.mem_keys_ofItems
  have hwithin : i.event.keysWithin (eventFields ++ ["reason_class"]) = true :=
    Dict.keysWithin_iff.mpr fun k hk => (hkeys k).mp hk
  have hall : eventFields.all i.event.contains = true :=
    List.all_eq_true.mpr fun k hk => Dict.contains_iff.mpr ((hkeys k).mpr (List.mem_append_left _ hk))
  have hsequence : i.event.get "sequence" = .int 0 := by simp [event, Dict.get_insert, Dict.ofItems]
  have htype : i.event.get "event_type" = .str "INITIAL_RESOLUTION" := by simp [event, Dict.get_insert, Dict.ofItems]
  have hconnection : i.event.agrees "prior_connection_epoch" i.event "connection_epoch" = true := by
    simp [event, Dict.agrees, Dict.get_insert, Dict.ofItems]
  have hinvalidation : i.event.agrees "prior_invalidation_epoch" i.event "invalidation_epoch" = true := by
    simp [event, Dict.agrees, Dict.get_insert, Dict.ofItems]
  have hreason : (i.event.get "reason_class").notIn ["NONE", "EXACT_BINDING_MISSING"] = .ok false := by
    rw [Val.notIn_ok_false]
    refine ⟨if i.verdict.2 = "MATCHED" then "NONE" else "EXACT_BINDING_MISSING", ?_, ?_⟩
    · split <;> simp
    · simp [event, Dict.ofItems]
  have hepochs : checkEventEpochs i.event = .ok () := by
    simp [checkEventEpochs, differs, htype, hconnection, hinvalidation]
  simp [checkEvents, checkEvent, Val.asDict_toVal, hwithin, hall, hsequence, differs, htype, hreason, hepochs, pyAnd, Except.bind, raiseIfM, raiseIf,
    Val.isNone]

section

variable [Runtime]

theorem get_record {key : String} (h : key ≠ "binding_fingerprint") :
    (i.record target).get key = (i.unsealed target).get key := by
  rw [record, Dict.get_insert, if_neg h]

theorem keysAre_record : (i.record target).keysAre bindingFields = true := by
  refine Dict.keysAre_iff.mpr fun k => ?_
  rw [record, Dict.mem_keys_insert, unsealed, Dict.mem_keys_ofItems]
  exact ((@List.mem_append _ k bindingFields.dropLast ["binding_fingerprint"]).trans
    (or_congr_right List.mem_singleton)).symm

/-- The fields of the built record. -/
theorem record_fields :
    (i.record target).get "destination_identity_ref" = .str (i.destination target) ∧
      (i.record target).get "normalized_authority" = .str target.authority ∧
      (i.record target).get "resolved_addresses" = .list ((i.entries target).map Dict.toVal) ∧
      (i.record target).get "resolution_set_status" = .str i.resolutionSetStatus ∧
      (i.record target).get "selected_target" = i.selected target ∧
      (i.record target).get "proxy" = i.proxy.toVal ∧
      (i.record target).get "tls" = (i.tls target).toVal ∧
      (i.record target).get "revalidation_events" = .list [i.event.toVal] ∧
      (i.record target).get "connection_epoch" = .int i.connectionEpoch ∧
      (i.record target).get "invalidation_epoch" = .int i.invalidationEpoch ∧
      (i.record target).get "binding_status" = .str i.verdict.1 := by
  simp [get_record, unsealed, Dict.get_insert, Dict.ofItems]

theorem checkHeader_record (hc : 0 ≤ i.connectionEpoch) (hi : 0 ≤ i.invalidationEpoch) (hdest : i.destination target ≠ "") :
    checkHeader (i.record target) = .ok () := by
  have hall : bindingFields.all (i.record target).contains = true :=
    (Bool.and_eq_true_iff.mp (i.keysAre_record target)).2
  have hfingerprint : (i.record target).get "binding_fingerprint" = .str (sha256Json (i.unsealed target).toVal) :=
    Dict.get_insert_self ..
  have hwithout : (i.record target).without "binding_fingerprint" = i.unsealed target :=
    Dict.without_insert (by rw [unsealed, Dict.mem_keys_ofItems]; simp)
  obtain ⟨hdestination, -, -, hset, -, -, -, -, hconnection, hinvalidation, hstatus⟩ := i.record_fields target
  simp only [checkHeader, seq_ok, raiseIf_ok, raiseIfM_ok, hall, i.keysAre_record target, Bool.not_true, Bool.false_or,
    Bool.or_eq_false_iff, differs_false, true_and, Val.notIn_ok_false, hfingerprint, hwithout, isSha256_sha256Json,
    hdestination, hset, hstatus, List.any_cons, List.any_nil, hconnection, hinvalidation, Val.isNatural, Val.str.injEq,
    Bool.not_eq_false', Val.isNonemptyStr_str, bne_iff_ne, decide_eq_true_eq, and_true]
  refine ⟨?_, hdest, ?_, ?_, ?_, hc, hi⟩
  · simp [get_record, unsealed, Dict.get_insert, Dict.ofItems]
  · simp [get_record, unsealed, Dict.get_insert, Dict.ofItems]
  · rw [resolutionSetStatus]
    split <;> simp
  · rw [verdict]
    split_ifs <;> simp

theorem tls_fields :
    (i.tls target).get "scheme" = .str "HTTPS" ∧ (i.tls target).get "sni" = .str target.host ∧
      (i.tls target).get "certificate_fingerprint" =
        .str (tlsDigest (.str target.authority) (.str i.tlsIdentityStatus) "tls") ∧
      (i.tls target).get "identity_status" = .str i.tlsIdentityStatus ∧
      (i.tls target).get "expected_identity_ref" = .str (i.destination target) ∧
      (i.tls target).get "verified_identity_ref" =
        .str (if i.tlsIdentityStatus = "MATCHED" then i.destination target else "identity://mismatch") ∧
      (i.tls target).get "identity_binding_fingerprint" =
        .str (tlsDigest (.str target.authority) (.str i.tlsIdentityStatus) "status") := by
  simp [tls, Dict.get_insert, Dict.ofItems]

theorem checkTls_record (hsni : sniOf (.str target.authority) = .ok target.host)
    (htls : i.tlsIdentityStatus = "MATCHED" ∨
      i.tlsIdentityStatus = "MISMATCHED" ∧ i.destination target ≠ "identity://mismatch") :
    checkTls (i.record target) = .ok () := by
  obtain ⟨hdestination, hauthority, -, -, -, -, hr, -⟩ := i.record_fields target
  obtain ⟨hscheme, hsni', hcertificate, hstatus, hexpected, hverified, hidentity⟩ := i.tls_fields target
  have hkeys : (i.tls target).keysAre tlsFields = true := Dict.keysAre_iff.mpr fun _ => Dict.mem_keys_ofItems
  simp only [checkTls, hr, Val.asDict_toVal, hkeys, differs, hscheme, hauthority, hsni, hsni', hcertificate, hstatus,
    hidentity, Dict.agrees, hexpected, hverified, hdestination, Val.str_eq_str, beq_self_eq_true, Bool.not_true, ok_bind,
    seq_ok, raiseIf_ok, raiseIfM_ok, pyOr_ok_false, Val.notIn_ok_false, Bool.or_false, true_and, Bool.not_not]
  rcases htls with h | ⟨h, hne⟩
  · simp [h]
  · simpa [h] using hne.symm

omit [Runtime] in
/-- Only a public resolution over a matched connection is validated. -/
theorem verdict_validated (h : i.verdict.1 = "VALIDATED") :
    i.allPublic = true ∧ i.tlsIdentityStatus = "MATCHED" ∧ i.verdict.2 = "MATCHED" := by
  by_cases hp : i.allPublic = true
  · simp only [verdict, resolutionSetStatus, hp, ↓reduceIte, bne_self_eq_false, Bool.false_eq_true] at h ⊢
    split_ifs at h ⊢ with h₁ h₂ h₃
    · simp at h
    · simp at h
    · simp at h
    · exact ⟨trivial, by simpa using h₁, rfl⟩
  · simp [verdict, resolutionSetStatus, hp] at h

/-- The built record passes its validator. The addresses have to read back,
and the authority has to name the host it was made from. -/
theorem validate_record (hne : i.addresses ≠ []) (hread : ∀ a ∈ i.addresses, ReadsBack a)
    (hsni : sniOf (.str target.authority) = .ok target.host) (hproxy : checkProxy i.proxy.toVal = .ok ())
    (hc : 0 ≤ i.connectionEpoch) (hi : 0 ≤ i.invalidationEpoch) (hdest : i.destination target ≠ "")
    (htls : i.tlsIdentityStatus = "MATCHED" ∨
      i.tlsIdentityStatus = "MISMATCHED" ∧ i.destination target ≠ "identity://mismatch") :
    validateConnectionBinding (i.record target) = .ok () := by
  obtain ⟨-, -, haddresses, hset, hselected, hp, htls', hevents, hconnection, hinvalidation, hstatus⟩ :=
    i.record_fields target
  have hlist : nonemptyList (.list ((i.entries target).map Dict.toVal)) "CONNECTION_RESOLUTION_EMPTY" =
      .ok ((i.entries target).map Dict.toVal) := by
    obtain ⟨a, rest, ha⟩ := List.exists_cons_of_ne_nil hne
    rw [entries, ha, List.map_cons, List.mapIdx_cons, List.map_cons]
    rfl
  have htlsStatus : (i.tls target).get "identity_status" = .str i.tlsIdentityStatus := (i.tls_fields target).2.2.2.1
  have hevent : nonemptyList (.list [i.event.toVal]) "CONNECTION_REVALIDATION_EMPTY" = .ok [i.event.toVal] := rfl
  have hfields : i.event.get "connection_epoch" = .int i.connectionEpoch ∧
      i.event.get "invalidation_epoch" = .int i.invalidationEpoch ∧ i.event.get "result" = .str i.verdict.2 := by
    simp [event, Dict.get_insert, Dict.ofItems]
  simp only [validateConnectionBinding, seq_ok, i.checkHeader_record target hc hi hdest, haddresses, hlist, ok_bind,
    i.checkEntries_entries target hread, hset, i.expectedSetStatus_entries target hne, differs, Val.str_eq_str, beq_self_eq_true,
    hselected, i.checkSelection_selected target hne, hp, hproxy, i.checkTls_record target hsni htls, hevents, hevent,
    i.checkEvents_event, List.getLastD_cons, List.getLastD_nil, Dict.agrees, hconnection, hinvalidation, hfields,
    Val.int_eq_int, Bool.not_true, raiseIf_ok, Bool.or_false, true_and, Bool.not_not, hstatus, htls', Val.asDict_toVal]
  rw [Bool.and_eq_false_imp]
  intro hv
  obtain ⟨hpublic, hmatched, hresult⟩ := i.verdict_validated (beq_iff_eq.mp hv)
  obtain ⟨a, rest, ha⟩ := List.exists_cons_of_ne_nil hne
  have hsome : (i.selected target).isNone = false := by
    rw [selected, ha, List.map_cons, hpublic]
    rfl
  simp [resolutionSetStatus, hpublic, hsome, htlsStatus, hmatched, hresult]

end

end BindingInput

end Pmiri
