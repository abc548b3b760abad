import Pmiri.Network.Built
import Pmiri.Python.AnyValue

/-!
# Bindings built of any strings

The arguments of `build_connection_binding` may be strings that are no text: a
resolver's answer with a surrogate in it is read as an address or kept as it
stands, and stands in the record. The builder computes the fingerprint of the
record before it validates it, which the text of such a record does not have.
-/

namespace Pmiri

open Py

/-! ## Addresses -/

/-- `ipaddress.ip_address(s)` and its text, for a string that is no text: only the zone of an IPv6 address may hold any code
point, and no class of addresses depends on it. -/
def readZoned (s : Str) : Option (IpAddress × Str) :=
  let address := s.points.takeWhile (·.code != '%'.toNat)
  let zone := s.points.dropWhile (·.code != '%'.toNat)
  if s.points.any (·.code == '/'.toNat) || (zone.drop 1).isEmpty || (zone.drop 1).any (·.code == '%'.toNat) ||
      !address.all CodePoint.isScalar then none
  else
    (IpAddress.readV6 (address.map CodePoint.char)).map fun n =>
      (.v6 n none, ⟨(Str.ofString (IpAddress.v6 n none).print).points ++ zone⟩)

/-- A resolution entry that any string gives. -/
structure AnyEntry where
  ip : Str
  family : String
  policyStatus : String

/-- The body of the loop over the addresses. -/
def anyEntry (address : Str) : AnyEntry :=
  if address.isText then
    let e := resolutionEntry address.text
    ⟨.ofString e.ip, e.family, e.policyStatus⟩
  else
    match readZoned address with
    | none => ⟨address, "IPv4", "DENIED_UNALLOWLISTED"⟩
    | some (parsed, text) => ⟨text, familyOf parsed, classifyIp parsed⟩

/-- `classify_address` of any string. -/
def classifyAny (address : Str) : String :=
  if address.isText then classifyAddress address.text
  else
    match readZoned address with
    | none => "INVALID"
    | some (parsed, _) => classifyIp parsed

def PublicAny (address : Str) : Prop := classifyAny address = "ALLOWLISTED_PUBLIC"

theorem publicAny_of_isText {address : Str} (h : address.isText = true) : PublicAny address ↔ PublicAddress address.text := by
  rw [PublicAny, classifyAny, if_pos h, PublicAddress]

theorem isText_ip (address : Str) : (anyEntry address).ip.isText = address.isText := by
  rw [anyEntry]
  split
  · rename_i h
    rw [h, Str.isText_ofString]
  · rename_i h
    rw [Bool.not_eq_true] at h
    rw [h]
    split
    · exact h
    · rename_i parsed text hread
      simp only [readZoned, Option.ite_none_left_eq_some, Option.map_eq_some_iff, Bool.or_eq_true, not_or, Bool.not_eq_true,
        Bool.not_eq_false'] at hread
      obtain ⟨⟨-, haddress⟩, n, -, he⟩ := hread
      obtain ⟨-, rfl⟩ := Prod.mk.inj he
      -- The part before the zone is text, so that the surrogate stands in the zone.
      rw [Str.isText, ← List.takeWhile_append_dropWhile (p := (·.code != '%'.toNat)) (l := address.points), List.all_append,
        haddress, Bool.true_and] at h
      rw [Str.isText, List.all_append, h, Bool.and_false]

theorem anyEntry_of_isText {address : Str} (h : address.isText = true) :
    anyEntry address = ⟨.ofString (resolutionEntry address.text).ip, (resolutionEntry address.text).family,
      (resolutionEntry address.text).policyStatus⟩ := if_pos h

/-! ## The record -/

/-- What a connection binding is built from. An endpoint that `normalize_url` accepts is text, since it computes the
fingerprint of its parts. -/
structure AnyBindingInput where
  endpoint : String
  addresses : List Str
  observedAt : Str
  connectionEpoch : Int
  invalidationEpoch : Int
  tlsIdentityStatus : String := "MATCHED"
  finalRevalidationResult : String := "MATCHED"
  resolverRef : Str := .ofString "resolver://supplied-observation"
  destinationIdentityRef : Option Str := none
  proxyMode : String := "DIRECT"
  proxyIdentityRef : Option Str := none
  executionEnabled : Bool := true

namespace AnyBindingInput

variable (i : AnyBindingInput)

/-- The arguments, where they are texts. -/
def texts : BindingInput where
  endpoint := i.endpoint
  addresses := i.addresses.map Str.text
  observedAt := i.observedAt.text
  connectionEpoch := i.connectionEpoch
  invalidationEpoch := i.invalidationEpoch
  tlsIdentityStatus := i.tlsIdentityStatus
  finalRevalidationResult := i.finalRevalidationResult
  resolverRef := i.resolverRef.text
  destinationIdentityRef := i.destinationIdentityRef.map Str.text
  proxyMode := i.proxyMode
  proxyIdentityRef := i.proxyIdentityRef.map Str.text
  executionEnabled := i.executionEnabled

/-- `destination_identity_ref or "destination://" + target.authority` -/
def destination (target : NormalizedTarget) : Str :=
  match i.destinationIdentityRef with
  | some r => if r.points.isEmpty then .ofString ("destination://" ++ target.authority) else r
  | none => .ofString ("destination://" ++ target.authority)

def entry (target : NormalizedTarget) (index : Nat) (e : AnyEntry) : AnyVal :=
  .ofItems [
    ("resolution_entry_id", .lit (BindingInput.entryRef target index)),
    ("ip", .str e.ip),
    ("family", .lit e.family),
    ("policy_status", .lit e.policyStatus),
    ("observed_at", .str i.observedAt),
    ("allowlist_ref", .lit "allowlist://public-addresses")]

def entries (target : NormalizedTarget) : List AnyVal := (i.addresses.map anyEntry).mapIdx (i.entry target)

def allPublic : Bool := !i.addresses.isEmpty && (i.addresses.map anyEntry).all (·.policyStatus == "ALLOWLISTED_PUBLIC")

def resolutionSetStatus : String := if i.allPublic then "ALL_ALLOWLISTED_PUBLIC" else "DENIED_MIXED"

def selection (target : NormalizedTarget) (first : AnyEntry) : AnyVal :=
  .ofItems [
    ("resolution_entry_ref", .lit (BindingInput.entryRef target 0)),
    ("ip", .str first.ip),
    ("family", .lit first.family),
    ("policy_status", .lit first.policyStatus)]

def selected (target : NormalizedTarget) : AnyVal :=
  match i.addresses.map anyEntry with
  | first :: _ => if i.allPublic then selection target first else .none
  | [] => .none

/-- `binding_status` and `event_result` -/
def verdict : String × String :=
  if i.resolutionSetStatus != "ALL_ALLOWLISTED_PUBLIC" then ("DENIED", "DENIED")
  else if i.tlsIdentityStatus != "MATCHED" then ("DENIED", "MISMATCHED")
  else if i.finalRevalidationResult != "MATCHED" then ("STALE", "MISMATCHED")
  else if !i.executionEnabled then ("DENIED", "DENIED")
  else ("VALIDATED", "MATCHED")

def proxy : AnyVal :=
  .ofItems (("mode", .lit i.proxyMode) ::
    match i.proxyIdentityRef with
    | some r => if r.points.isEmpty then [] else [("proxy_identity_ref", .str r)]
    | none => [])

def event : AnyVal :=
  .ofItems [
    ("sequence", .int 0),
    ("event_type", .lit "INITIAL_RESOLUTION"),
    ("observed_at", .str i.observedAt),
    ("result", .lit i.verdict.2),
    ("prior_connection_epoch", .int i.connectionEpoch),
    ("connection_epoch", .int i.connectionEpoch),
    ("prior_invalidation_epoch", .int i.invalidationEpoch),
    ("invalidation_epoch", .int i.invalidationEpoch),
    ("reason_class", .lit (if i.verdict.2 = "MATCHED" then "NONE" else "EXACT_BINDING_MISSING"))]

variable [Runtime]

def tls (target : NormalizedTarget) : AnyVal :=
  .ofItems [
    ("scheme", .lit "HTTPS"),
    ("sni", .lit target.host),
    ("certificate_fingerprint", .lit (tlsDigest (.str target.authority) (.str i.tlsIdentityStatus) "tls")),
    ("identity_status", .lit i.tlsIdentityStatus),
    ("expected_identity_ref", .str (i.destination target)),
    ("verified_identity_ref",
      if i.tlsIdentityStatus = "MATCHED" then .str (i.destination target) else .lit "identity://mismatch"),
    ("identity_binding_fingerprint", .lit (tlsDigest (.str target.authority) (.str i.tlsIdentityStatus) "status"))]

/-- The record without its fingerprint. -/
def unsealed (target : NormalizedTarget) : AnyVal :=
  .ofItems [
    ("record_type", .lit "PMIRI_D2_CONNECTION_BINDING"),
    ("schema_version", .lit "0.3"),
    ("connection_binding_id", .lit ("connection://" ++ String.ofList (target.fingerprint.toList.take 32))),
    ("destination_identity_ref", .str (i.destination target)),
    ("canonicalization_profile_id", .lit CANONICALIZATION_PROFILE_ID),
    ("canonicalization_profile_fingerprint", .lit CANONICALIZATION_PROFILE_FINGERPRINT),
    ("normalized_authority", .lit target.authority),
    ("resolver_ref", .str i.resolverRef),
    ("resolved_addresses", .list (i.entries target)),
    ("resolution_set_status", .lit i.resolutionSetStatus),
    ("selected_target", i.selected target),
    ("proxy", i.proxy),
    ("tls", i.tls target),
    ("revalidation_events", .list [i.event]),
    ("connection_epoch", .int i.connectionEpoch),
    ("invalidation_epoch", .int i.invalidationEpoch),
    ("binding_status", .lit i.verdict.1)]

end AnyBindingInput

/-- `build_connection_binding`. What its record is once it has a fingerprint is a dictionary of texts. -/
def buildAnyBinding [Runtime] [Idna] (i : AnyBindingInput) : Except Exc Dict := do
  let target ← normalizeUrl i.endpoint
  raiseIf (!(["DIRECT", "EXPLICIT_PROXY", "DENY"].contains i.proxyMode)) (networkBoundaryError "PROXY_MODE_INVALID")
  raiseIf (i.proxyMode == "EXPLICIT_PROXY" && (i.proxyIdentityRef.elim [] Str.points).isEmpty)
    (networkBoundaryError "PROXY_IDENTITY_MISSING")
  raiseIf (i.proxyMode != "EXPLICIT_PROXY" && i.proxyIdentityRef.isSome) (networkBoundaryError "PROXY_IDENTITY_FORBIDDEN")
  raiseIf (decide (i.connectionEpoch < 0) || decide (i.invalidationEpoch < 0))
    (networkBoundaryError "CONNECTION_EPOCH_INVALID")
  raiseIf (!(["MATCHED", "MISMATCHED"].contains i.tlsIdentityStatus) ||
    !(["MATCHED", "MISMATCHED", "DENIED"].contains i.finalRevalidationResult))
    (networkBoundaryError "REVALIDATION_RESULT_INVALID")
  let unsealed ← (← serialized (i.unsealed target)).asDict.elim (.error (.typeError "not a dictionary")) .ok
  let record := unsealed.insert "binding_fingerprint" (.str (sha256Json unsealed.toVal))
  validateConnectionBinding record
  return record

namespace AnyBindingInput

/-- The arguments that `build_connection_binding` is meant for. -/
structure Legal (i : AnyBindingInput) : Prop where
  addresses : i.addresses ≠ []
  connectionEpoch : 0 ≤ i.connectionEpoch
  invalidationEpoch : 0 ≤ i.invalidationEpoch
  tlsIdentityStatus : i.tlsIdentityStatus = "MATCHED" ∨ i.tlsIdentityStatus = "MISMATCHED"
  finalRevalidationResult : i.finalRevalidationResult = "MATCHED" ∨ i.finalRevalidationResult = "MISMATCHED" ∨
    i.finalRevalidationResult = "DENIED"
  proxy : (i.proxyMode = "EXPLICIT_PROXY" ∧ ∃ r, i.proxyIdentityRef = some r ∧ r.points ≠ []) ∨
    (i.proxyMode = "DIRECT" ∨ i.proxyMode = "DENY") ∧ i.proxyIdentityRef = none
  destinationIdentityRef : i.destinationIdentityRef ≠ some (.ofString "identity://mismatch")

/-- Every string that the record takes up is text, and the epochs have at most 4300 digits. -/
structure Writable (i : AnyBindingInput) : Prop where
  addresses : ∀ a ∈ i.addresses, a.isText = true
  observedAt : i.observedAt.isText = true
  resolverRef : i.resolverRef.isText = true
  destinationIdentityRef : ∀ r, i.destinationIdentityRef = some r → r.isText = true
  proxyIdentityRef : ∀ r, i.proxyIdentityRef = some r → r.isText = true
  connectionEpoch : writesInt i.connectionEpoch = true
  invalidationEpoch : writesInt i.invalidationEpoch = true

/-! ## Records that can be written -/

section

variable {i : AnyBindingInput} (target : NormalizedTarget)

omit i in
theorem isText_of_nil {s : Str} (h : s.points = []) : s.isText = true := by
  rw [Str.isText, h]
  rfl

theorem isText_destination :
    (i.destination target).isText = true ↔ ∀ r, i.destinationIdentityRef = some r → r.isText = true := by
  rw [destination]
  cases i.destinationIdentityRef with
  | none => simp
  | some r =>
    by_cases hr : r.points = []
    · simp [hr, isText_of_nil hr]
    · simp [hr]

theorem encodes_proxy : i.proxy.encodes = true ↔ ∀ r, i.proxyIdentityRef = some r → r.isText = true := by
  rw [proxy, AnyVal.encodes_ofItems]
  cases i.proxyIdentityRef with
  | none => simp
  | some r =>
    by_cases hr : r.points = []
    · simp [hr, isText_of_nil hr]
    · simp [hr, AnyVal.encodes]

theorem dumps_proxy : i.proxy.dumps = true := by
  rw [proxy, AnyVal.dumps_ofItems]
  cases i.proxyIdentityRef with
  | none => rfl
  | some r =>
    by_cases hr : r.points = []
    · simp [hr]
    · simp [hr, AnyVal.dumps]

theorem encodes_entries : (i.entries target).all AnyVal.encodes = true ↔
    ∀ a ∈ i.addresses, a.isText = true ∧ i.observedAt.isText = true := by
  have hentry (index : Nat) (a : Str) : (i.entry target index (anyEntry a)).encodes = true ↔
      a.isText = true ∧ i.observedAt.isText = true := by
    simp [entry, AnyVal.encodes_ofItems, AnyVal.encodes, isText_ip]
  rw [List.all_eq_true]
  constructor
  · intro h a ha
    obtain ⟨index, hlt, rfl⟩ := List.mem_iff_getElem.mp ha
    refine (hentry index _).mp (h _ (List.mem_mapIdx.mpr ⟨index, by simpa using hlt, ?_⟩))
    rw [List.getElem_map]
  · intro h v hv
    obtain ⟨index, hlt, rfl⟩ := List.mem_mapIdx.mp hv
    rw [List.getElem_map]
    exact (hentry index _).mpr (h _ (List.getElem_mem _))

theorem dumps_entries : (i.entries target).all AnyVal.dumps = true := by
  rw [List.all_eq_true]
  intro v hv
  obtain ⟨index, hlt, rfl⟩ := List.mem_mapIdx.mp hv
  simp [entry, AnyVal.dumps_ofItems, AnyVal.dumps]

theorem encodes_selected (h : ∀ a ∈ i.addresses, a.isText = true) : (i.selected target).encodes = true := by
  rw [selected]
  cases haddresses : i.addresses with
  | nil => rfl
  | cons a rest =>
    have ha : a.isText = true := h a (haddresses ▸ List.mem_cons_self)
    rw [List.map_cons]
    split_ifs
    · simp [selection, AnyVal.encodes_ofItems, AnyVal.encodes, isText_ip, ha]
    · rfl

theorem dumps_selected : (i.selected target).dumps = true := by
  rw [selected]
  cases i.addresses with
  | nil => rfl
  | cons a rest =>
    rw [List.map_cons]
    split_ifs
    · simp [selection, AnyVal.dumps_ofItems, AnyVal.dumps]
    · rfl

variable [Runtime]

/-- The record can be written exactly if its parts can. -/
theorem writable_unsealed : (i.unsealed target).Writable ↔ i.Writable := by
  have htls : (i.tls target).dumps = true ∧ ((i.tls target).encodes = true ↔ (i.destination target).isText = true) := by
    constructor
    · simp [tls, AnyVal.dumps_ofItems, AnyVal.dumps]
      split_ifs <;> rfl
    · by_cases hmatched : i.tlsIdentityStatus = "MATCHED" <;> simp [tls, AnyVal.encodes_ofItems, AnyVal.encodes, hmatched]
  have hevent : (i.event.dumps = true ↔ writesInt i.connectionEpoch = true ∧ writesInt i.invalidationEpoch = true) ∧
      (i.event.encodes = true ↔ i.observedAt.isText = true) := by
    constructor
    · simp [event, AnyVal.dumps_ofItems, AnyVal.dumps, writesInt_of_lt (i := 0) (by decide)]
    · simp [event, AnyVal.encodes_ofItems, AnyVal.encodes]
  have hdumps : (i.unsealed target).dumps = true ↔ (writesInt i.connectionEpoch = true ∧ writesInt i.invalidationEpoch = true) ∧
      writesInt i.connectionEpoch = true ∧ writesInt i.invalidationEpoch = true := by
    simp only [unsealed, AnyVal.dumps_ofItems, List.all_cons, List.all_nil, AnyVal.dumps_lit, AnyVal.dumps,
      AnyVal.dumpsList_eq_all, dumps_entries target, dumps_selected target, dumps_proxy, htls.1, Bool.and_true, Bool.true_and,
      Bool.and_eq_true, hevent.1]
  have hencodes : (i.unsealed target).encodes = true ↔ (i.destination target).isText = true ∧ i.resolverRef.isText = true ∧
      (i.entries target).all AnyVal.encodes = true ∧ (i.selected target).encodes = true ∧ i.proxy.encodes = true ∧
        (i.destination target).isText = true ∧ i.observedAt.isText = true := by
    simp only [unsealed, AnyVal.encodes_ofItems, List.all_cons, List.all_nil, AnyVal.encodes_lit, AnyVal.encodes,
      AnyVal.encodesList_eq_all, Bool.and_true, Bool.true_and, Bool.and_eq_true, htls.2, hevent.2]
  rw [AnyVal.Writable, hdumps, hencodes, isText_destination, encodes_entries target, encodes_proxy]
  constructor
  · rintro ⟨⟨⟨hconnection, hinvalidation⟩, -⟩, hdestination, hresolver, haddresses, -, hproxy, -, hobserved⟩
    exact ⟨fun a ha => (haddresses a ha).1, hobserved, hresolver, hdestination, hproxy, hconnection, hinvalidation⟩
  · intro h
    have hepochs := And.intro h.connectionEpoch h.invalidationEpoch
    exact ⟨⟨hepochs, hepochs⟩, h.destinationIdentityRef, h.resolverRef,
      fun a ha => ⟨h.addresses a ha, h.observedAt⟩,
      encodes_selected target h.addresses, h.proxyIdentityRef, h.destinationIdentityRef, h.observedAt⟩

end

/-! ## Records of texts -/

section

variable {i : AnyBindingInput} (h : i.Writable) (target : NormalizedTarget)
include h

theorem anyEntries_texts : i.addresses.map anyEntry =
    (i.texts.addresses.map resolutionEntry).map fun e => ⟨.ofString e.ip, e.family, e.policyStatus⟩ := by
  rw [texts, List.map_map, List.map_map]
  exact List.map_congr_left fun a ha => anyEntry_of_isText (h.addresses a ha)

theorem allPublic_texts : i.allPublic = i.texts.allPublic := by
  rw [allPublic, anyEntries_texts h, BindingInput.allPublic, List.all_map]
  simp [texts, Function.comp_def]

theorem resolutionSetStatus_texts : i.resolutionSetStatus = i.texts.resolutionSetStatus := by
  rw [resolutionSetStatus, allPublic_texts h, BindingInput.resolutionSetStatus]

theorem verdict_texts : i.verdict = i.texts.verdict := by
  rw [verdict, resolutionSetStatus_texts h, BindingInput.verdict]
  rfl

omit h in
theorem destination_texts : (i.destination target).text = i.texts.destination target := by
  rw [destination, BindingInput.destination, texts]
  cases i.destinationIdentityRef with
  | none => exact Str.text_ofString _
  | some r =>
    by_cases hr : r.points = []
    · simp [hr, (Str.text_eq_empty r).mpr hr]
    · simp [hr, mt (Str.text_eq_empty r).mp hr]

theorem entries_texts : (i.entries target).map AnyVal.toVal = (i.texts.entries target).map Dict.toVal := by
  have hentry (index : Nat) (e : ResolutionEntry) :
      (i.entry target index ⟨.ofString e.ip, e.family, e.policyStatus⟩).toVal = (i.texts.entry target index e).toVal := by
    rw [entry, AnyVal.toVal_ofItems (by simp), BindingInput.entry]
    simp [AnyVal.toVal, texts]
  rw [entries, anyEntries_texts h, BindingInput.entries]
  refine List.ext_getElem (by simp) fun index hleft hright => ?_
  simp only [List.getElem_map, List.getElem_mapIdx]
  exact hentry index _

theorem selected_texts : (i.selected target).toVal = i.texts.selected target := by
  rw [selected, anyEntries_texts h, allPublic_texts h, BindingInput.selected]
  cases i.texts.addresses with
  | nil => rfl
  | cons a rest =>
    simp only [List.map_cons]
    split_ifs
    · rw [selection, AnyVal.toVal_ofItems (by simp), BindingInput.selection]
      simp [AnyVal.toVal]
    · rfl

omit h in
theorem proxy_texts : i.proxy.toVal = i.texts.proxy.toVal := by
  rw [proxy, BindingInput.proxy, texts]
  cases i.proxyIdentityRef with
  | none =>
    rw [AnyVal.toVal_ofItems (by simp)]
    simp
  | some r =>
    by_cases hr : r.points = []
    · rw [AnyVal.toVal_ofItems (by simp [hr])]
      simp [hr, (Str.text_eq_empty r).mpr hr]
    · rw [AnyVal.toVal_ofItems (by simp [hr])]
      simp [hr, mt (Str.text_eq_empty r).mp hr, AnyVal.toVal]

theorem event_texts : i.event.toVal = i.texts.event.toVal := by
  rw [event, AnyVal.toVal_ofItems (by simp), BindingInput.event]
  simp only [List.map_cons, List.map_nil, AnyVal.toVal_lit, AnyVal.toVal, verdict_texts h]
  rfl

variable [Runtime]

omit h in
theorem tls_texts : (i.tls target).toVal = (i.texts.tls target).toVal := by
  rw [tls, AnyVal.toVal_ofItems (by simp), BindingInput.tls]
  have hverified : (if i.tlsIdentityStatus = "MATCHED" then AnyVal.str (i.destination target)
      else .lit "identity://mismatch").toVal =
        .str (if i.tlsIdentityStatus = "MATCHED" then i.texts.destination target else "identity://mismatch") := by
    split_ifs
    · rw [AnyVal.toVal, destination_texts target]
    · exact AnyVal.toVal_lit _
  simp only [List.map_cons, List.map_nil, AnyVal.toVal_lit, AnyVal.toVal, hverified, destination_texts target]
  rfl

/-- A record of texts is the record that is built of them. -/
theorem unsealed_texts : (i.unsealed target).toVal = (i.texts.unsealed target).toVal := by
  rw [unsealed, AnyVal.toVal_ofItems (by simp), BindingInput.unsealed]
  simp only [List.map_cons, List.map_nil, AnyVal.toVal_lit, AnyVal.toVal, AnyVal.toVals_eq_map, entries_texts h,
    selected_texts h, proxy_texts, tls_texts target, event_texts h, destination_texts target, verdict_texts h,
    resolutionSetStatus_texts h]
  rfl

/-- Of texts the builder makes what it makes of them. -/
theorem build_texts [Idna] : buildAnyBinding i = buildConnectionBinding i.texts := by
  have hproxy : (i.proxyIdentityRef.elim [] Str.points).isEmpty = (i.texts.proxyIdentityRef.getD "").isEmpty := by
    rw [texts]
    cases i.proxyIdentityRef with
    | none => rfl
    | some r =>
      rw [Bool.eq_iff_iff]
      simp [String.isEmpty_iff, Str.text_eq_empty]
  have hsome : i.proxyIdentityRef.isSome = i.texts.proxyIdentityRef.isSome := by
    rw [texts]
    cases i.proxyIdentityRef <;> rfl
  have hserialized (target : NormalizedTarget) :
      (serialized (i.unsealed target) >>= fun v => v.asDict.elim (.error (.typeError "not a dictionary")) .ok) =
        .ok (i.texts.unsealed target) := by
    rw [serialized_of_writable ((writable_unsealed target).mpr h), ok_bind, unsealed_texts h, Val.asDict_toVal]
    rfl
  rw [buildAnyBinding, buildConnectionBinding, hproxy, hsome]
  refine bind_congr fun target => ?_
  have hlast (r : Dict → Except Exc Dict) : (do
      let unsealed ← (← serialized (i.unsealed target)).asDict.elim (.error (.typeError "not a dictionary")) .ok
      r unsealed) = r (i.texts.unsealed target) := by
    rw [← bind_assoc, hserialized, ok_bind]
  simp only [hlast]
  rfl

omit h in
/-- A record that is built can be written. -/
theorem writable_of_build [Idna] {record : Dict} (hbuild : buildAnyBinding i = .ok record) : i.Writable := by
  obtain ⟨target, -, hbuild⟩ := bind_ok.mp hbuild
  simp only [seq_ok] at hbuild
  obtain ⟨v, hv, -⟩ := bind_ok.mp hbuild.2.2.2.2.2
  by_contra hnot
  obtain ⟨e, he⟩ := serialized_of_not_writable (mt (writable_unsealed target).mp hnot)
  rw [he] at hv
  cases hv

omit h [Runtime] in
theorem legal_texts (hlegal : i.Legal) (hdestination : ∀ r, i.destinationIdentityRef = some r → r.isText = true) : i.texts.Legal where
  addresses := mt List.map_eq_nil_iff.mp hlegal.addresses
  connectionEpoch := hlegal.connectionEpoch
  invalidationEpoch := hlegal.invalidationEpoch
  tlsIdentityStatus := hlegal.tlsIdentityStatus
  finalRevalidationResult := hlegal.finalRevalidationResult
  proxy := by
    refine hlegal.proxy.imp ?_ ?_
    · rintro ⟨hmode, r, hr, hne⟩
      exact ⟨hmode, r.text, by rw [texts, hr, Option.map_some], mt (Str.text_eq_empty r).mp hne⟩
    · rintro ⟨hmode, hr⟩
      exact ⟨hmode, by rw [texts, hr, Option.map_none]⟩
  destinationIdentityRef := by
    intro hmismatch
    obtain ⟨r, hr, htext⟩ := Option.map_eq_some_iff.mp hmismatch
    exact hlegal.destinationIdentityRef (hr.trans (congrArg some ((Str.eq_ofString_iff (hdestination r hr) _).mpr htext)))

end

/-- The builder returns a record that its validator accepts, validated exactly if all addresses are public, both statuses match
and execution is enabled. -/
def Built [Runtime] [Idna] (i : AnyBindingInput) : Prop :=
  ∃ record, buildAnyBinding i = .ok record ∧ validateConnectionBinding record = .ok () ∧
    (record.get "binding_status" = .str "VALIDATED" ↔
      (∀ a ∈ i.addresses, PublicAny a) ∧ i.tlsIdentityStatus = "MATCHED" ∧ i.finalRevalidationResult = "MATCHED" ∧
        i.executionEnabled = true)

/-- For an endpoint that normalizes and legal arguments the builder returns its record exactly if every string that the record
takes up is text and the epochs can be written. -/
theorem built_iff [Runtime] [Idna] {i : AnyBindingInput} {target : NormalizedTarget} (h : i.Legal)
    (hendpoint : normalizeUrl i.endpoint = .ok target) : i.Built ↔ i.Writable := by
  constructor
  · rintro ⟨record, hbuild, -⟩
    exact writable_of_build hbuild
  · intro hwritable
    obtain ⟨record, hbuild, hvalid, hstatus⟩ :=
      buildConnectionBinding_legal (legal_texts h hwritable.destinationIdentityRef) hendpoint
    refine ⟨record, (build_texts hwritable).trans hbuild, hvalid, hstatus.trans (and_congr_left' ?_)⟩
    exact List.forall_mem_map.trans (forall₂_congr fun a ha => (publicAny_of_isText (hwritable.addresses a ha)).symm)

end AnyBindingInput

/-- A code point that is no character. -/
def loneSurrogate : CodePoint := ⟨0xd800, by decide⟩

/-- An answer of a resolver that is no text. -/
def exampleUntext : AnyBindingInput where
  endpoint := "https://example.com/"
  addresses := [⟨[loneSurrogate]⟩]
  observedAt := .ofString "2026-01-01T00:00:00Z"
  connectionEpoch := 3
  invalidationEpoch := 1

theorem exampleUntext_legal : exampleUntext.Legal where
  addresses := by decide
  connectionEpoch := by decide
  invalidationEpoch := by decide
  tlsIdentityStatus := .inl rfl
  finalRevalidationResult := .inl rfl
  proxy := .inr ⟨.inl rfl, rfl⟩
  destinationIdentityRef := by decide

/-- The builder raises for it. -/
theorem untext_raises :
    letI := asciiRuntime
    letI : Idna := ⟨none⟩
    exampleUntext.Legal ∧ (∃ target, normalizeUrl exampleUntext.endpoint = .ok target) ∧
      (∃ e, buildAnyBinding exampleUntext = .error e) ∧ ¬ exampleUntext.Built := by
  let := asciiRuntime
  let _ : Idna := ⟨none⟩
  have hnot (record : Dict) (hbuild : buildAnyBinding exampleUntext = .ok record) : False := by
    have haddress := (AnyBindingInput.writable_of_build hbuild).addresses _ List.mem_cons_self
    exact absurd haddress (by decide)
  refine ⟨exampleUntext_legal, ⟨_, normalizeUrl_example⟩, ?_, fun ⟨record, hbuild, _⟩ => hnot record hbuild⟩
  rcases hbuild : buildAnyBinding exampleUntext with e | record
  · exact ⟨e, rfl⟩
  · exact (hnot record hbuild).elim

/-- Two answers of a resolver, one of them no address, and an explicit proxy. -/
def exampleAnyLegal : AnyBindingInput where
  endpoint := "https://example.com/"
  addresses := [.ofString "not an address", .ofString "fe80::1%eth0"]
  observedAt := .ofString "2026-01-01T00:00:00Z"
  connectionEpoch := 3
  invalidationEpoch := 1
  tlsIdentityStatus := "MISMATCHED"
  proxyMode := "EXPLICIT_PROXY"
  proxyIdentityRef := some (.ofString "proxy://egress")

theorem exampleAnyLegal_legal : exampleAnyLegal.Legal where
  addresses := by decide
  connectionEpoch := by decide
  invalidationEpoch := by decide
  tlsIdentityStatus := .inr rfl
  finalRevalidationResult := .inl rfl
  proxy := .inl ⟨rfl, _, rfl, by decide⟩
  destinationIdentityRef := by decide

theorem exampleAnyLegal_writable : exampleAnyLegal.Writable where
  addresses := by decide
  observedAt := by decide
  resolverRef := by decide
  destinationIdentityRef := by simp [exampleAnyLegal]
  proxyIdentityRef := by simp [exampleAnyLegal]
  connectionEpoch := writesInt_of_lt (by decide)
  invalidationEpoch := writesInt_of_lt (by decide)

theorem built_iff_example :
    letI := asciiRuntime
    letI : Idna := ⟨none⟩
    exampleAnyLegal.Built :=
  let := asciiRuntime
  let _ : Idna := ⟨none⟩
  (AnyBindingInput.built_iff exampleAnyLegal_legal normalizeUrl_example).mpr exampleAnyLegal_writable

end Pmiri
