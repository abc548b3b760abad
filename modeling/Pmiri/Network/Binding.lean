import Pmiri.Network.Target
import Pmiri.Python.Order

/-!
# Connection bindings

`network.py`: the record that binds a connection to a resolution, a TLS
identity and the epochs it was revalidated in; its builder, and the validator
that recomputes what the record says. The validator walks two lists, the
resolved addresses and the revalidation events.
-/

namespace Pmiri

open Py

def CANONICALIZATION_PROFILE_ID : String := "D2-NETWORK-CANONICALIZATION-001"
def CANONICALIZATION_PROFILE_FINGERPRINT : String :=
  "04a8c5d312d2c17967cd90c874e8bcf779324349c043d0c53a6c828a260e3bbd"

def bindingFields : List String := [
  "record_type", "schema_version", "connection_binding_id", "destination_identity_ref",
  "canonicalization_profile_id", "canonicalization_profile_fingerprint", "normalized_authority",
  "resolver_ref", "resolved_addresses", "resolution_set_status", "selected_target", "proxy", "tls",
  "revalidation_events", "connection_epoch", "invalidation_epoch", "binding_status", "binding_fingerprint"]

def entryFields : List String :=
  ["resolution_entry_id", "ip", "family", "policy_status", "observed_at", "allowlist_ref"]

def selectionFields : List String := ["resolution_entry_ref", "ip", "family", "policy_status"]

def tlsFields : List String := [
  "scheme", "sni", "certificate_fingerprint", "identity_status", "expected_identity_ref", "verified_identity_ref",
  "identity_binding_fingerprint"]

def eventFields : List String := [
  "sequence", "event_type", "observed_at", "result", "prior_connection_epoch", "connection_epoch",
  "prior_invalidation_epoch", "invalidation_epoch"]

/-! ## Resolved addresses -/

/-- `ipaddress.ip_address(v)`; `none` where it raises `ValueError`. An integer
is an address, IPv4 if it fits. -/
def ipOfVal : Val → Option IpAddress
  | .str s => IpAddress.read s
  | .bool b => some (.v4 b.toNat)
  | .int i => if 0 ≤ i && i < 2 ^ 32 then some (.v4 i.toNat) else if 0 ≤ i && i < 2 ^ 128 then some (.v6 i.toNat none) else none
  | _ => none

/-- One round of the loop over the resolved addresses: the entry. -/
def checkEntry (entry : Val) : Except Exc Dict :=
  match entry.asDict with
  | none => .error (networkBoundaryError "CONNECTION_RESOLUTION_ENTRY_INVALID")
  | some e => do
    raiseIf (!entryFields.all e.contains) (networkBoundaryError "CONNECTION_RESOLUTION_ENTRY_INVALID")
    raiseIf (!e.keysAre entryFields) (networkBoundaryError "CONNECTION_RESOLUTION_ENTRY_FIELD_SET_INVALID")
    match ipOfVal (e.get "ip") with
    | none =>
      raiseIf (differs e "policy_status" "DENIED_UNALLOWLISTED" || differs e "family" "IPv4")
        (networkBoundaryError "CONNECTION_RESOLUTION_ENTRY_MISMATCH")
    | some address =>
      -- the address is classified by its own text, which `ip` is by then
      raiseIf (differs e "ip" address.print || differs e "family" (familyOf address) ||
        differs e "policy_status" (classifyAddress address.print))
        (networkBoundaryError "CONNECTION_RESOLUTION_ENTRY_MISMATCH")
    return e

/-- The loop over the resolved addresses. -/
def checkEntries : List Val → Except Exc (List Dict)
  | [] => .ok []
  | entry :: rest => do return (← checkEntry entry) :: (← checkEntries rest)

def isPublic (entry : Dict) : Bool := !differs entry "policy_status" "ALLOWLISTED_PUBLIC"

/-- `expected_set_status` -/
def expectedSetStatus (entries : List Dict) : String :=
  if entries.all isPublic then "ALL_ALLOWLISTED_PUBLIC" else "DENIED_MIXED"

def checkSelection (entries : List Dict) (selected : Val) : Except Exc Unit :=
  if entries.all isPublic then
    match selected.asDict with
    | none => .error (networkBoundaryError "CONNECTION_SELECTED_TARGET_MISSING")
    | some s => do
      raiseIf (!(← (s.get "resolution_entry_ref").inSet (entries.map (·.get "resolution_entry_id"))))
        (networkBoundaryError "CONNECTION_SELECTED_TARGET_MISSING")
      let r ← s.item "resolution_entry_ref"
      match entries.find? fun entry => (entry.get "resolution_entry_id").eq r with
      | none => .error (.lookupError "StopIteration")
      | some entry =>
        raiseIf (["ip", "family", "policy_status"].any fun key => !s.agrees key entry key)
          (networkBoundaryError "CONNECTION_SELECTED_TARGET_MISMATCH")
  else if selected.isNone then .ok ()
  else
    match selected.asDict with
    | none => .error (networkBoundaryError "CONNECTION_DENIED_SELECTION_INVALID")
    | some s => do
      raiseIf (!s.keysAre selectionFields || differs s "policy_status" "ALLOWLISTED_PUBLIC")
        (networkBoundaryError "CONNECTION_DENIED_SELECTION_INVALID")
      raiseIf (entries.all (!isPublic ·)) (networkBoundaryError "CONNECTION_DENIED_SELECTION_INVALID")

/-! ## Proxy and TLS -/

def checkProxy (proxy : Val) : Except Exc Unit :=
  match proxy.asDict with
  | none => .error (networkBoundaryError "CONNECTION_PROXY_INVALID")
  | some p => do
    raiseIfM ((p.get "mode").notIn ["DIRECT", "EXPLICIT_PROXY", "DENY"]) (networkBoundaryError "CONNECTION_PROXY_INVALID")
    raiseIf (!differs p "mode" "EXPLICIT_PROXY" && !(p.get "proxy_identity_ref").truthy)
      (networkBoundaryError "CONNECTION_PROXY_IDENTITY_MISSING")
    raiseIf (differs p "mode" "EXPLICIT_PROXY" && p.contains "proxy_identity_ref")
      (networkBoundaryError "CONNECTION_PROXY_IDENTITY_FORBIDDEN")
    raiseIf (!p.keysWithin ["mode", "proxy_identity_ref"]) (networkBoundaryError "CONNECTION_PROXY_FIELD_SET_INVALID")

/-- The server name of an authority: an IPv6 address without its brackets. -/
def sniOf (authority : Val) : Except Exc String :=
  match authority with
  | .str s =>
    let cs := s.toList
    .ok (if startsWith cs "[" && cs.getLast? == some ']' then String.ofList (cs.drop 1).dropLast else s)
  | _ => .error (.attributeError "startswith")

section Validator

variable [Runtime]

/-- The digest of an authority and its TLS status, under the name `key`. -/
def tlsDigest (authority status : Val) (key : String) : String :=
  sha256Json (Dict.ofItems [("authority", authority), (key, status)]).toVal

def checkTls (record : Dict) : Except Exc Unit :=
  match (record.get "tls").asDict with
  | none => .error (networkBoundaryError "CONNECTION_TLS_INVALID")
  | some tls => do
    raiseIfM (pyOr (.ok (!tls.keysAre tlsFields || differs tls "scheme" "HTTPS"))
      ((tls.get "identity_status").notIn ["MATCHED", "MISMATCHED"])) (networkBoundaryError "CONNECTION_TLS_INVALID")
    let authority := record.get "normalized_authority"
    let expectedSni ← sniOf authority
    raiseIf (differs tls "sni" expectedSni || !tls.agrees "expected_identity_ref" record "destination_identity_ref")
      (networkBoundaryError "CONNECTION_TLS_IDENTITY_BINDING_INVALID")
    raiseIf (differs tls "certificate_fingerprint" (tlsDigest authority (tls.get "identity_status") "tls"))
      (networkBoundaryError "CONNECTION_TLS_CERTIFICATE_FINGERPRINT_INVALID")
    raiseIf (differs tls "identity_binding_fingerprint" (tlsDigest authority (tls.get "identity_status") "status"))
      (networkBoundaryError "CONNECTION_TLS_FINGERPRINT_INVALID")
    raiseIf (!differs tls "identity_status" "MATCHED" && !tls.agrees "verified_identity_ref" tls "expected_identity_ref")
      (networkBoundaryError "CONNECTION_TLS_VERIFIED_IDENTITY_INVALID")
    raiseIf (!differs tls "identity_status" "MISMATCHED" &&
      tls.agrees "verified_identity_ref" tls "expected_identity_ref")
      (networkBoundaryError "CONNECTION_TLS_MISMATCH_NOT_PROVEN")

/-! ## Revalidation events -/

omit [Runtime] in
/-- The epochs an event says it leads from and to. -/
def checkEventEpochs (e : Dict) : Except Exc Unit :=
  if !differs e "event_type" "INITIAL_RESOLUTION" then
    raiseIf (!e.agrees "prior_connection_epoch" e "connection_epoch" ||
      !e.agrees "prior_invalidation_epoch" e "invalidation_epoch")
      (networkBoundaryError "CONNECTION_INITIAL_EPOCH_INVALID")
  else if !differs e "event_type" "POLICY_EPOCH_CHANGE" then
    raiseIfM (pyOr (.ok (!e.agrees "connection_epoch" e "prior_connection_epoch"))
      ((e.get "prior_invalidation_epoch").plusOne.map fun n => !(e.get "invalidation_epoch").isNumber n))
      (networkBoundaryError "CONNECTION_POLICY_EPOCH_INVALID")
  else
    raiseIfM (pyOr ((e.get "prior_connection_epoch").plusOne.map fun n => !(e.get "connection_epoch").isNumber n)
      (.ok (!e.agrees "invalidation_epoch" e "prior_invalidation_epoch")))
      (networkBoundaryError "CONNECTION_REVALIDATION_EPOCH_INVALID")

omit [Runtime] in
/-- One round of the loop over the events, after an event with the time stamp
`previousTime` (`None` before the first): the event. -/
def checkEvent (index : Nat) (previousTime event : Val) : Except Exc Dict :=
  match event.asDict with
  | none => .error (networkBoundaryError "CONNECTION_REVALIDATION_EVENT_INVALID")
  | some e => do
    raiseIf (!e.keysWithin (eventFields ++ ["reason_class"]) || !eventFields.all e.contains)
      (networkBoundaryError "CONNECTION_REVALIDATION_EVENT_INVALID")
    raiseIfM (pyAnd (.ok (e.contains "reason_class")) ((e.get "reason_class").notIn ["NONE", "EXACT_BINDING_MISSING"]))
      (networkBoundaryError "CONNECTION_REVALIDATION_REASON_INVALID")
    raiseIf (!(e.get "sequence").eq (.int index)) (networkBoundaryError "CONNECTION_REVALIDATION_SEQUENCE_INVALID")
    raiseIf (index == 0 && differs e "event_type" "INITIAL_RESOLUTION")
      (networkBoundaryError "CONNECTION_INITIAL_EVENT_INVALID")
    raiseIfM (if previousTime.isNone then .ok false else (e.get "observed_at").lt previousTime)
      (networkBoundaryError "CONNECTION_REVALIDATION_TIME_INVALID")
    checkEventEpochs e
    return e

omit [Runtime] in
/-- The loop over the events. -/
def checkEvents (index : Nat) (previousTime : Val) : List Val → Except Exc (List Dict)
  | [] => .ok []
  | event :: rest => do
    let e ← checkEvent index previousTime event
    return e :: (← checkEvents (index + 1) (e.get "observed_at") rest)

/-! ## The validator -/

/-- The checks on the record itself, before its parts. -/
def checkHeader (record : Dict) : Except Exc Unit := do
  raiseIf (!bindingFields.all record.contains) (networkBoundaryError "CONNECTION_BINDING_FIELD_MISSING")
  raiseIf (differs record "record_type" "PMIRI_D2_CONNECTION_BINDING" || differs record "schema_version" "0.3")
    (networkBoundaryError "CONNECTION_BINDING_SCHEMA_INVALID")
  raiseIf (!record.keysAre bindingFields || !(record.get "destination_identity_ref").isNonemptyStr)
    (networkBoundaryError "CONNECTION_BINDING_FIELD_SET_INVALID")
  raiseIf (differs record "canonicalization_profile_id" CANONICALIZATION_PROFILE_ID ||
    differs record "canonicalization_profile_fingerprint" CANONICALIZATION_PROFILE_FINGERPRINT)
    (networkBoundaryError "CANONICALIZATION_PROFILE_MISMATCH")
  raiseIf (!isSha256 (record.get "binding_fingerprint") ||
    differs record "binding_fingerprint" (sha256Json (record.without "binding_fingerprint").toVal))
    (networkBoundaryError "CONNECTION_BINDING_FINGERPRINT_INVALID")
  raiseIfM ((record.get "resolution_set_status").notIn ["ALL_ALLOWLISTED_PUBLIC", "DENIED_MIXED"])
    (networkBoundaryError "CONNECTION_RESOLUTION_SET_INVALID")
  raiseIfM ((record.get "binding_status").notIn ["VALIDATED", "DENIED", "STALE"])
    (networkBoundaryError "CONNECTION_BINDING_STATUS_INVALID")
  raiseIf (["connection_epoch", "invalidation_epoch"].any fun field => !(record.get field).isNatural)
    (networkBoundaryError "CONNECTION_EPOCH_INVALID")

omit [Runtime] in
/-- `isinstance(v, list) and v`, as the elements. -/
def nonemptyList (v : Val) (message : String) : Except Exc (List Val) :=
  match v with
  | .list (x :: xs) => .ok (x :: xs)
  | _ => .error (networkBoundaryError message)

def validateConnectionBinding (record : Dict) : Except Exc Unit := do
  checkHeader record
  let entries ← checkEntries (← nonemptyList (record.get "resolved_addresses") "CONNECTION_RESOLUTION_EMPTY")
  raiseIf (differs record "resolution_set_status" (expectedSetStatus entries))
    (networkBoundaryError "CONNECTION_RESOLUTION_SET_MISMATCH")
  checkSelection entries (record.get "selected_target")
  checkProxy (record.get "proxy")
  checkTls record
  let events ← checkEvents 0 .none (← nonemptyList (record.get "revalidation_events") "CONNECTION_REVALIDATION_EMPTY")
  let last := events.getLastD .empty
  raiseIf (!record.agrees "connection_epoch" last "connection_epoch" ||
    !record.agrees "invalidation_epoch" last "invalidation_epoch") (networkBoundaryError "CONNECTION_FINAL_EPOCH_MISMATCH")
  raiseIf (!differs record "binding_status" "VALIDATED" &&
    (expectedSetStatus entries != "ALL_ALLOWLISTED_PUBLIC" || (record.get "selected_target").isNone ||
      ((record.get "tls").asDict.all fun tls => differs tls "identity_status" "MATCHED") ||
      differs last "result" "MATCHED"))
    (networkBoundaryError "CONNECTION_VALIDATED_STATE_INVALID")

end Validator

end Pmiri
