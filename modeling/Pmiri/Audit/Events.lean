import Pmiri.Read.Operations

/-!
# Audit events

`audit.py`: the events of the local read boundary, and what is checked of one
before it is written and after it is read.
-/

namespace Pmiri

open Py

def AUDIT_EVENT_TYPE : String := "PMIRI_READ_AUDIT_EVENT"
def AUDIT_VERSION : String := "0.1"
def auditOutcomes : List String := ["EMITTED", "REJECTED"]
def auditTransports : List String := ["HTTP_LOOPBACK", "LOCAL"]

/-- `AuditError(msg)` -/
def auditError (msg : String) : Exc := .valueError "AuditError" msg

/-- `_audit_operation` -/
def auditOperation : Option String → String
  | some operation => if READ_OPERATIONS.contains operation then operation else "unknown"
  | none => "unknown"

/-- An event; the fingerprints are what a response had for them. -/
structure ReadAuditEvent where
  capturedAt : String
  transport : String
  operation : String
  outcome : String
  statusCode : Int
  projectionFingerprint : Val
  typedResultFingerprint : Val
  errorCode : Val
  eventId : String
  eventFingerprint : String

namespace ReadAuditEvent

/-- The items of `payload()`. -/
def payloadItems (e : ReadAuditEvent) : List (String × Val) := [
  ("artifact_type", .str AUDIT_EVENT_TYPE),
  ("artifact_version", .str AUDIT_VERSION),
  ("captured_at", .str e.capturedAt),
  ("transport", .str e.transport),
  ("operation", .str e.operation),
  ("outcome", .str e.outcome),
  ("status_code", .int e.statusCode),
  ("projection_fingerprint", e.projectionFingerprint),
  ("typed_result_fingerprint", e.typedResultFingerprint),
  ("error_code", e.errorCode)]

def payload (e : ReadAuditEvent) : Dict := .ofItems e.payloadItems

def structured (e : ReadAuditEvent) : Dict :=
  .ofItems (e.payloadItems ++ [("event_id", .str e.eventId), ("event_fingerprint", .str e.eventFingerprint)])

theorem items_structured (e : ReadAuditEvent) :
    e.structured.items = e.payloadItems ++ [("event_id", .str e.eventId), ("event_fingerprint", .str e.eventFingerprint)] :=
  Dict.ofItems_items (by simp [payloadItems])

theorem get_structured {e : ReadAuditEvent} {k : String} {v : Val}
    (h : (k, v) ∈ e.payloadItems ++ [("event_id", .str e.eventId), ("event_fingerprint", .str e.eventFingerprint)]) :
    e.structured.get k = v := by
  rw [← items_structured] at h
  rw [Dict.get, Dict.mem_items_iff.mp h, Option.getD_some]

section

variable [Runtime]

/-- `audit_` and the first 32 characters of a fingerprint. -/
def idOf (fingerprint : String) : String := "audit_" ++ String.ofList (fingerprint.toList.take 32)

/-- `ReadAuditEvent.create` -/
def create (transport : String) (operation : Option String) (outcome : String) (statusCode : Int)
    (projectionFingerprint typedResultFingerprint errorCode : Val) (capturedAt : Option String) (clock : Instant) :
    ReadAuditEvent :=
  let e : ReadAuditEvent := {
    capturedAt := orNow capturedAt clock
    transport := transport
    operation := auditOperation operation
    outcome := outcome
    statusCode := statusCode
    projectionFingerprint := projectionFingerprint
    typedResultFingerprint := typedResultFingerprint
    errorCode := errorCode
    eventId := ""
    eventFingerprint := "" }
  let fingerprint := sha256Json e.payload.toVal
  { e with eventId := idOf fingerprint, eventFingerprint := fingerprint }

/-- `ReadAuditEvent.emitted`, of a loopback request. -/
def emitted (operation : String) (projectionFingerprint typedResultFingerprint : Val) (clock : Instant) : ReadAuditEvent :=
  create "HTTP_LOOPBACK" (some operation) "EMITTED" 200 projectionFingerprint typedResultFingerprint .none none clock

/-- `ReadAuditEvent.rejected`, of a loopback request. -/
def rejected (operation : Option String) (statusCode : Int) (clock : Instant) : ReadAuditEvent :=
  create "HTTP_LOOPBACK" operation "REJECTED" statusCode .none .none (.str "REQUEST_REJECTED") none clock

end

end ReadAuditEvent

/-! ## Validation -/

def auditPayloadFields : List String := [
  "artifact_type", "artifact_version", "captured_at", "transport", "operation", "outcome", "status_code",
  "projection_fingerprint", "typed_result_fingerprint", "error_code"]

def auditEventFields : List String := auditPayloadFields ++ ["event_id", "event_fingerprint"]

/-- `status` is an `int` from 100 to 599. -/
def isStatusCode : Val → Bool
  | .int status => decide (100 ≤ status ∧ status ≤ 599)
  | _ => false

/-- The errors of one fingerprint field. -/
def auditFingerprintErrors (event : Dict) (field : String) : List String :=
  errorIf (!(event.get field).isNone && !isSha256 (event.get field)) ("fingerprint_invalid:" ++ field)

/-- The errors of what an outcome requires. -/
def auditOutcomeErrors (event : Dict) : List String :=
  if !differs event "outcome" "EMITTED" then
    errorIf (!isSha256 (event.get "projection_fingerprint") || !isSha256 (event.get "typed_result_fingerprint"))
      "emitted_fingerprints_missing" ++
    errorIf (!(event.get "error_code").isNone) "emitted_error_present"
  else if !differs event "outcome" "REJECTED" then
    errorIf (!(event.get "projection_fingerprint").isNone || !(event.get "typed_result_fingerprint").isNone)
      "rejected_fingerprints_present" ++
    errorIf (differs event "error_code" "REQUEST_REJECTED") "rejected_error_invalid"
  else []

section

variable [Runtime]

/-- The errors of the id and the fingerprint of an event. -/
def auditIdentityErrors (event : Dict) : List String :=
  let eventId := event.get "event_id"
  let claimed := event.get "event_fingerprint"
  let unsigned := Dict.ofItems (auditPayloadFields.map fun key => (key, event.get key))
  errorIf (!(eventId.isStr && "audit_".toList.isPrefixOf eventId.strText.toList)) "event_id_invalid" ++
  errorIf (!isSha256 claimed || differs event "event_fingerprint" (sha256Json unsigned.toVal)) "event_fingerprint_mismatch" ++
  errorIf (eventId.isStr && isSha256 claimed && differs event "event_id" (ReadAuditEvent.idOf claimed.strText))
    "event_id_fingerprint_mismatch"

/-- `validate_audit_event` -/
def validateAuditEvent (event : Dict) : Except Exc (List String) := do
  let transportKnown ← (event.get "transport").isIn auditTransports
  let outcomeKnown ← (event.get "outcome").isIn auditOutcomes
  let operationKnown := (READ_OPERATIONS ++ ["unknown"]).any fun operation => (event.get "operation").eq (.str operation)
  return errorIf (!event.keysAre auditEventFields) "event_shape_invalid" ++
    errorIf (differs event "artifact_type" AUDIT_EVENT_TYPE || differs event "artifact_version" AUDIT_VERSION)
      "event_identity_invalid" ++
    errorIf (!(event.get "captured_at").isNonemptyStr) "captured_at_invalid" ++
    errorIf (!transportKnown) "transport_invalid" ++
    errorIf (!operationKnown) "operation_invalid" ++
    errorIf (!outcomeKnown) "outcome_invalid" ++
    errorIf (!isStatusCode (event.get "status_code")) "status_code_invalid" ++
    auditFingerprintErrors event "projection_fingerprint" ++
    auditFingerprintErrors event "typed_result_fingerprint" ++
    auditOutcomeErrors event ++
    auditIdentityErrors event

namespace ReadAuditEvent

omit [Runtime] in
/-- What is fingerprinted of an event. -/
theorem unsigned_structured (e : ReadAuditEvent) :
    Dict.ofItems (auditPayloadFields.map fun key => (key, e.structured.get key)) = e.payload := by
  have hkeys : auditPayloadFields = e.payloadItems.map Prod.fst := rfl
  have hitems : (e.payloadItems.map fun kv => (kv.1, e.structured.get kv.1)) = e.payloadItems.map id := by
    refine List.map_congr_left fun kv hkv => ?_
    rw [get_structured (List.mem_append_left _ hkv), id]
  rw [payload, hkeys, List.map_map]
  exact congrArg Dict.ofItems (hitems.trans (List.map_id _))

/-- An event that is created signs itself. -/
theorem identityErrors_create (transport : String) (operation : Option String) (outcome : String) (statusCode : Int)
    (projectionFingerprint typedResultFingerprint errorCode : Val) (capturedAt : Option String) (clock : Instant) :
    auditIdentityErrors (create transport operation outcome statusCode projectionFingerprint typedResultFingerprint errorCode
      capturedAt clock).structured = [] := by
  generalize he : create transport operation outcome statusCode projectionFingerprint typedResultFingerprint errorCode
    capturedAt clock = e
  have hfingerprint : e.eventFingerprint = sha256Json e.payload.toVal := by
    rw [← he]
    rfl
  have hid : e.eventId = idOf e.eventFingerprint := by
    rw [← he]
    rfl
  have hgetId : e.structured.get "event_id" = .str (idOf e.eventFingerprint) := by
    rw [← hid]
    exact get_structured (by simp)
  have hgetFingerprint : e.structured.get "event_fingerprint" = .str e.eventFingerprint := get_structured (by simp)
  have hstarts : "audit_".toList.isPrefixOf (idOf e.eventFingerprint).toList = true := by
    rw [idOf, String.toList_append, List.isPrefixOf_iff_prefix]
    exact List.prefix_append _ _
  have hsha : isSha256 (.str e.eventFingerprint) = true := by
    rw [hfingerprint]
    exact isSha256_sha256Json _
  have hsigned : differs e.structured "event_fingerprint" (sha256Json e.payload.toVal) = false := by
    rw [differs_false, hgetFingerprint, hfingerprint]
  have hnamed : differs e.structured "event_id" (idOf e.eventFingerprint) = false := differs_false.mpr hgetId
  simp only [auditIdentityErrors, unsigned_structured, hsigned, hgetId, hgetFingerprint, hsha, hstarts, hnamed, Val.isStr,
    Val.strText, Bool.and_self, Bool.not_true, Bool.or_self, Bool.and_false, errorIf, Bool.false_eq_true,
    ↓reduceIte, List.append_nil]

end ReadAuditEvent

omit [Runtime] in
theorem auditOperation_known (operation : Option String) :
    (READ_OPERATIONS ++ ["unknown"]).any (fun known => (Val.str (auditOperation operation)).eq (.str known)) = true := by
  rw [List.any_eq_true]
  refine ⟨auditOperation operation, ?_, Val.eq_refl _⟩
  rw [auditOperation.eq_def]
  split
  · split
    · rename_i hknown
      exact List.mem_append_left _ (List.contains_iff_mem.mp hknown)
    · exact List.mem_append_right _ List.mem_cons_self
  · exact List.mem_append_right _ List.mem_cons_self

/-- A rejection with a status code is a valid event. -/
theorem validateAuditEvent_rejected {transport : String} (htransport : auditTransports.contains transport = true)
    (operation : Option String) {statusCode : Int} (hstatus : 100 ≤ statusCode ∧ statusCode ≤ 599) (capturedAt : Option String)
    (clock : Instant) :
    validateAuditEvent (ReadAuditEvent.create transport operation "REJECTED" statusCode .none .none (.str "REQUEST_REJECTED")
      capturedAt clock).structured = .ok [] := by
  have hidentity := ReadAuditEvent.identityErrors_create transport operation "REJECTED" statusCode .none .none
    (.str "REQUEST_REJECTED") capturedAt clock
  have htime := orNow_ne_empty capturedAt clock
  have hoperation := auditOperation_known operation
  generalize he : ReadAuditEvent.create transport operation "REJECTED" statusCode .none .none (.str "REQUEST_REJECTED")
    capturedAt clock = e at hidentity
  have hkeys : e.structured.keysAre auditEventFields = true := by
    refine Dict.keysAre_iff.mpr fun k => ?_
    rw [Dict.keys, ReadAuditEvent.items_structured]
    rfl
  have hget {k : String} {v : Val} (hmem : (k, v) ∈ (ReadAuditEvent.create transport operation "REJECTED" statusCode .none
      .none (.str "REQUEST_REJECTED") capturedAt clock).payloadItems) : e.structured.get k = v := by
    rw [he] at hmem
    exact ReadAuditEvent.get_structured (List.mem_append_left _ hmem)
  simp only [ReadAuditEvent.payloadItems, ReadAuditEvent.create] at hget
  have htype : e.structured.get "artifact_type" = .str AUDIT_EVENT_TYPE := hget (by simp)
  have hversion : e.structured.get "artifact_version" = .str AUDIT_VERSION := hget (by simp)
  have hcaptured : e.structured.get "captured_at" = .str (orNow capturedAt clock) := hget (by simp)
  have htransport' : e.structured.get "transport" = .str transport := hget (by simp)
  have hoperation' : e.structured.get "operation" = .str (auditOperation operation) := hget (by simp)
  have houtcome : e.structured.get "outcome" = .str "REJECTED" := hget (by simp)
  have hcode : e.structured.get "status_code" = .int statusCode := hget (by simp)
  have hprojection : e.structured.get "projection_fingerprint" = .none := hget (by simp)
  have htyped : e.structured.get "typed_result_fingerprint" = .none := hget (by simp)
  have herror : e.structured.get "error_code" = .str "REQUEST_REJECTED" := hget (by simp)
  have hemitted : differs e.structured "outcome" "EMITTED" = true := by
    rw [differs_true, houtcome]
    simp
  simp only [validateAuditEvent, htransport', houtcome, hoperation', hoperation, hkeys, differs_false.mpr htype,
    differs_false.mpr hversion, hcaptured, hcode, auditFingerprintErrors, hprojection, htyped, auditOutcomeErrors, hemitted,
    differs_false.mpr houtcome, differs_false.mpr herror, hidentity, Val.isIn_str, htransport, isStatusCode, ok_bind,
    Val.isNonemptyStr_str, Val.isNone, decide_eq_true hstatus, bne_iff_ne.mpr htime, errorIf]
  rfl

end

end Pmiri
