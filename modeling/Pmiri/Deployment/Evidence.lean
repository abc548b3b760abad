import Pmiri.Canonical
import Pmiri.Keyed
import Pmiri.Python.Base64
import Pmiri.Python.JsonText

/-!
# Signed deployment evidence

`deployment_evidence.py`: a record of checks that someone signed with the
deployment key. The evidence for readiness and the evidence for final
acceptance are verified alike. What keys and signatures are is taken from
their library.
-/

namespace Pmiri

open Py

/-- `Ed25519PublicKey` and `load_pem_public_key`. -/
class Cryptography where
  /-- `Ed25519PublicKey.from_public_bytes(key).verify(signature, message)` does not raise. -/
  verify : (key signature message : ByteArray) → Bool
  /-- The raw bytes of the key, if it is an Ed25519 key. -/
  loadPemPublicKey : ByteArray → Except Exc (Option ByteArray)

/-- `DeploymentEvidenceError(msg)` -/
def deploymentEvidenceError (msg : String) : Exc := .valueError "DeploymentEvidenceError" msg

/-! ## What is required -/

structure Requirement where
  checkId : String
  assertion : String
  observedValues : Dict := .empty

def EXTERNAL_REQUIREMENTS : List Requirement := [
  { checkId := "EXT-01", assertion := "INDEPENDENT_CLEAN_ROOM" },
  { checkId := "EXT-02", assertion := "DEPLOYED_IDENTITY_PROVIDER" },
  { checkId := "EXT-03", assertion := "DISTRIBUTED_CONTROL_PLANE" },
  { checkId := "EXT-04", assertion := "METADATA_ENCRYPTION_AND_KEY_ESCROW" },
  { checkId := "EXT-05", assertion := "REAL_PROVIDER_CONNECTOR_AUTHORIZATION" },
  { checkId := "EXT-06", assertion := "INDEPENDENT_GATE_D_RECHECK" }]

def FINAL_ACCEPTANCE_ASSERTIONS : List Requirement := [
  { checkId := "FA-02", assertion := "D2_CONTROLLED_ACCEPTANCE",
    observedValues := .ofItems [("scenario_count", .int 34), ("all_oracles_match", .bool true),
      ("runtime_execution", .str "CONTROLLED"), ("d2_acceptance", .str "ACCEPTED")] },
  { checkId := "FA-03", assertion := "R_FC_17_OF_17_PASS",
    observedValues := .ofItems [("required_obligations", .int 17), ("passed_obligations", .int 17),
      ("r_fc_pass", .str "PASS"), ("runtime_execution", .str "CONTROLLED")] },
  { checkId := "FA-04", assertion := "MIGRATION_RESTORE_FAILOVER_ACCEPTED",
    observedValues := .ofItems [("migration", .str "ACCEPTED"), ("restore", .str "ACCEPTED"), ("failover", .str "ACCEPTED")] },
  { checkId := "FA-05", assertion := "INDEPENDENT_D2_R_FC_REVIEW",
    observedValues := .ofItems [("d2_review", .str "ACCEPTED"), ("r_fc_review", .str "ACCEPTED")] },
  { checkId := "FA-06", assertion := "OPERATIONS_APPROVAL", observedValues := .ofItems [("status", .str "APPROVED")] }]

/-- What tells one kind of evidence from the other. -/
structure EvidenceForm where
  name : String
  artifactKind : String
  version : String
  /-- The fields that have to hold a given fingerprint. -/
  bindings : List (String × String)
  bindingError : String
  itemsField : String
  noun : String
  requirements : List Requirement
  /-- The items have observed values. -/
  valued : Bool

namespace EvidenceForm

def fields (form : EvidenceForm) : List String :=
  ["artifact_kind", "version", "status", "profile_id", "profile_fingerprint"] ++ form.bindings.map Prod.fst ++
    [form.itemsField, "issuer", "independent_review", "payload_sha256", "signature"]

/-- The fields of an item that its fingerprint is taken over. -/
def observedFields (form : EvidenceForm) : List String :=
  ["check_id", "assertion", "result"] ++ (if form.valued then ["observed_values"] else []) ++ ["observation", "evidence_refs"]

def itemFields (form : EvidenceForm) : List String := form.observedFields ++ ["observed_fingerprint"]

def error (form : EvidenceForm) (msg : String) : Exc := deploymentEvidenceError (form.name ++ "_" ++ msg)

def itemError (form : EvidenceForm) (msg : String) : Exc := form.error (form.noun ++ "_" ++ msg)

/-- `sorted(expected)` -/
def checkIds (form : EvidenceForm) : List String := Keyed.sortBy id (form.requirements.map (·.checkId))

end EvidenceForm

/-! ## Verification -/

/-- `VerifiedDeploymentEvidence` and `VerifiedFinalAcceptanceEvidence`; `checks` are the assertions of the latter. -/
structure VerifiedEvidence where
  evidenceFingerprint : String
  checks : List (String × Dict)
  issuerId : String
  reviewerId : String

/-- `_read_record`, of what reading the file and its JSON text gives. -/
def readRecord (file : Option Val) : Except Exc Dict :=
  match file with
  | none => .error (deploymentEvidenceError "deployment_evidence_invalid_json")
  | some v => dictOr v (deploymentEvidenceError "deployment_evidence_shape_invalid")

/-- `value.strip()` -/
def stripBytes (value : ByteArray) : ByteArray :=
  let isSpace (b : UInt8) : Bool := b == 32 || (9 ≤ b && b ≤ 13)
  ⟨((value.toList.dropWhile isSpace).reverse.dropWhile isSpace).reverse.toArray⟩

/-- `_decode_public_key` -/
def decodePublicKey [Cryptography] (value : ByteArray) : Except Exc ByteArray :=
  if value.isEmpty then .error (deploymentEvidenceError "deployment_public_key_missing")
  else if "-----BEGIN".toUTF8.toList.isPrefixOf value.toList then
    match Cryptography.loadPemPublicKey value with
    | .error e =>
      .error (match e with
        | .valueError .. | .typeError _ => deploymentEvidenceError "deployment_public_key_invalid"
        | e => e)
    | .ok none => .error (deploymentEvidenceError "deployment_public_key_algorithm_invalid")
    | .ok (some key) => .ok key
  else if value.size = 32 then .ok value
  else
    match b64decodeBytes (stripBytes value) with
    | none => .error (deploymentEvidenceError "deployment_public_key_encoding_invalid")
    | some decoded =>
      if decoded.size ≠ 32 then .error (deploymentEvidenceError "deployment_public_key_length_invalid") else .ok decoded

/-- `base64.b64decode(value.encode("ascii"), validate=True)` -/
def decodeSignature (value : String) : Option ByteArray :=
  if isAscii value.toList then b64decode value else none

namespace EvidenceForm

variable (form : EvidenceForm)

/-- `{"issuer": …}` and `{"independent_review": …}`: who issued the record, and who reviewed it. -/
def parties (record : Dict) : Except Exc (Dict × String × String) := do
  let issuer ← dictOr (record.get "issuer") (form.error "issuer_invalid")
  raiseIf (!issuer.keysAre ["key_id", "principal_id", "role"]) (form.error "issuer_invalid")
  raiseIf (differs issuer "role" "deployment_authority" || !(issuer.get "principal_id").isNonemptyStr)
    (form.error "issuer_invalid")
  let review ← dictOr (record.get "independent_review") (form.error "review_invalid")
  raiseIf (!review.keysAre ["reviewer_id", "review_result", "evidence_ref"]) (form.error "review_invalid")
  raiseIf (differs review "review_result" "ACCEPTED" || !(review.get "reviewer_id").isNonemptyStr ||
    !(review.get "evidence_ref").isNonemptyStr) (form.error "review_invalid")
  raiseIf (issuer.agrees "principal_id" review "reviewer_id") (form.error "reviewer_not_independent")
  return (issuer, (issuer.get "principal_id").strText, (review.get "reviewer_id").strText)

/-- The elements of the list of items; `None` for an item that is not an object. -/
def items (record : Dict) : Except Exc (List (Option Dict)) :=
  match record.get form.itemsField with
  | .list items =>
    let items := items.map Val.asDict
    if Val.eqList (items.filterMap fun item => item.map fun d => d.get "check_id") (form.checkIds.map .str) then .ok items
    else .error (form.error (form.itemsField ++ "_invalid"))
  | _ => .error (form.error (form.itemsField ++ "_invalid"))

/-- `check_id not in expected or item.get("assertion") != expected[check_id] or item.get("result") != "READY"` -/
def identified (item : Dict) : Except Exc Requirement := do
  let known ← (item.get "check_id").isIn form.checkIds
  match form.requirements.find? fun r => (item.get "check_id").eq (.str r.checkId) with
  | some r =>
    raiseIf (!known || differs item "assertion" r.assertion || differs item "result" "READY") (form.itemError "identity_invalid")
    return r
  | none => .error (form.itemError "identity_invalid")

variable [Runtime]

/-- One round of the loop over the items. -/
def verifyItem (item : Option Dict) : Except Exc (String × Dict) :=
  match item with
  | none => .error (form.itemError "shape_invalid")
  | some item => do
    raiseIf (!item.keysAre form.itemFields) (form.itemError "shape_invalid")
    let requirement ← form.identified item
    raiseIf (form.valued && !(item.get "observed_values").eq requirement.observedValues.toVal) (form.itemError "values_invalid")
    raiseIf (!(item.get "evidence_refs").isNonemptyList || !(item.get "evidence_refs").isStrList) (form.itemError "refs_invalid")
    raiseIf (!(item.get "observation").isNonemptyStr) (form.itemError "observation_invalid")
    raiseIf (differs item "observed_fingerprint" (sha256Json (item.filterKeys form.observedFields.contains).toVal))
      (form.itemError "fingerprint_mismatch")
    return (requirement.checkId, item)

def verifyItems : List (Option Dict) → Except Exc (List (String × Dict))
  | [] => .ok []
  | item :: items => do
    let check ← form.verifyItem item
    return check :: (← verifyItems items)

variable [Cryptography]

/-- The checks of the signature over everything but the signature. -/
def verifySignature (record issuer : Dict) (trustedPublicKey : ByteArray) : Except Exc String := do
  let publicKey ← decodePublicKey trustedPublicKey
  raiseIf (differs issuer "key_id" (sha256Bytes publicKey)) (form.error "key_id_mismatch")
  let unsigned := record.filterKeys fun key => ! ["payload_sha256", "signature"].contains key
  let payloadFingerprint := sha256Json unsigned.toVal
  raiseIf (differs record "payload_sha256" payloadFingerprint) (form.error "payload_fingerprint_mismatch")
  let signedPayload := unsigned.insert "payload_sha256" (.str payloadFingerprint)
  match record.get "signature" with
  | .str value =>
    match decodeSignature value with
    | none => .error (form.error "signature_invalid")
    | some signature =>
      raiseIf (!Cryptography.verify publicKey signature (canonicalJson signedPayload.toVal)) (form.error "signature_mismatch")
      return payloadFingerprint
  | _ => .error (form.error "signature_invalid")

def verify (file : Option Val) (trustedPublicKey : ByteArray) (profileId profileFingerprint : String) :
    Except Exc VerifiedEvidence := do
  let record ← readRecord file
  raiseIf (!record.keysAre form.fields) (form.error "fields_invalid")
  raiseIf (differs record "artifact_kind" form.artifactKind || differs record "version" form.version ||
    differs record "status" "VERIFIED") (form.error "identity_invalid")
  raiseIf (differs record "profile_id" profileId || differs record "profile_fingerprint" profileFingerprint)
    (form.error "profile_binding_mismatch")
  raiseIf (form.bindings.any fun b => differs record b.1 b.2) (form.error form.bindingError)
  raiseIf (!(isHex 64 profileFingerprint && form.bindings.all fun b => isHex 64 b.2)) (form.error "fingerprint_invalid")
  let (issuer, issuerId, reviewerId) ← form.parties record
  let items ← form.items record
  let checks ← form.verifyItems items
  let evidenceFingerprint ← form.verifySignature record issuer trustedPublicKey
  return { evidenceFingerprint, checks, issuerId, reviewerId }

end EvidenceForm

def externalEvidence (authorityFingerprint : String) : EvidenceForm where
  name := "deployment_evidence"
  artifactKind := "PMIRI-DEPLOYMENT-EXTERNAL-EVIDENCE"
  version := "0.1"
  bindings := [("authority_fingerprint", authorityFingerprint)]
  bindingError := "authority_binding_mismatch"
  itemsField := "checks"
  noun := "check"
  requirements := EXTERNAL_REQUIREMENTS
  valued := false

def finalAcceptanceEvidence (authorityFingerprint readinessReportFingerprint : String) : EvidenceForm where
  name := "final_acceptance_evidence"
  artifactKind := "PMIRI-FINAL-ACCEPTANCE-EVIDENCE"
  version := "0.1"
  bindings := [("authority_fingerprint", authorityFingerprint), ("readiness_report_fingerprint", readinessReportFingerprint)]
  bindingError := "readiness_binding_mismatch"
  itemsField := "assertions"
  noun := "assertion"
  requirements := FINAL_ACCEPTANCE_ASSERTIONS
  valued := true

section

variable [Runtime] [Cryptography]

def verifyExternalEvidence (file : Option Val) (trustedPublicKey : ByteArray)
    (profileId profileFingerprint authorityFingerprint : String) : Except Exc VerifiedEvidence :=
  (externalEvidence authorityFingerprint).verify file trustedPublicKey profileId profileFingerprint

def verifyFinalAcceptanceEvidence (file : Option Val) (trustedPublicKey : ByteArray)
    (profileId profileFingerprint authorityFingerprint readinessReportFingerprint : String) : Except Exc VerifiedEvidence :=
  (finalAcceptanceEvidence authorityFingerprint readinessReportFingerprint).verify file trustedPublicKey profileId profileFingerprint

end

end Pmiri
