import Pmiri.Canonical
import Pmiri.Python.Order

/-!
# Clean-room attestations

`clean_room.py` and `attestation.py`: what was observed of the isolation in
each domain, and an attestation of it that is bound to a case and to
fingerprints by its own digest.
-/

namespace Pmiri

open Py

/-! ## Observations -/

def DOMAINS : List String :=
  ["network", "credentials", "filesystem", "connectors", "determinism", "resource_limits", "teardown", "privacy"]

/-- `EXPECTED` -/
def expectedResult : String → String
  | "filesystem" => "ALLOWLIST_VERIFIED"
  | "determinism" | "resource_limits" | "privacy" => "VERIFIED"
  | "teardown" => "AVAILABLE"
  | _ => "DENIED"

structure IsolationObservation where
  domain : String
  result : String
  evidenceRef : String
  observation : String
deriving DecidableEq

def normalizeObservation (raw : Dict) : Except Exc IsolationObservation := do
  let domain := raw.get "domain"
  let result := raw.get "result"
  let evidenceRef := raw.get "evidence_ref"
  let observation := raw.get "observation"
  raiseIf (!DOMAINS.any fun d => domain.eq (.str d)) (.valueError "ValueError" "unknown_isolation_domain")
  raiseIfM (result.notIn ["VERIFIED", "DENIED", "ALLOWLIST_VERIFIED", "AVAILABLE", "UNVERIFIED", "FAILED"])
    (.valueError "ValueError" "invalid_isolation_result")
  raiseIf (!evidenceRef.isNonemptyStr || !observation.isNonemptyStr) (.valueError "ValueError" "isolation_evidence_missing")
  return ⟨domain.strText, result.strText, evidenceRef.strText, observation.strText⟩

/-- The observations by domain. -/
abbrev Isolation := List (String × IsolationObservation)

/-- The loop of `verify_attestation` over the domains. -/
def verifyDomains (evidence : Isolation) : List String → Bool × String
  | [] => (true, "READY_FOR_REPLAY")
  | domain :: domains =>
    match evidence.lookup domain with
    | none => (false, "BLOCKED")
    | some observation =>
      if ["FAILED", "UNVERIFIED"].contains observation.result then (false, "ISOLATION_VIOLATION")
      else if observation.result != expectedResult domain then (false, "BLOCKED")
      else verifyDomains evidence domains

def verifyAttestation (evidence : Isolation) : Bool × String :=
  if (evidence.map Prod.fst).all DOMAINS.contains && DOMAINS.all (evidence.map Prod.fst).contains then
    verifyDomains evidence DOMAINS
  else (false, "BLOCKED")

/-! ## Attestations -/

def LAUNCHER_ID : String := "pmiri-gc-c1-clean-room-launcher"
def LAUNCHER_VERSION : String := "0.1.0"

/-- The fingerprints of an attestation. -/
def ATTESTATION_FINGERPRINTS : List String :=
  ["runner_source", "runner_manifest", "authority_bundle", "evidence_schema", "fixture_catalog", "preflight_matrix", "profile"]

def attestationError (msg : String) : Exc := .valueError "ValueError" msg

/-- `except (OSError, UnicodeDecodeError, json.JSONDecodeError)` -/
def isReadFailure : Exc → Bool
  | .osError _ => true
  | .valueError cls _ => cls == "UnicodeDecodeError" || cls == "JSONDecodeError"
  | _ => false

/-- What reading a JSON file gives, with `e` for a file that cannot be read. -/
def readJson (file : Except Exc Val) (e : Exc) : Except Exc Val :=
  match file with
  | .ok v => .ok v
  | .error e' => .error (if isReadFailure e' then e else e')

section

variable [Runtime]

/-- The observations of a record, domain by domain. -/
def readObservations (record : Dict) (domains : List String) : Except Exc Isolation :=
  match domains with
  | [] => .ok []
  | domain :: domains => do
    let raw ← dictOr (record.get domain) (attestationError ("attestation_domain_missing:" ++ domain))
    raiseIf (!raw.keysWithin ["result", "evidence_ref", "observation", "observed_at"])
      (attestationError ("attestation_domain_shape_invalid:" ++ domain))
    let observation ← normalizeObservation ((Dict.ofItems [("domain", .str domain)]).merge raw)
    let rest ← readObservations record domains
    return (domain, observation) :: rest

/-- `load_attestation`, of what reading the file and its JSON text gives. -/
def loadAttestation (file : Except Exc Val) : Except Exc (Dict × Isolation) := do
  let content ← readJson file (attestationError "attestation_missing_or_invalid_json")
  let record ← dictOr content (attestationError "attestation_version_invalid")
  raiseIf (differs record "version" "0.1") (attestationError "attestation_version_invalid")
  let claimed := record.get "attestation_sha256"
  raiseIf (!isSha256 claimed || !claimed.eq (.str (sha256Json (record.without "attestation_sha256").toVal)))
    (attestationError "attestation_digest_mismatch")
  let launcher := record.getD "launcher" (.dict [])
  raiseIfM (pyNot (elementsAre launcher ["launcher_id", "launcher_version"])) (attestationError "launcher_shape_invalid")
  raiseIfM (pyOr (fieldDiffers launcher "launcher_id" LAUNCHER_ID) (fieldDiffers launcher "launcher_version" LAUNCHER_VERSION))
    (attestationError "launcher_identity_invalid")
  let case := record.getD "case" (.dict [])
  raiseIfM (pyNot (elementsAre case ["case_id", "root_policy", "root_fingerprint"])) (attestationError "case_shape_invalid")
  let rootPolicy ← case.getOf "root_policy"
  raiseIfM (pyOr (rootPolicy.notIn ["FRESH_CASE_ROOT", "UNVERIFIED"])
    (do return !isSha256 (← case.getOf "root_fingerprint"))) (attestationError "case_root_invalid")
  let fingerprints := record.getD "fingerprints" (.dict [])
  raiseIfM (pyNot (elementsAre fingerprints ATTESTATION_FINGERPRINTS)) (attestationError "attestation_fingerprint_set_invalid")
  raiseIfM (ATTESTATION_FINGERPRINTS.anyM fun key => do return !isSha256 (← fingerprints.getOf key))
    (attestationError "attestation_fingerprint_missing_or_invalid")
  let observations ← readObservations record DOMAINS
  let verdict := verifyAttestation observations
  let expectedReady := verdict.1 && rootPolicy.eq (.str "FRESH_CASE_ROOT")
  let expectedStatus :=
    if expectedReady then "VERIFIED" else if verdict.2 = "ISOLATION_VIOLATION" then "FAILED" else "UNVERIFIED"
  let expectedOutcome := if expectedReady then "READY_FOR_REPLAY" else if verdict.1 then "BLOCKED" else verdict.2
  raiseIf (differs record "status" expectedStatus || differs record "outcome" expectedOutcome)
    (attestationError "attestation_status_tampered")
  return (record, observations)

end

end Pmiri
