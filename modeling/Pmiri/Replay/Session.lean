import Pmiri.Replay.Preflight

/-!
# Controlled sessions

`replay.py` and `controlled_replay.py`: one case, run in a fresh directory
that is sealed afterwards. What the operating system, the sealing and the
handler do at each step is given, and each session says whether the case was
invoked.
-/

namespace Pmiri

open Py

def REPLAY_FINGERPRINTS : List String := [
  "runner_source", "runner_manifest", "authority_bundle", "evidence_schema", "fixture_catalog", "preflight_matrix",
  "preflight_record_schema"]

def verifyIdentity (identity : Dict) : Except Exc Unit := do
  raiseIf (differs identity "runner_id" RUNNER_ID || differs identity "runner_version" RUNNER_VERSION)
    (.valueError "ValueError" "runner_identity_mismatch")
  raiseIf (!(identity.get "latest_alias_allowed").isFalse || !(identity.get "self_upgrade_allowed").isFalse)
    (.valueError "ValueError" "runner_alias_or_upgrade_forbidden")

/-- `all(is_sha256(fingerprints.get(name)) for name in REPLAY_FINGERPRINTS)` -/
def fingerprintsOk (fingerprints : Dict) : Bool := REPLAY_FINGERPRINTS.all fun name => isSha256 (fingerprints.get name)

structure ReplayResult where
  caseId : String
  status : String
  disposition : String
  reason : String
  output : Option Dict := none

/-- `type(exc).__name__ + ":" + str(exc)` -/
def excText (e : Exc) : String := excName e ++ ":" ++ e.message

section

variable [Runtime]

/-- `run_case`: the result, and whether the case was invoked. -/
def runCase (caseId : String) (identity : Dict) (isolation : Option Isolation) (fingerprints : Dict)
    (case : Except Exc Dict) : ReplayResult × Bool :=
  match verifyIdentity identity with
  | .error e => (⟨caseId, "VALIDATION_ERROR", "VALIDATION_ERROR", excText e, none⟩, false)
  | .ok () =>
    match isolation with
    | none => (⟨caseId, "BLOCKED", "BLOCKED", "clean_room_attestation_absent", none⟩, false)
    | some isolation =>
      let verdict := verifyAttestation isolation
      if !verdict.1 then (⟨caseId, verdict.2, verdict.2, "clean_room_attestation_not_ready", none⟩, false)
      else if !fingerprintsOk fingerprints then (⟨caseId, "BLOCKED", "BLOCKED", "required_fingerprint_missing", none⟩, false)
      else
        match case with
        | .error e => (⟨caseId, "VALIDATION_ERROR", "VALIDATION_ERROR", excText e, none⟩, true)
        | .ok output =>
          (⟨caseId, "RECORDED", (output.getD "disposition" (.str "UNKNOWN")).toStr, "synthetic_case_completed", some output⟩,
            true)

/-- `invoke`: what a handler returns has to be a mapping. -/
def invoke (result : Except Exc Val) : Except Exc Dict := do
  dictOr (← result) (.valueError "ValueError" "case_output_must_be_mapping")

/-- What `seal_directory` returns of a sealed directory. -/
structure SealedCase where
  bundleSha256 : String
  completeness : String

/-- What happens at the steps of a session, as far as it gets to them. -/
structure SessionSteps where
  /-- `_prepare_persist_dir(persist_dir)` -/
  preparePersistDir : Except Exc Unit
  /-- `tempfile.TemporaryDirectory` and the two directories in it -/
  makeTemporary : Except Exc Unit
  /-- The loop that writes the inputs. -/
  writeInputs : Except Exc Unit
  /-- The handler: an `Exception` that it raises, or what it returns. Of an object that is no JSON value this is
  what it has of them if it is a mapping, and `None` if it is not. -/
  handler : Except Exc Val
  /-- What escapes `run_case` of what the handler raises, in place of returning a mapping: what is no `Exception`,
  such as `SystemExit`, or what the `str()` of an `Exception` raises. -/
  handlerExit : Except Exc Unit := .ok ()
  /-- `canonical_json(dict(replay.output))`, where that raises. -/
  dumpOutput : Except Exc Unit := .ok ()
  /-- `output_path.write_bytes(output_bytes)` -/
  writeOutput : Except Exc Unit
  /-- `seal_directory(root, …)` -/
  sealDirectory : Except Exc SealedCase
  /-- `verify_seal(sealed["manifest_path"], root=root)` -/
  verifySeal : Except Exc (Bool × String)
  /-- `_persist_case(root, persist_destination, …)` -/
  persistCase : Except Exc Unit
  /-- `verify_seal` of the persisted case -/
  verifyPersisted : Except Exc (Bool × String)
  /-- The removal of the temporary directory. -/
  removeTemporary : Except Exc Unit

structure ReplaySessionResult where
  caseId : String
  status : String
  reason : String
  replay : ReplayResult
  artifactManifestFingerprint : Option String := none
  outputFingerprint : Option String := none
  persistedDir : Option String := none

/-- `_blocked` -/
def blockedSession (caseId reason : String) : ReplaySessionResult :=
  { caseId, status := "BLOCKED", reason, replay := ⟨caseId, "BLOCKED", "BLOCKED", reason, none⟩ }

/-- `except (OSError, ValueError)` and, of errors in the persistence, `shutil.Error`, which is an `OSError`. -/
def isPersistFailure : Exc → Bool
  | .osError _ | .valueError .. => true
  | _ => false

/-- Persisting a sealed case. -/
def persistSession (steps : SessionSteps) (destination : Option String) (caseId : String) (replay : ReplayResult)
    (sealed : SealedCase) (outputFingerprint : String) : Except Exc ReplaySessionResult :=
  let invalid (reason : String) : ReplaySessionResult :=
    ⟨caseId, "VALIDATION_ERROR", reason, replay, some sealed.bundleSha256, some outputFingerprint, none⟩
  let reason := if sealed.completeness = "COMPLETE" then "case_completed_and_integrity_sealed"
    else "case_completed_and_integrity_sealed_incomplete"
  let recorded : ReplaySessionResult :=
    ⟨caseId, "RECORDED", reason, replay, some sealed.bundleSha256, some outputFingerprint, destination⟩
  match destination with
  | none => .ok recorded
  | some _ =>
    match steps.persistCase.bind fun _ => steps.verifyPersisted with
    | .ok (valid, text) => .ok (if valid then recorded else invalid ("persisted_seal_" ++ text))
    | .error e => if isPersistFailure e then .ok (invalid ("persist_failed:" ++ excText e)) else .error e

/-- The session after its case was run. -/
def sealSession (steps : SessionSteps) (destination : Option String) (caseId : String) (replay : ReplayResult) :
    Except Exc ReplaySessionResult :=
  match replay.output with
  | none => .ok { caseId, status := replay.status, reason := replay.reason, replay }
  | some output =>
    if replay.status != "RECORDED" then .ok { caseId, status := replay.status, reason := replay.reason, replay }
    else do
      steps.handlerExit
      steps.dumpOutput
      let outputFingerprint := sha256Bytes ⟨(canonicalJson output.toVal).data ++ #[10]⟩
      steps.writeOutput
      let sealed ← steps.sealDirectory
      let verified ← steps.verifySeal
      if !verified.1 then
        return ⟨caseId, "VALIDATION_ERROR", "seal_" ++ verified.2, replay, none, some outputFingerprint, none⟩
      persistSession steps destination caseId replay sealed outputFingerprint

/-- `except (OSError, TypeError, ValueError)` -/
def isInputFailure : Exc → Bool
  | .osError _ | .typeError _ | .valueError .. => true
  | _ => false

/-- A result that is returned out of the temporary directory. -/
def leaving (steps : SessionSteps) (result : Except Exc ReplaySessionResult) : Except Exc ReplaySessionResult :=
  match steps.removeTemporary with
  | .ok () => result
  | .error e => .error e

/-- `run_controlled_case`: the result of the session, and whether its case was invoked. -/
def runControlledCase (steps : SessionSteps) (caseId : String) (identity : Dict) (isolation : Option Isolation)
    (fingerprints : Dict) (persistDir : Option String) : Except Exc ReplaySessionResult × Bool :=
  if !fingerprintsOk fingerprints then (.ok (blockedSession caseId "required_fingerprint_missing"), false)
  else
    match isolation with
    | none => (.ok (blockedSession caseId "clean_room_attestation_absent"), false)
    | some isolation =>
      match (if persistDir.isSome then steps.preparePersistDir else .ok ()) with
      | .error e => (if isPersistFailure e then .ok (blockedSession caseId (excText e)) else .error e, false)
      | .ok () =>
        match steps.makeTemporary with
        | .error e => (.error e, false)
        | .ok () =>
          match steps.writeInputs with
          | .error e =>
            (leaving steps (if isInputFailure e then .ok (blockedSession caseId (excText e)) else .error e), false)
          | .ok () =>
            let (replay, invoked) := runCase caseId identity (some isolation) fingerprints (invoke steps.handler)
            (leaving steps (sealSession steps persistDir caseId replay), invoked)

end

end Pmiri
