import Pmiri.Models
import Pmiri.Python.Tree
import Pmiri.Replay.Session

/-!
# The launcher

`gc_c1_launcher.py`: one pinned command, run on Windows in a fresh case root
that is sealed afterwards. What the operating system does at each step is
given. Next to what `launch_pinned_runner` returns stands what has become of
the process. The contents of the files that are written are left out: no
result depends on them.
-/

namespace Pmiri

open Py

def REQUIRED_FINGERPRINTS : List String :=
  ["runner_source", "runner_manifest", "authority_bundle", "evidence_schema", "fixture_catalog", "preflight_matrix", "profile"]

structure ResourceProfile where
  wallTimeSeconds : Int := 30
  cpuTimeSeconds : Int := 10
  memoryBytes : Int := 256 * 1024 * 1024
  maxProcesses : Int := 1

namespace ResourceProfile

variable (profile : ResourceProfile)

def validate : Except Exc Unit := do
  raiseIf (!(decide (1 ≤ profile.wallTimeSeconds) && decide (profile.wallTimeSeconds ≤ 3600))) (valueError "wall_time_limit_invalid")
  raiseIf (!(decide (1 ≤ profile.cpuTimeSeconds) && decide (profile.cpuTimeSeconds ≤ profile.wallTimeSeconds)))
    (valueError "cpu_time_limit_invalid")
  raiseIf (!(decide (16 * 1024 * 1024 ≤ profile.memoryBytes) && decide (profile.memoryBytes ≤ 4 * 1024 * 1024 * 1024)))
    (valueError "memory_limit_invalid")
  raiseIf (profile.maxProcesses != 1) (valueError "process_limit_must_be_one")

def asDict : Dict := .ofItems [
  ("wall_time_seconds", .int profile.wallTimeSeconds),
  ("cpu_time_seconds", .int profile.cpuTimeSeconds),
  ("memory_bytes", .int profile.memoryBytes),
  ("max_processes", .int profile.maxProcesses)]

end ResourceProfile

/-! ## Exceptions and results -/

/-- What a step raises: `RuntimeError` and `subprocess.SubprocessError`, or a subclass of it named `cls`, besides the others. -/
inductive LaunchExc where
  | exc (e : Exc)
  | runtimeError (msg : String)
  | subprocessError (cls msg : String)

namespace LaunchExc

/-- `type(exc).__name__ + ":" + str(exc)` -/
def text : LaunchExc → String
  | .exc e => excText e
  | .runtimeError msg => "RuntimeError:" ++ msg
  | .subprocessError cls msg => cls ++ ":" ++ msg

/-- `except (OSError, RuntimeError, subprocess.SubprocessError)` -/
def isProcessFailure : LaunchExc → Bool
  | .exc (.osError _) | .runtimeError _ | .subprocessError .. => true
  | .exc _ => false

/-- `except (OSError, subprocess.SubprocessError)` -/
def isWaitFailure : LaunchExc → Bool
  | .exc (.osError _) | .subprocessError .. => true
  | .exc _ | .runtimeError _ => false

/-- `except (OSError, ValueError, TypeError)` -/
def isLaunchFailure : LaunchExc → Bool
  | .exc e => isInputFailure e
  | .runtimeError _ | .subprocessError .. => false

end LaunchExc

/-- `except (OSError, ValueError, TypeError, KeyError, json.JSONDecodeError)` -/
def isAdmissionFailure : Exc → Bool
  | .osError _ | .typeError _ | .keyError _ | .valueError .. => true
  | _ => false

def optInt : Option Int → Val
  | some code => .int code
  | none => .none

/-- No field is checked against its annotation. -/
structure LaunchResult where
  caseId : Val
  status : Val
  reason : Val
  started : Val
  returncode : Val
  rootFingerprint : Val
  stdoutFingerprint : Val
  stderrFingerprint : Val
  artifactBundleFingerprint : Val
  persistedDir : Val
  jobLimitsEnforced : Val
  teardownVerified : Val
  evidenceRef : Val := .none

/-- `LaunchResult(*args)`; it is called with no fewer arguments. -/
def LaunchResult.call : List Val → Except Exc LaunchResult
  | [caseId, status, reason, started, returncode, rootFingerprint, stdoutFingerprint, stderrFingerprint, artifactBundleFingerprint,
      persistedDir, jobLimitsEnforced, teardownVerified] =>
    .ok { caseId, status, reason, started, returncode, rootFingerprint, stdoutFingerprint, stderrFingerprint,
          artifactBundleFingerprint, persistedDir, jobLimitsEnforced, teardownVerified }
  | [caseId, status, reason, started, returncode, rootFingerprint, stdoutFingerprint, stderrFingerprint, artifactBundleFingerprint,
      persistedDir, jobLimitsEnforced, teardownVerified, evidenceRef] =>
    .ok { caseId, status, reason, started, returncode, rootFingerprint, stdoutFingerprint, stderrFingerprint,
          artifactBundleFingerprint, persistedDir, jobLimitsEnforced, teardownVerified, evidenceRef }
  | [_, _, _, _, _, _, _, _, _, _, _] =>
    .error (.typeError "LaunchResult.__init__() missing 1 required positional argument: 'teardown_verified'")
  | args => .error (.typeError ("LaunchResult.__init__() takes from 13 to 14 positional arguments but " ++
      toString (args.length + 1) ++ " were given"))

/-- `_blocked` -/
def blockedLaunch (caseId reason : String) : LaunchResult where
  caseId := .str caseId
  status := .str "BLOCKED"
  reason := .str reason
  started := .bool false
  returncode := .none
  rootFingerprint := .none
  stdoutFingerprint := .none
  stderrFingerprint := .none
  artifactBundleFingerprint := .none
  persistedDir := .none
  jobLimitsEnforced := .bool false
  teardownVerified := .bool false

/-! ## What is launched -/

/-- A persist directory: the parts of `Path(value).expanduser().resolve()`, and the entries that are there, if it exists. -/
structure PersistDir where
  resolved : Except Exc (List String)
  entries : Except Exc (List String)

structure LaunchCall where
  caseId : String
  identity : Dict
  /-- What reading the attestation and its JSON text gives. -/
  attestation : Except Exc Val
  fingerprints : Dict
  /-- The names with what reading the files at their paths gives. -/
  fingerprintPaths : List (String × Except Exc ByteArray)
  argv : List Val
  /-- The inputs by their paths, with nothing for a value that is not `bytes`. -/
  inputs : List (String × Option ByteArray)
  profile : Option ResourceProfile := none
  persistDir : Option PersistDir := none

/-- `sorted(items.items())`, for keys that are different. -/
def sortedByName {α : Type} (items : List (String × α)) : List (String × α) := items.insertionSort fun a b => a.1 ≤ b.1

/-- `_safe_relative` -/
def safeRelative (value : String) : Except Exc Unit :=
  let candidate := PurePath.ofText .windows value.toList
  raiseIf (value == "" || candidate.isAbsolute .windows || candidate.parts.any fun part => [[], ['.'], ['.', '.']].contains part)
    (valueError "case_path_invalid")

/-- `_safe_persist_dir`, without a case root. -/
def safePersistDir (dir : PersistDir) : Except Exc (List String) := do
  let destination ← dir.resolved
  let entries ← dir.entries
  raiseIf (!entries.isEmpty) (valueError "persist_dir_must_be_new_or_empty")
  return destination

/-- `str(path)`, of an absolute path by its parts. -/
def windowsText : List String → String
  | [] => ""
  | anchor :: names => anchor ++ "\\".intercalate names

/-- What a launch goes on with once it is admitted. -/
structure LaunchAdmission where
  profile : ResourceProfile
  materialized : List (String × ByteArray)
  destination : Option (List String)

section

variable [Runtime]

/-- The loop of `_fingerprint_inputs`. -/
def materialize (fingerprints : Dict) : List (String × Except Exc ByteArray) → Except Exc (List (String × ByteArray))
  | [] => .ok []
  | (name, read) :: paths => do
    let content ← read
    raiseIf (differs fingerprints name (sha256Bytes content)) (valueError ("fingerprint_mismatch:" ++ name))
    let rest ← materialize fingerprints paths
    return (name, content) :: rest

/-- `_fingerprint_inputs` -/
def fingerprintInputs (call : LaunchCall) (profile : ResourceProfile) : Except Exc (List (String × ByteArray)) := do
  let names := call.fingerprintPaths.map Prod.fst
  let required := REQUIRED_FINGERPRINTS.filter (· != "profile")
  raiseIf (!call.fingerprints.keysAre REQUIRED_FINGERPRINTS) (valueError "fingerprint_set_invalid")
  raiseIf (!(names.all required.contains && required.all names.contains)) (valueError "fingerprint_path_set_invalid")
  raiseIf (call.fingerprints.items.any fun item => !isSha256 item.2) (valueError "fingerprint_invalid")
  let materialized ← materialize call.fingerprints call.fingerprintPaths
  raiseIf (differs call.fingerprints "profile" (sha256Json profile.asDict.toVal)) (valueError "profile_fingerprint_mismatch")
  return materialized

/-- The first `try`: what is admitted, or the reason for which the launch is blocked. -/
def admitLaunch (call : LaunchCall) : Except Exc (Except String LaunchAdmission) := do
  verifyIdentity call.identity
  let (record, _) ← loadAttestation call.attestation
  if differs record "status" "VERIFIED" || differs record "outcome" "READY_FOR_REPLAY" then
    return .error "attestation_not_verified"
  else if !(record.get "launcher").eq
      (Dict.ofItems [("launcher_id", .str LAUNCHER_ID), ("launcher_version", .str LAUNCHER_VERSION)]).toVal then
    return .error "launcher_identity_invalid"
  else if ← fieldDiffers (record.getD "case" (.dict [])) "case_id" call.caseId then
    return .error "attestation_case_mismatch"
  else
    let profile := call.profile.getD {}
    profile.validate
    let materialized ← fingerprintInputs call profile
    if !(record.get "fingerprints").eq (.dict (sortItems call.fingerprints.items)) then
      return .error "attestation_fingerprint_mismatch"
    else if differs call.identity "runner_id" RUNNER_ID || differs call.identity "runner_version" RUNNER_VERSION then
      return .error "runner_identity_mismatch"
    else
      let destination ← call.persistDir.mapM safePersistDir
      return .ok { profile, materialized, destination }

/-- `destination == root or root in destination.parents`, where letters are compared without their case. -/
def insideRoot (root destination : List String) : Bool :=
  let folded := fun path : List String => path.map fun part => lower part.toList
  (folded root).isPrefixOf (folded destination)

/-- An item of `_inventory`. -/
def inventoryItem (file : String × ByteArray) : Dict := .ofItems [
  ("path", .str file.1),
  ("byte_length", .int file.2.size),
  ("sha256", .str (sha256Bytes file.2))]

/-- `root_fingerprint`, with the files that `_inventory(inputs_root)` finds. -/
def rootFingerprint (caseId : String) (files : List (String × ByteArray)) (profile : ResourceProfile) : String :=
  sha256Json (Dict.ofItems [
    ("case_id", .str caseId),
    ("inputs", .list (files.map fun file => (inventoryItem file).toVal)),
    ("profile", profile.asDict.toVal)]).toVal

end

/-! ## The process -/

/-- What a look at the process gives: its exit code, once it has one. -/
abbrev Look := Except LaunchExc (Option Int)

/-- What happens at the steps of a launch, as far as it gets to them. -/
structure LaunchSteps where
  /-- `Path(temp_parent).resolve()`, if there is one -/
  resolveTempParent : Except LaunchExc Unit := .ok ()
  /-- `tempfile.TemporaryDirectory` -/
  makeTemporary : Except LaunchExc Unit := .ok ()
  /-- `Path(temp).resolve()` -/
  resolveRoot : Except LaunchExc (List String)
  /-- The five directories. -/
  makeDirectories : Except LaunchExc Unit := .ok ()
  /-- The copy of the attestation. -/
  copyAttestation : Except LaunchExc Unit := .ok ()
  /-- One round of the loop that writes the inputs. -/
  writeInput : String → ByteArray → Except LaunchExc Unit := fun _ _ => .ok ()
  /-- `provenance_root.mkdir()` -/
  makeProvenance : Except LaunchExc Unit := .ok ()
  /-- One round of the loop over what is materialized. -/
  writeProvenance : String × ByteArray → Except LaunchExc Unit := fun _ => .ok ()
  writeProfile : Except LaunchExc Unit := .ok ()
  /-- The files below `inputs_root`. -/
  inventory : Except LaunchExc (List (String × ByteArray)) := .ok []
  /-- `_minimal_environment(work_root)` -/
  minimalEnvironment : Except LaunchExc Unit := .ok ()
  /-- `_resolve_venv_python_command(argv, env)` -/
  resolveCommand : Except LaunchExc Unit := .ok ()
  /-- `_open_job(profile)` -/
  openJob : Except LaunchExc Unit := .ok ()
  /-- The files for the two streams. -/
  openOutputs : Except LaunchExc Unit := .ok ()
  /-- `subprocess.Popen` -/
  popen : Except LaunchExc Unit := .ok ()
  /-- `job.assign(process._handle)` -/
  assign : Except LaunchExc Unit := .ok ()
  /-- The looks of the loop after which the clock is before the deadline. -/
  looks : List Look := []
  /-- The look after which it is not. -/
  lastLook : Look
  /-- The look after the loop. -/
  lookAfter : Look := lastLook
  /-- `process.wait(timeout=5)`, of a job that was terminated -/
  waited : Except LaunchExc Int := .ok 124
  /-- The end of the block with the two files. -/
  closeOutputs : Except LaunchExc Unit := .ok ()
  /-- The look of the handler. -/
  lookFailed : Look := lookAfter
  /-- Its `process.wait(timeout=5)` -/
  waitFailed : Except LaunchExc Int := .ok 1
  /-- The look for the teardown. -/
  lookTeardown : Look := lookFailed
  readStdout : Except LaunchExc ByteArray := .ok .empty
  readStderr : Except LaunchExc ByteArray := .ok .empty
  /-- The launch record. -/
  writeRecord : Except LaunchExc Unit := .ok ()
  /-- `seal_directory(root, …)` -/
  sealDirectory : Except LaunchExc SealedCase
  /-- `verify_seal(sealed["manifest_path"], root=root)` -/
  verifySeal : Except LaunchExc (Bool × String)
  /-- The artifacts, and `_persist_artifacts` of them. -/
  persist : Except LaunchExc Unit := .ok ()
  /-- The removal of the temporary directory. -/
  removeTemporary : Except LaunchExc Unit := .ok ()

/-- The process, and the variables that say what has become of it. -/
structure Child where
  /-- `process is not None` -/
  created : Bool := false
  /-- `process.returncode` -/
  polled : Option Int := none
  started : Bool := false
  returncode : Option Int := none
  jobLimitsEnforced : Bool := false
  reason : String := "runner_not_started"

namespace Child

/-- The process is known to have exited. -/
def exited (child : Child) : Bool := child.created && child.polled.isSome

/-- `process.poll()`, which looks at a process that is not known to have exited. -/
def poll (child : Child) (look : Look) : Look × Child :=
  match child.polled with
  | some code => (.ok (some code), child)
  | none =>
    match look with
    | .ok code => (.ok code, { child with polled := code })
    | .error e => (.error e, child)

/-- `process.wait(timeout=5)` -/
def wait (child : Child) (ended : Except LaunchExc Int) : Except LaunchExc Unit × Child :=
  match child.polled with
  | some _ => (.ok (), child)
  | none =>
    match ended with
    | .ok code => (.ok (), { child with polled := some code })
    | .error e => (.error e, child)

/-- `while process.poll() is None and time.monotonic() < deadline` -/
def watch (lastLook : Look) (child : Child) : List Look → Except LaunchExc Unit × Child
  | [] => ((child.poll lastLook).1.map fun _ => (), (child.poll lastLook).2)
  | look :: looks =>
    match child.poll look with
    | (.ok none, child) => watch lastLook child looks
    | (result, child) => (result.map fun _ => (), child)

end Child

namespace LaunchSteps

variable (steps : LaunchSteps)

/-- What is done with a process that was assigned to the job. -/
def supervise (child : Child) : Except LaunchExc Unit × Child :=
  match child.watch steps.lastLook steps.looks with
  | (.error e, child) => (.error e, child)
  | (.ok (), child) =>
    match child.poll steps.lookAfter with
    | (.error e, child) => (.error e, child)
    | (.ok (some code), child) =>
      (.ok (), { child with returncode := some code, reason := if code = 0 then "runner_completed" else "runner_exit_nonzero" })
    | (.ok none, child) =>
      match child.wait steps.waited with
      | (.error e, child) => (.error e, child)
      | (.ok (), child) => (.ok (), { child with reason := "wall_time_limit_exceeded", returncode := child.polled })

/-- The block with the two files. -/
def start : Except LaunchExc Unit × Child :=
  match steps.popen with
  | .error e => (.error e, {})
  | .ok () =>
    match steps.assign with
    | .error e => (.error e, { created := true })
    | .ok () => steps.supervise { created := true, jobLimitsEnforced := true, started := true }

/-- The second `try`, without its handler. -/
def attempt : Except LaunchExc Unit × Child :=
  match steps.openJob.bind fun _ => steps.openOutputs with
  | .error e => (.error e, {})
  | .ok () => (steps.closeOutputs.bind fun _ => steps.start.1, steps.start.2)

/-- What the handler does about a process that may still run. -/
def recover (child : Child) : Except LaunchExc Unit × Child :=
  if child.created then
    match child.poll steps.lookFailed with
    | (.error e, child) => (.error e, child)
    | (.ok (some _), child) => (.ok (), child)
    | (.ok none, child) =>
      match child.wait steps.waitFailed with
      | (.error e, child) => (if e.isWaitFailure then .ok () else .error e, child)
      | (.ok (), child) => (.ok (), child)
  else (.ok (), child)

/-- The second `try`: the reason for which the launch is blocked, if it is. -/
def run : Except LaunchExc (Option String) × Child :=
  match steps.attempt with
  | (.ok (), child) => (.ok none, child)
  | (.error e, child) =>
    if e.isProcessFailure then
      match steps.recover child with
      | (.error e', child) => (.error e', child)
      | (.ok (), child) =>
        (.ok (if child.started then none else some ("runner_launch_failed:" ++ e.text)), { child with reason := e.text })
    else (.error e, child)

/-! ## The launch -/

/-- The inputs, in the order of their paths: the reason for which the launch is blocked, if it is. -/
def writeInputs : List (String × Option ByteArray) → Except LaunchExc (Option String)
  | [] => .ok none
  | (relative, content) :: inputs => do
    (safeRelative relative).mapError .exc
    match content with
    | none => return some "case_input_must_be_bytes"
    | some content =>
      steps.writeInput relative content
      writeInputs inputs

/-- `_persist_artifacts`, if there is a persist directory. -/
def persistTo (destination : Option (List String)) : Except LaunchExc Unit := if destination.isSome then steps.persist else .ok ()

section

variable [Runtime]

/-- The case root: its fingerprint, or the reason for which the launch is blocked. -/
def prepare (call : LaunchCall) (admission : LaunchAdmission) : Except LaunchExc (Except String String) := do
  let root ← steps.resolveRoot
  if admission.destination.any (insideRoot root) then return .error "persist_dir_inside_case_root"
  else
    steps.makeDirectories
    steps.copyAttestation
    match ← steps.writeInputs (sortedByName call.inputs) with
    | some reason => return .error reason
    | none =>
      steps.makeProvenance
      (sortedByName admission.materialized).forM steps.writeProvenance
      steps.writeProfile
      let files ← steps.inventory
      steps.minimalEnvironment
      steps.resolveCommand
      return .ok (rootFingerprint call.caseId files admission.profile)

/-- What follows on a process that has exited. -/
def report (caseId : String) (destination : Option (List String)) (rootFingerprint : String) (child : Child) :
    Except LaunchExc LaunchResult := do
  let stdout ← steps.readStdout
  let stderr ← steps.readStderr
  steps.writeRecord
  let sealedCase ← steps.sealDirectory
  let verified ← steps.verifySeal
  if !verified.1 then
    (LaunchResult.call [.str caseId, .str "VALIDATION_ERROR", .str ("seal_" ++ verified.2), .bool child.started,
      optInt child.returncode, .str rootFingerprint, .none, .none, .none, .none, .none, .bool child.jobLimitsEnforced,
      .bool true]).mapError .exc
  else do
    steps.persistTo destination
    (LaunchResult.call [.str caseId, .str (if child.returncode = some 0 then "RECORDED" else "FAIL"), .str child.reason,
      .bool child.started, optInt child.returncode, .str rootFingerprint, .str (sha256Bytes stdout), .str (sha256Bytes stderr),
      .str sealedCase.bundleSha256, optStr (destination.map windowsText), .bool child.jobLimitsEnforced, .bool true,
      .str ("evidence://local-launch/" ++ caseId)]).mapError .exc

/-- What follows once the job is closed. -/
def teardown (caseId : String) (destination : Option (List String)) (rootFingerprint : String) (child : Child) :
    Except LaunchExc LaunchResult × Child :=
  match (if child.created then child.poll steps.lookTeardown else (.ok none, child)) with
  | (.error e, child) => (.error e, child)
  | (.ok none, child) =>
    ((LaunchResult.call [.str caseId, .str "ISOLATION_VIOLATION", .str "teardown_unverified", .bool child.started,
      optInt child.returncode, .str rootFingerprint, .none, .none, .none, .bool child.jobLimitsEnforced,
      .bool false]).mapError .exc, child)
  | (.ok (some _), child) => (steps.report caseId destination rootFingerprint child, child)

/-- What happens in a case root that is prepared. -/
def carryOut (caseId : String) (destination : Option (List String)) (rootFingerprint : String) :
    Except LaunchExc LaunchResult × Child :=
  match steps.run with
  | (.error e, child) => (.error e, child)
  | (.ok (some reason), child) => (.ok (blockedLaunch caseId reason), child)
  | (.ok none, child) => steps.teardown caseId destination rootFingerprint child

/-- What happens in the temporary directory. -/
def inTemporary (call : LaunchCall) (admission : LaunchAdmission) : Except LaunchExc LaunchResult × Child :=
  match steps.prepare call admission with
  | .error e => (.error e, {})
  | .ok (.error reason) => (.ok (blockedLaunch call.caseId reason), {})
  | .ok (.ok rootFingerprint) => steps.carryOut call.caseId admission.destination rootFingerprint

end

end LaunchSteps

/-- `except (OSError, ValueError, TypeError)`, around the temporary directory. -/
def catchLaunch (caseId : String) : Except LaunchExc LaunchResult → Except LaunchExc LaunchResult
  | .ok result => .ok result
  | .error e => if e.isLaunchFailure then .ok (blockedLaunch caseId e.text) else .error e

def LaunchCall.commandValid (call : LaunchCall) : Bool :=
  call.caseId != "" && !call.argv.isEmpty && call.argv.all Val.isNonemptyStr

section

variable [Runtime]

/-- `launch_pinned_runner`: the result, and what has become of the process. -/
def launchPinnedRunner (steps : LaunchSteps) (call : LaunchCall) : Except LaunchExc LaunchResult × Child :=
  if !call.commandValid then (.ok (blockedLaunch call.caseId "runner_command_invalid"), {})
  else
    match admitLaunch call with
    | .error e => (if isAdmissionFailure e then .ok (blockedLaunch call.caseId (excText e)) else .error (.exc e), {})
    | .ok (.error reason) => (.ok (blockedLaunch call.caseId reason), {})
    | .ok (.ok admission) =>
      match steps.resolveTempParent with
      | .error e => (.error e, {})
      | .ok () =>
        match steps.makeTemporary with
        | .error e => (catchLaunch call.caseId (.error e), {})
        | .ok () =>
          let (result, child) := steps.inTemporary call admission
          (catchLaunch call.caseId (steps.removeTemporary.bind fun _ => result), child)

end

end Pmiri
