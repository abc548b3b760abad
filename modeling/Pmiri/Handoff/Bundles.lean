import Pmiri.Canonical
import Pmiri.Python.Order
import Pmiri.Python.Tree

/-!
# Handoff bundles

`handoff.py`: `verify_handoff` checks a manifest and the payload beside it, and
compares both with the current sources of a project.
-/

namespace Pmiri

open Py

def HANDOFF_KIND : String := "PMIRI-CLEAN-ROOM-HANDOFF-BUNDLE"
def HANDOFF_VERSION : String := "0.1"
def HANDOFF_STATUS : String := "HANDOFF_READY_FOR_EXTERNAL_REVIEW"

/-- `_STATIC_FILES` -/
def STATIC_FILES : List String := [
  "requirements.lock",
  "pyproject.toml",
  ".github/workflows/pmiri.yml",
  "deployment-profile.example.json",
  "README.md",
  "IMPLEMENTATION_PLAN.md",
  "IMPLEMENTATION_STATUS.md",
  "TECHNOLOGY_DECISIONS.md",
  "OPERATIONS_RUNBOOK.md",
  "EXTERNAL_CLOSURE_CHECKLIST.md",
  "PMIRI_ALL_DOCUMENTATION_CHECKPOINT_17/CHECKSUMS_SHA256.txt",
  "PMIRI_ALL_DOCUMENTATION_CHECKPOINT_17/ARCHIVE_SOURCES/PMIRI_v1.0_Gate_C_Accepted.zip",
  "PMIRI_ALL_DOCUMENTATION_CHECKPOINT_17/ARCHIVE_SOURCES/PMIRI_v1.1.1_Gate_D_R1_Accepted.zip",
  "artifacts/local-runner-identity.json",
  "artifacts/preflight-record.json",
  "artifacts/s0-acceptance-report.json",
  "artifacts/d2-matrix-report.json",
  "artifacts/d2-runtime-candidate-report.json",
  "artifacts/gate-d-runtime-smoke-report.json",
  "artifacts/r-fc-blocked-candidate-report.json",
  "artifacts/r-fc-local-handler-candidate-report.json",
  "artifacts/r-fc-handler-manifest.json",
  "artifacts/review-package.json",
  "artifacts/deployment-readiness-report.json",
  "artifacts/final-acceptance-gate.json",
  "artifacts/deployment-smoke-report.json",
  "artifacts/sbom/pmiri-sbom.spdx.json",
  "artifacts/sealed/s0-acceptance/artifact-manifest.json"]

/-- `_SOURCE_DIRECTORIES` -/
def SOURCE_DIRECTORIES : List String := [
  "pmiri",
  "tests",
  "scripts",
  "deployment/vm",
  "fixtures/s0/project-alpha",
  "PMIRI_ALL_DOCUMENTATION_CHECKPOINT_17/GC-C1",
  "PMIRI_ALL_DOCUMENTATION_CHECKPOINT_17/GATE-D-R2"]

/-- `_EXTERNAL_ACTIONS` -/
def EXTERNAL_ACTIONS : List String := [
  "supply_independent_clean_room_attestation",
  "supply_ready_for_replay_preflight_per_case",
  "supply_verified_external_replay_observations",
  "supply_independent_gate_d_r2_review",
  "supply_independent_r_fc_review"]

def MANIFEST_FIELDS : List String := [
  "artifact_kind", "artifact_version", "status", "created_at", "selected_fixture_id", "selected_case_id", "payload_policy",
  "external_execution", "preflight_status", "review_status", "required_external_actions", "entries", "handoff_fingerprint"]

def ENTRY_FIELDS : List String := ["source_path", "payload_path", "role", "byte_length", "sha256"]

/-- A whole file system. -/
abbrev FileSystem := Disk ["/"]

def handoffError (msg : String) : Exc := .valueError "HandoffError" msg

/-! ## Sources -/

/-- `not path.is_absolute() and ".." not in path.parts`, for `path = PurePosixPath(value)`. -/
def staysBelow (value : String) : Bool :=
  let path := PurePath.ofText .posix value.toList
  !path.isAbsolute .posix && !path.parts.contains "..".toList

/-- `_safe_payload_path` -/
def safePayloadPath (value : Val) : Bool :=
  match value with
  | .str s => "payload/".toList.isPrefixOf s.toList && staysBelow s
  | _ => false

/-- `_safe_source_path` -/
def safeSourcePath (value : Val) : Bool :=
  match value with
  | .str s => s != "" && staysBelow s
  | _ => false

section

variable [Runtime] (fs : FileSystem)

/-- What the walk below a source directory selects, by its path relative to the root. -/
def sourcesBelow (root : List String) (directory : String) : List String :=
  (fs.rglob (joinPath root directory)).filterMap fun e =>
    match e.2 with
    | .file _ =>
      if (joinPath root directory ++ e.1.names).contains "__pycache__" || casefold e.1.suffix == ".pyc".toList then none
      else some (directory ++ "/" ++ e.1.asPosix)
    | _ => none

/-- `_collect_sources`: the keys of `selected`; the path of each is the root with the key appended. -/
def collectSources (root : List String) : Except Exc (List String) := do
  forEach STATIC_FILES fun relative =>
    raiseIf (!fs.isFile (joinPath root relative)) (handoffError ("handoff_source_missing:" ++ relative))
  forEach SOURCE_DIRECTORIES fun directory =>
    raiseIf (!fs.isDirectory (joinPath root directory)) (handoffError ("handoff_source_directory_missing:" ++ directory))
  return (STATIC_FILES ++ SOURCE_DIRECTORIES.flatMap (sourcesBelow fs root)).dedup.insertionSort (· ≤ ·)

/-! ## Manifests -/

/-- An element of `entries`. -/
def handoffEntry (source payload role : String) (content : ByteArray) : Dict := .ofItems [
  ("source_path", .str source),
  ("payload_path", .str payload),
  ("role", .str role),
  ("byte_length", .int content.size),
  ("sha256", .str (sha256Bytes content))]

/-- The fields of a manifest that do not depend on the entries. -/
structure HandoffHead where
  createdAt : String
  fixtureId : String
  caseId : String
  preflightStatus : String

/-- `unsigned`, before it is fingerprinted. -/
def unsignedHandoff (head : HandoffHead) (entries : List Dict) : Dict := .ofItems [
  ("artifact_kind", .str HANDOFF_KIND),
  ("artifact_version", .str HANDOFF_VERSION),
  ("status", .str HANDOFF_STATUS),
  ("created_at", .str head.createdAt),
  ("selected_fixture_id", .str head.fixtureId),
  ("selected_case_id", .str head.caseId),
  ("payload_policy", .str "SYNTHETIC_INPUTS_ONLY"),
  ("external_execution", .str "NOT_PERFORMED"),
  ("preflight_status", .str head.preflightStatus),
  ("review_status", .str "NOT_SUPPLIED"),
  ("required_external_actions", strList EXTERNAL_ACTIONS),
  ("entries", .list (entries.map Dict.toVal))]

def handoffManifest (head : HandoffHead) (entries : List Dict) : Dict :=
  (unsignedHandoff head entries).insert "handoff_fingerprint" (.str (sha256Json (unsignedHandoff head entries).toVal))

/-! ## Verification -/

/-- `isinstance(v, int) and v >= 0` -/
def isCount : Val → Bool
  | .int i => 0 ≤ i
  | .bool _ => true
  | _ => false

/-- `set(xs) == set(ys)` -/
def sameNames (xs ys : List String) : Bool := xs.all ys.contains && ys.all xs.contains

/-- The size or the digest of a file is not what an entry says. -/
def contentDiffers (content : ByteArray) (entry : Dict) : Bool :=
  !(entry.get "byte_length").eq (.int content.size) || differs entry "sha256" (sha256Bytes content)

/-- The objection to an entry of a bundle, after entries with the payload paths `seen`. -/
def payloadObjection (bundle : List String) (seen : List String) (entry : Dict) : Option String :=
  let value := (entry.get "payload_path").strText
  if !entry.keysAre ENTRY_FIELDS then some "entry_shape_invalid"
  else if !safePayloadPath (entry.get "payload_path") || seen.contains value then some "entry_path_invalid_or_duplicate"
  else if !(entry.get "source_path").isNonemptyStr || !(entry.get "role").isNonemptyStr then some "entry_identity_invalid"
  else if !isCount (entry.get "byte_length") || !isSha256 (entry.get "sha256") then some "entry_fingerprint_invalid"
  else
    let payload := fs.resolve (joinPath bundle value)
    if !isParent bundle payload then some "payload_missing_or_outside_bundle"
    else
      match fs.contentAt payload with
      | none => some "payload_missing_or_outside_bundle"
      | some content => if contentDiffers content entry then some ("payload_fingerprint_mismatch:" ++ value) else none

/-- The loop over the entries: the first objection, or the entries. -/
def checkPayloads (bundle : List String) : List String → List Val → String ⊕ List Dict
  | _, [] => .inr []
  | seen, v :: vs =>
    match v.asDict with
    | none => .inl "entry_shape_invalid"
    | some entry =>
      match payloadObjection fs bundle seen entry with
      | some reason => .inl reason
      | none => (checkPayloads bundle ((entry.get "payload_path").strText :: seen) vs).map id (entry :: ·)

/-- `actual_paths` -/
def actualPayloads (bundle : List String) : List String :=
  if fs.isDirectory (bundle ++ ["payload"]) then
    (fs.rglob (bundle ++ ["payload"])).filterMap fun e =>
      if fs.isFile (bundle ++ ["payload"] ++ e.1.names) then some ("payload/" ++ e.1.asPosix) else none
  else []

/-- The objection to an entry in view of the current sources. -/
def sourceObjection (root : List String) (entry : Dict) : Option String :=
  let value := (entry.get "source_path").strText
  let source := joinPath root value
  if !safeSourcePath (entry.get "source_path") then some "source_path_invalid"
  else if fs.isSymlink source then some ("current_source_missing_or_symlink:" ++ value)
  else
    match fs.contentAt source with
    | none => some ("current_source_missing_or_symlink:" ++ value)
    | some content => if contentDiffers content entry then some ("current_source_fingerprint_mismatch:" ++ value) else none

/-- The part of `verify_handoff` that compares a bundle with the current sources. -/
def currentObjection (root : List String) (entries : List Dict) : Option String :=
  match entries.findSome? (sourceObjection fs root) with
  | some reason => some reason
  | none =>
    match collectSources fs root with
    | .error e => some ("current_source_inventory_unavailable:" ++ e.message)
    | .ok expected =>
      if sameNames (entries.map fun entry => (entry.get "source_path").strText) expected then none
      else some "current_source_inventory_mismatch"

/-- The part of `verify_handoff` that looks at the fields of the manifest. -/
def manifestObjection (manifest : Dict) : Option String :=
  let claimed := manifest.get "handoff_fingerprint"
  if differs manifest "artifact_kind" HANDOFF_KIND || differs manifest "artifact_version" HANDOFF_VERSION then
    some "manifest_identity_invalid"
  else if differs manifest "status" HANDOFF_STATUS || differs manifest "external_execution" "NOT_PERFORMED" then
    some "handoff_status_invalid"
  else if differs manifest "payload_policy" "SYNTHETIC_INPUTS_ONLY" || differs manifest "review_status" "NOT_SUPPLIED" then
    some "handoff_policy_invalid"
  else if !(manifest.get "required_external_actions").eq (strList EXTERNAL_ACTIONS) then
    some "external_action_inventory_invalid"
  else if !isSha256 claimed || !claimed.eq (.str (sha256Json (manifest.without "handoff_fingerprint").toVal)) then
    some "manifest_fingerprint_mismatch"
  else none

/-- The part of `verify_handoff` that looks at the entries and the files. -/
def bundleObjection (bundle : List String) (projectRoot : Option (List String)) (entries : List Val) : Option String :=
  if entries.isEmpty then some "entries_invalid"
  else
    match checkPayloads fs bundle [] entries with
    | .inl reason => some reason
    | .inr entries =>
      if !sameNames (actualPayloads fs bundle) (entries.map fun entry => (entry.get "payload_path").strText) then
        some "payload_inventory_mismatch"
      else
        match projectRoot with
        | none => none
        | some root => currentObjection fs (fs.resolve root) entries

/-- `verify_handoff(manifest_path, project_root=project_root)`, where `read` is the JSON
value that the manifest is read as, if it can be read. -/
def verifyHandoff (manifestPath : List String) (read : Option Val) (projectRoot : Option (List String)) :
    Except Exc (Bool × String) :=
  match read with
  | none => .ok (false, "manifest_invalid")
  | some v => do
    let shape ← elementsAre v MANIFEST_FIELDS
    if !shape then return (false, "manifest_shape_invalid")
    else
      let manifest ← dictOr v (.attributeError "get")
      match manifestObjection manifest with
      | some reason => return (false, reason)
      | none =>
        match manifest.get "entries" with
        | .list entries =>
          match bundleObjection fs (fs.resolve manifestPath).dropLast projectRoot entries with
          | some reason => return (false, reason)
          | none => return (true, "VERIFIED")
        | _ => return (false, "entries_invalid")

end

end Pmiri
