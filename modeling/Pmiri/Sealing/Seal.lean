import Pmiri.Sealing.Evidence
import Pmiri.Models
import Pmiri.Python.Order
import Pmiri.Keyed

/-!
# Sealing a directory

`sealing.py`: `seal_directory` walks the files below a root and writes a
manifest with their digests; `verify_seal` checks the manifest, walks the files
again and compares both.
-/

namespace Pmiri

open Py

def REQUIRED_ROLES : List String := [
  "runner_source", "runner_manifest", "authority_bundle", "evidence_schema", "fixture_catalog", "preflight_matrix",
  "preflight_spec", "preflight_contract", "preflight_record_schema", "selected_fixture", "selected_case",
  "preflight_record", "environment_evidence", "privacy_record", "review_attestation", "seal_attestation"]

/-- The roles of `_role_for_path` that go by the end of a path, up to the fixtures. -/
def roleSuffixes : List (String × String) := [
  ("pmiri_gc_c1_replay_runner.py", "runner_source"),
  ("pmiri_gc-c1_replay_runner_0.1.0/runner-manifest.json", "runner_manifest"),
  ("pmiri_gd-r2_authority_bundle_manifest_v0.1.json", "authority_bundle"),
  ("pmiri_gc-c1-02_evidence_record.schema.json", "evidence_schema"),
  ("pmiri_gc-c1-02_replay_fixture_catalog.json", "fixture_catalog"),
  ("pmiri_gc-c1-05_controlled_preflight_scenario_matrix.json", "preflight_matrix"),
  ("pmiri_gc-c1-04_preflight_check_spec.json", "preflight_spec"),
  ("pmiri_gc-c1-04_preflight_validator_contract_v0.1.md", "preflight_contract"),
  ("pmiri_gc-c1-06_preflight_record.schema.json", "preflight_record_schema")]

/-- Those after the fixtures. -/
def artifactSuffixes : List (String × String) := [
  ("artifacts/s0-acceptance-report.json", "selected_case"), ("artifacts/preflight-record.json", "preflight_record")]

def fixtureSuffixes : List String := [".md", ".txt", ".markdown"]

section

variable [Runtime]

/-- `_role_for_path` -/
def roleForPath (relative : String) : String :=
  let normalized := casefold relative.toList
  let role? := fun suffixes : List (String × String) => suffixes.find? fun s => s.1.toList.isSuffixOf normalized
  match role? roleSuffixes with
  | some s => s.2
  | none =>
    if "fixtures/".toList.isPrefixOf normalized && fixtureSuffixes.any fun s => s.toList.isSuffixOf normalized then
      "selected_fixture"
    else
      match role? artifactSuffixes with
      | some s => s.2
      | none => "not_applicable"

/-! ## Entries -/

/-- `"entry_" + sha256_json(key)[:32]` -/
def entryId (key : Dict) : String := "entry_" ++ String.ofList ((sha256Json key.toVal).toList.take 32)

def fileEntry (file : RelPath × ByteArray) : Dict :=
  .ofItems [
    ("entry_id", .str (entryId (.ofItems [("path", .str file.1.asPosix)]))),
    ("role", .str (roleForPath file.1.asPosix)),
    ("path", .str file.1.asPosix),
    ("byte_length", .int file.2.size),
    ("sha256", .str (sha256Bytes file.2)),
    ("presence", .str "PRESENT")]

def roleEntry (caseId role : String) : Dict :=
  .ofItems [
    ("entry_id", .str (entryId (.ofItems [("role", .str role), ("case_id", .str caseId)]))),
    ("role", .str role),
    ("presence", .str "NOT_APPLICABLE"),
    ("not_applicable_reason", .str "not supplied by this local candidate bundle")]

/-- `(item.get("path", ""), item["role"], item["entry_id"])` -/
def entryKey (d : Dict) : List String :=
  [(d.getD "path" (.str "")).strText, (d.get "role").strText, (d.get "entry_id").strText]

/-- The roles of the files. -/
def presentRoles (files : List (RelPath × ByteArray)) : List String := files.map fun file => roleForPath file.1.asPosix

/-- The entries of a manifest; their order does not depend on that of the walk. -/
def sealEntries (caseId : String) (files : List (RelPath × ByteArray)) : List Dict :=
  Keyed.sortBy entryKey (files.map fileEntry ++
    (REQUIRED_ROLES.filter fun role => !(presentRoles files).contains role).map (roleEntry caseId))

/-! ## The manifest -/

def entriesVal (entries : List Dict) : Val := .list (entries.map Dict.toVal)

/-- `sha256_json({"manifest_payload_sha256": payload, "entries": entries})` -/
def bundleSha256 (payload entries : Val) : String :=
  sha256Json (Dict.ofItems [("manifest_payload_sha256", payload), ("entries", entries)]).toVal

/-- The manifest before it is fingerprinted. -/
def manifestPayload (root : List String) (caseId now : String) (complete : Bool) (entries : List Dict) : Dict :=
  .ofItems [
    ("bundle_id", .str ("bundle_" ++ String.ofList ((sha256Json (Dict.ofItems [
      ("case_id", .str caseId), ("root", .str (absoluteAsPosix root))]).toVal).toList.take 32))),
    ("contract_version", .str "0.1"),
    ("status", .str (if complete then "SEALED" else "INCOMPLETE")),
    ("created_at", .str now),
    ("sealed_at", .str now),
    ("sealing_procedure_version", .str "PMIRI-SHA256-CANONICAL-MANIFEST-0.2"),
    ("entries", entriesVal entries),
    ("required_roles", strList REQUIRED_ROLES),
    ("completeness", .str (if complete then "COMPLETE" else "INCOMPLETE")),
    ("invalidation_history", .list [])]

def sealRecord (complete : Bool) : Dict :=
  .ofItems [
    ("method", .str "SHA256_CANONICAL_MANIFEST_V0.1"),
    ("result", .str (if complete then "SEALED" else "UNVERIFIED")),
    ("attestation_ref", .str "attestation://not-supplied"),
    ("review_manifest_sha256", .str (sha256Json (Dict.ofItems [("review", .str "not-supplied")]).toVal))]

def sealManifest (root : List String) (caseId now : String) (files : List (RelPath × ByteArray)) : Dict :=
  let complete := REQUIRED_ROLES.all fun role => (presentRoles files).contains role
  let entries := sealEntries caseId files
  let payload := manifestPayload root caseId now complete entries
  let payloadSha256 := sha256Json payload.toVal
  ((payload.insert "manifest_payload_sha256" (.str payloadSha256)).insert "bundle_sha256"
    (.str (bundleSha256 (.str payloadSha256) (entriesVal entries)))).insert "seal" (sealRecord complete).toVal

/-- What `seal_directory` returns, and the disk that it leaves. -/
structure Sealed (root : List String) where
  manifest : Dict
  manifestPath : List String
  disk : Disk root

/-- `(root / "artifacts" / case_id).resolve()` -/
def sealDestination {root : List String} (disk : Disk root) (caseId : String) : List String :=
  disk.resolve (joinPath (root ++ ["artifacts"]) caseId)

/-- `seal_directory(root, case_id=case_id)`, for a resolved root, when the clock shows `clock`. -/
def sealDirectory {root : List String} (disk : Disk root) (caseId : String) (clock : Instant) : Except Exc (Sealed root) := do
  let destination := sealDestination disk caseId
  raiseIf (!isParent root destination && destination != root) (valueError "seal_output_outside_root")
  disk.mkdir destination
  let manifest := sealManifest root caseId (utcNow clock) (walk disk destination)
  let manifestPath := destination ++ ["artifact-manifest.json"]
  let disk ← disk.write manifestPath (canonicalJson manifest.toVal ++ "\n".toUTF8)
  return ⟨manifest, manifestPath, disk⟩

end

/-! ## Verification -/

/-- `sorted(texts)[0]` -/
def least (texts : List String) : String := texts.foldl min (texts.headD "")

/-- The reason for which the paths that are listed are not those that are there. -/
def inventoryMismatch (listed : List Val) (actual : List String) : Except Exc (Option String) :=
  let missing := listed.filter fun v => !actual.any fun a => v.eq (.str a)
  let extra := actual.filter fun a => !listed.any (·.eq (.str a))
  if missing.isEmpty && extra.isEmpty then .ok none
  else if missing.isEmpty then .ok (some ("filesystem_inventory_mismatch:extra=" ++ least extra))
  else if missing.all Val.isStr then .ok (some ("filesystem_inventory_mismatch:missing=" ++ least (missing.map Val.strText)))
  else .error (.typeError "can only concatenate str")

/-- An element of `entries`, which `.get` is called on. -/
def asMapping (v : Val) : Except Exc Dict :=
  match v.asDict with
  | some d => .ok d
  | none => .error (.attributeError "get")

/-- The fields of a manifest that its payload fingerprint leaves out. -/
def payloadExcluded : List String := ["manifest_payload_sha256", "bundle_sha256", "seal"]

section

variable [Runtime] {root : List String} (disk : Disk root)

/-- The objection to an entry, if there is one. -/
def entryObjection (entry : Dict) : Option String :=
  if !differs entry "presence" "NOT_APPLICABLE" then
    if !(entry.get "path").isNone || !(entry.get "not_applicable_reason").truthy then some "not_applicable_entry_invalid"
    else none
  else
    match entry.get "path" with
    | .str relative =>
      if differs entry "presence" "PRESENT" then some "entry_path_invalid"
      else
        let candidate := disk.resolve (joinPath root relative)
        if !isParent root candidate && candidate != root then some "entry_outside_root"
        else
          match disk.fileAt candidate with
          | none => some ("entry_fingerprint_mismatch:" ++ relative)
          | some content =>
            if !(entry.get "byte_length").eq (.int content.size) || differs entry "sha256" (sha256Bytes content) then
              some ("entry_fingerprint_mismatch:" ++ relative)
            else none
    | _ => some "entry_path_invalid"

/-- The checks on the entries of a manifest that is at `path`. -/
def verifyEntries (path : List String) (manifest : Dict) (entries : List Dict) : Except Exc (Bool × String) := do
  let paths := (entries.filter fun e => !differs e "presence" "PRESENT").map (·.get "path")
  if ← pyOr (pyNot (Val.distinct (entries.map (·.get "entry_id")))) (pyNot (Val.distinct paths)) then
    return (false, "entry_identity_duplicate")
  else
    let roles ← (manifest.getD "required_roles" (.list [])).elements
    if ← pyNot (Val.sameSet roles (REQUIRED_ROLES.map .str)) then
      return (false, "required_roles_incomplete")
    else
      match ← inventoryMismatch paths ((walk disk path.dropLast).map (·.1.asPosix)) with
      | some reason => return (false, reason)
      | none =>
        match entries.findSome? (entryObjection disk) with
        | some reason => return (false, reason)
        | none => return (true, "SEALED")

def verifyManifest (path : List String) (manifest : Dict) : Except Exc (Bool × String) :=
  let claimedPayload := manifest.get "manifest_payload_sha256"
  let payload := manifest.filterKeys (!payloadExcluded.contains ·)
  if !claimedPayload.eq (.str (sha256Json payload.toVal)) then .ok (false, "manifest_payload_fingerprint_mismatch")
  else if !(manifest.get "bundle_sha256").eq (.str (bundleSha256 claimedPayload (manifest.get "entries"))) then
    .ok (false, "bundle_fingerprint_mismatch")
  else
    match manifest.get "entries" with
    | .list entries => entries.mapM asMapping >>= verifyEntries disk path manifest
    | _ => .ok (false, "entries_invalid")

/-- `verify_seal(manifest_path, root=root)`, for a resolved root, where `read`
is the JSON value that the manifest is read as, if it can be read. -/
def verifySeal (manifestPath : List String) (read : Option Val) : Except Exc (Bool × String) :=
  match read with
  | none => .ok (false, "manifest_invalid")
  | some v => asMapping v >>= verifyManifest disk (disk.resolve manifestPath)

end

end Pmiri
