import Pmiri.Handoff.Current
import Pmiri.Python.AnyRead
import Mathlib.Data.List.Infix

/-!
# Creating a bundle

`handoff.py`: `create_handoff_bundle` copies the current sources one by one into a
new directory, writes the manifest, and verifies what it has written. Nothing is
removed again when one of the steps fails.
-/

namespace Pmiri

open Py

section

variable [Runtime] [FloatText]

/-- What `json.loads(path.read_text(encoding="utf-8"))` gives, if it gives anything. -/
def readJsonFile (fs : FileSystem) (path : List String) : Option Val :=
  (fs.contentAt path).bind fun content => (jsonLoadsBytes content).toOption

/-- `verify_handoff`, with the manifest that is at the path. -/
def verifyHandoffFile (fs : FileSystem) (manifestPath : List String) (projectRoot : Option (List String)) : Except Exc (Bool × String) :=
  verifyHandoff fs manifestPath (readJsonFile fs manifestPath) projectRoot

/-- `_role` -/
def handoffRole (relative : String) : String :=
  let normalized := casefold relative.toList
  let startsWith := fun s : String => s.toList.isPrefixOf normalized
  let contains := fun s : String => decide (s.toList <:+: normalized)
  let endsWith := fun s : String => s.toList.isSuffixOf normalized
  if startsWith "pmiri/" then "implementation_source"
  else if startsWith "tests/" then "verification_source"
  else if startsWith "scripts/" then "verification_tool"
  else if startsWith "fixtures/" then "synthetic_fixture"
  else if contains "/gc-c1/" then "gc_c1_authority"
  else if contains "/gate-d-r2/" then "gate_d_authority"
  else if endsWith "requirements.lock" || endsWith "pyproject.toml" then "reproducibility_contract"
  else if startsWith "artifacts/" then "candidate_evidence"
  else "handoff_contract"

/-- `_preflight_status`: what stands in the record may be any value, and its text any string. -/
def preflightStatus (fs : FileSystem) (root : List String) : Except Exc Str :=
  match fs.contentAt (joinPath root "artifacts/preflight-record.json") with
  | none => .ok (.ofString "UNAVAILABLE")
  | some content =>
    match anyLoadsBytes content with
    | .error e => if isUnreadable e then .ok (.ofString "UNAVAILABLE") else .error e
    | .ok data => (data.getDOf "overall_result" (.lit "UNAVAILABLE")).map AnyVal.toStr

/-- The loop over the sources: each is copied to its place below the payload directory. -/
def copySources (root payloadRoot : List String) : List String → FileSystem → Except Exc (List Dict) × FileSystem
  | [], fs => (.ok [], fs)
  | relative :: rest, fs =>
    let payloadPath := joinPath payloadRoot relative
    match fs.makeDirectories payloadPath.dropLast with
    | .error e => (.error e, fs)
    | .ok fs =>
      match fs.contentAt (joinPath root relative) with
      | none => (.error (.osError "No such file or directory"), fs)
      | some content =>
        match fs.write payloadPath content with
        | .error e => (.error e, fs)
        | .ok fs =>
          match fs.contentAt payloadPath with
          | none => (.error (.osError "No such file or directory"), fs)
          | some copied =>
            let entry := handoffEntry relative ("payload/" ++ relative) (handoffRole relative) copied
            match copySources root payloadRoot rest fs with
            | (.error e, fs) => (.error e, fs)
            | (.ok entries, fs) => (.ok (entry :: entries), fs)

/-- The arguments of `create_handoff_bundle`, and the time it reads. -/
structure HandoffRequest where
  projectRoot : List String
  outputDir : List String
  fixtureId : String
  caseId : String
  clock : Instant

/-- What `create_handoff_bundle` does once the sources are copied. -/
def finishBundle (request : HandoffRequest) (root destination : List String) (entries : List Dict) (fs : FileSystem) :
    Except Exc Dict × FileSystem :=
  match preflightStatus fs root with
  | .error e => (.error e, fs)
  | .ok status =>
    -- The status is the one string of the manifest that need not be text.
    match serialized (.str status) with
    | .error e => (.error e, fs)
    | .ok _ =>
      let manifest := handoffManifest ⟨utcNow request.clock, request.fixtureId, request.caseId, status.text⟩ entries
      let manifestPath := destination ++ ["handoff-manifest.json"]
      match fs.write manifestPath (canonicalJson manifest.toVal ++ "\n".toUTF8) with
      | .error e => (.error e, fs)
      | .ok fs =>
        match verifyHandoffFile fs manifestPath (some root) with
        | .error e => (.error e, fs)
        | .ok (false, reason) => (.error (handoffError ("handoff_self_verification_failed:" ++ reason)), fs)
        | .ok (true, _) =>
          (.ok ((manifest.insert "manifest_path" (.str (absoluteAsPosix manifestPath))).insert "payload_count" (.int entries.length)), fs)

/-- `create_handoff_bundle`: what it returns or raises, and the file system that it leaves. -/
def createHandoffBundle (request : HandoffRequest) (fs : FileSystem) : Except Exc Dict × FileSystem :=
  let root := fs.resolve request.projectRoot
  let destination := fs.resolve request.outputDir
  if destination == root || !isParent root destination then (.error (handoffError "handoff_destination_must_be_inside_project"), fs)
  else if fs.pathExists destination then (.error (handoffError "handoff_destination_exists"), fs)
  else
    match collectSources fs root with
    | .error e => (.error e, fs)
    | .ok sources =>
      match copySources root (destination ++ ["payload"]) sources fs with
      | (.error e, fs) => (.error e, fs)
      | (.ok entries, fs) => finishBundle request root destination entries fs

end

end Pmiri
