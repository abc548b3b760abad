import Pmiri.Canonical
import Pmiri.Python.Normpath
import Pmiri.Python.Order

/-!
# Declared members

`preflight.py`: the members that an authority manifest declares, next to the
manifest or in archives, and their verification.
-/

namespace Pmiri

open Py

/-- `value.replace("\\", "/")` -/
def forwardSlashes (value : String) : List Char := PurePath.replaceChar '\\' '/' value.toList

/-- `_safe_member_name` -/
def safeMemberName (value : String) : Option String :=
  let normalized := forwardSlashes value
  if normalized.head? == some '/' || (partition '/' normalized).1.contains ':' then none
  else
    let collapsed := normpath normalized
    if [[], ['.']].contains collapsed || collapsed == ['.', '.'] || ['.', '.', '/'].isPrefixOf collapsed then none
    else some (String.ofList collapsed)

/-! ## What is read -/

/-- An open archive: `archive.namelist()` and `archive.read(name)`. -/
structure ZipArchive where
  namelist : List String
  read : String → Except Exc ByteArray

/-- What the verification asks of the file system. -/
structure MemberFiles where
  isFile : List String → Bool
  pathExists : List String → Bool
  readBytes : List String → Except Exc ByteArray
  /-- `ZipFile(path)`, or nothing where it raises `OSError` or `BadZipFile`. -/
  openZip : List String → Option ZipArchive

/-- `path.parent` -/
def parentPath (path : List String) : List String := if path.length ≤ 1 then path else path.dropLast

/-- `path.name`, for a path below an anchor. -/
def lastName (path : List String) : String := path.tail.getLast?.getD ""

/-- `_archive_for_source` -/
def archiveForSource (files : MemberFiles) (baseDir : List String) (sourceArchive : String) : List String :=
  let declared := PurePath.ofText .posix sourceArchive.toList
  let first := joinPath (parentPath baseDir ++ ["ARCHIVE_SOURCES"]) (String.ofList (declared.tail.getLast?.getD []))
  let candidates := [first, joinPath (parentPath baseDir) sourceArchive, joinPath baseDir sourceArchive]
  (candidates.find? files.isFile).getD first

/-! ## The verification -/

/-- How the verification ends early. -/
inductive Stop where
  | raises (e : Exc)
  | rejects (reason : String)

/-- What is returned: an accepted manifest is returned with a reason, too. -/
def verdictOf : Except Stop String → Except Exc (Bool × String)
  | .ok reason => .ok (true, reason)
  | .error (.rejects reason) => .ok (false, reason)
  | .error (.raises e) => .error e

def rejectIf (c : Bool) (reason : String) : Except Stop Unit := if c then .error (.rejects reason) else .ok ()

theorem verdictOf_true {x : Except Stop String} {reason : String} : verdictOf x = .ok (true, reason) ↔ x = .ok reason := by
  rcases x with (e | rejected) | accepted
  · exact iff_of_false nofun nofun
  · simp [verdictOf]
  · simp [verdictOf]

@[simp] theorem rejectIf_ok {c : Bool} {reason : String} : rejectIf c reason = .ok () ↔ c = false := by
  cases c <;> simp [rejectIf]

/-- `member.get("path") if isinstance(member, dict) else None`, if it is a string. -/
def memberPath (member : Val) : Option String :=
  member.asDict.bind fun fields =>
    match fields.get "path" with
    | .str relative => some relative
    | _ => none

/-- `member.get("sha256") if isinstance(member, dict) else None` -/
def memberHash (member : Val) : Val := (member.asDict.map fun fields => fields.get "sha256").getD .none

/-- The canonical name of a further member. -/
def newMember (declared : List String) (relative : String) : Except Stop String :=
  match safeMemberName relative with
  | some canonical =>
    if declared.contains canonical then .error (.rejects "manifest_member_path_invalid_or_duplicate") else .ok canonical
  | none => .error (.rejects "manifest_member_path_invalid_or_duplicate")

/-- The loop over the direct members: the paths declared so far, and one more. -/
def declareMember (declared : List String) (member : Val) : Except Stop (List String) :=
  match memberPath member with
  | none => .error (.rejects "manifest_member_malformed")
  | some relative => do
    let canonical ← newMember declared relative
    return canonical :: declared

/-- A section of accepted authorities: its name, its archive, and its members. -/
structure ArchiveSection where
  name : String
  sourceArchive : Dict
  members : List Val

def archiveSection (item : String × Val) : Except Stop ArchiveSection :=
  match item.2.asDict with
  | none => .error (.rejects ("accepted_authority_section_malformed:" ++ item.1))
  | some fields =>
    match fields.get "members", (fields.get "source_archive").asDict with
    | .list members, some sourceArchive => .ok ⟨item.1, sourceArchive, members⟩
    | .list _, none => .error (.rejects ("accepted_authority_archive_missing:" ++ item.1))
    | _, _ => .error (.rejects ("accepted_authority_section_malformed:" ++ item.1))

section

variable [Runtime] (files : MemberFiles) (baseDir : List String)

/-- A member of an archive: the paths declared so far, and its own. -/
def checkArchiveMember (archive : ZipArchive) (declared : List String) (member : Val) : Except Stop (List String) :=
  match memberPath member with
  | none => .error (.rejects "manifest_member_malformed")
  | some relative => do
    rejectIf (!isSha256 (memberHash member)) "manifest_member_malformed"
    let canonical ← newMember declared relative
    rejectIf (!archive.namelist.contains canonical) ("authority_member_missing:" ++ canonical)
    match archive.read canonical with
    | .error (.keyError _) => .error (.rejects ("authority_member_missing:" ++ canonical))
    | .error e => .error (.raises e)
    | .ok content => do
      rejectIf (!(memberHash member).eq (.str (sha256Bytes content))) ("authority_member_hash_mismatch:" ++ canonical)
      return canonical :: declared

/-- The archive of a section, once its hash is verified. -/
def openArchive (part : ArchiveSection) : Except Stop ZipArchive :=
  match part.sourceArchive.get "path" with
  | .str archivePathValue => do
    let archiveHash := part.sourceArchive.get "sha256"
    rejectIf (!isSha256 archiveHash) ("accepted_authority_archive_malformed:" ++ part.name)
    let archivePath := archiveForSource files baseDir archivePathValue
    rejectIf (!files.isFile archivePath) ("authority_archive_missing:" ++ lastName archivePath)
    match files.readBytes archivePath with
    | .error e => .error (.raises e)
    | .ok content => do
      rejectIf (!archiveHash.eq (.str (sha256Bytes content))) ("authority_archive_hash_mismatch:" ++ lastName archivePath)
      match files.openZip archivePath with
      | none => .error (.rejects ("authority_archive_invalid:" ++ lastName archivePath))
      | some archive => return archive
  | _ => .error (.rejects ("accepted_authority_archive_malformed:" ++ part.name))

def checkSection (declared : List String) (part : ArchiveSection) : Except Stop (List String) := do
  let archive ← openArchive files baseDir part
  part.members.foldlM (checkArchiveMember archive) declared

/-- Where a direct member is. -/
def directPlace (relative : String) : List String := joinPath baseDir relative

/-- The direct members that are missing, and those with another hash. -/
structure Findings where
  missing : List String := []
  mismatched : List String := []

/-- The loop over the files of the direct members. -/
def checkDirectMember (found : Findings) (member : Val) : Except Stop Findings :=
  match memberPath member with
  | none => .error (.rejects "manifest_member_malformed")
  | some relative => do
    rejectIf (!isSha256 (memberHash member)) "manifest_member_malformed"
    if !files.pathExists (directPlace baseDir relative) then return { found with missing := found.missing ++ [relative] }
    else
      match files.readBytes (directPlace baseDir relative) with
      | .error e => .error (.raises e)
      | .ok content =>
        return if (memberHash member).eq (.str (sha256Bytes content)) then found
          else { found with mismatched := found.mismatched ++ [relative] }

/-- What is found of the members, once the manifest has its shape. -/
def checkMembers (directMembers : List Val) (sections : List ArchiveSection) : Except Stop String := do
  let declared ← directMembers.foldlM declareMember []
  let _ ← sections.foldlM (checkSection files baseDir) declared
  let found ← directMembers.foldlM (checkDirectMember files baseDir) {}
  rejectIf (!found.missing.isEmpty) ("manifest_member_missing:" ++ toString found.missing.length)
  rejectIf (!found.mismatched.isEmpty) ("manifest_member_hash_mismatch:" ++ toString found.mismatched.length)
  return "all_manifest_member_hashes_match"

/-- The shape of a manifest: its direct members, and the sections of its archives. -/
def manifestParts (manifest : Val) : Except Stop (List Val × List ArchiveSection) :=
  match manifest.asDict with
  | none => .error (.raises (.attributeError "get"))
  | some fields =>
    match fields.getD "candidate_members" (.list []) with
    | .list directMembers =>
      match (fields.getD "accepted_authorities" (.dict [])).asDict with
      | none => .error (.raises (.attributeError "items"))
      | some authorities => do
        let sections ← authorities.items.mapM archiveSection
        return (directMembers, sections)
    | candidates =>
      -- `list()` of what cannot be iterated over raises before the type is looked at
      match candidates.elements with
      | .error e => .error (.raises e)
      | .ok _ => .error (.rejects "candidate_members_malformed")

/-- `_verify_declared_members`, where `read` is what the manifest is read as, if it can be. -/
def verifyDeclaredMembers (read : Option Val) : Except Exc (Bool × String) :=
  match read with
  | none => .ok (false, "manifest_missing_or_invalid_json")
  | some manifest => verdictOf do
    let parts ← manifestParts manifest
    checkMembers files baseDir parts.1 parts.2

end

end Pmiri
