import Pmiri.Canonical
import Pmiri.Python.Tree

/-!
# What counts as evidence

`sealing.py`: the files that sealing and verification leave out. Names are
looked for among the parts of the absolute path, the ones of the root included.
-/

namespace Pmiri

open Py

def NON_EVIDENCE_DIRECTORIES : List String := [
  ".git", "graphify-out", ".codebase-memory", ".pytest_cache", ".mypy_cache", ".pmiri-sqlite", ".pmiri-control", "build",
  "pmiri.egg-info", ".venv", "venv"]

def NON_EVIDENCE_FILES : List String := [
  "artifacts/deployment-readiness-report.json", "artifacts/deployment-smoke-report.json", "artifacts/read-audit.jsonl",
  "artifacts/review-package.json"]

section

variable [Runtime]

/-- The test that `_is_non_evidence` makes of every part of a path. -/
def nonEvidencePart (part : String) : Bool :=
  NON_EVIDENCE_DIRECTORIES.contains part || ".venv-".toList.isPrefixOf (casefold part.toList) ||
    ".pmiri-deployment-smoke-".toList.isPrefixOf part.toList

/-- The tests that `_is_non_evidence` makes of the path relative to the root. -/
def nonEvidenceText (relative : String) : Bool :=
  NON_EVIDENCE_FILES.contains relative || "artifacts/handoff".toList.isPrefixOf (casefold relative.toList) ||
    "artifacts/package-".toList.isPrefixOf (casefold relative.toList)

/-- `_is_non_evidence` -/
def isNonEvidence (root : List String) (p : RelPath) : Bool :=
  nonEvidenceText p.asPosix || (root ++ p.names).any nonEvidencePart

/-- The condition under which both walks skip a regular file. -/
def skipped (root destination : List String) (p : RelPath) : Bool :=
  isParent destination (root ++ p.names) || isNonEvidence root p || (root ++ p.names).contains "__pycache__" ||
    casefold p.suffix == ".pyc".toList

/-- The regular files that a walk does not skip. -/
def walk {root : List String} (disk : Disk root) (destination : List String) : List (RelPath × ByteArray) :=
  disk.entries.filterMap fun e =>
    match e.2 with
    | .file content => if skipped root destination e.1 then none else some (e.1, content)
    | _ => none

/-! ## Evidence below a root -/

/-- A part of a path for which a file is left out wherever it stands. -/
def excludedPart (part : String) : Bool := nonEvidencePart part || part == "__pycache__"

/-- A file that none of the rules leaves out, applied to the path relative to
the root, for an output directory that is given relative to it as well. -/
def isEvidence (output : List String) (p : RelPath) : Bool :=
  !isParent output p.names && !nonEvidenceText p.asPosix && !p.names.any excludedPart && casefold p.suffix != ".pyc".toList

theorem any_excludedPart (parts : List String) :
    parts.any excludedPart = (parts.any nonEvidencePart || parts.contains "__pycache__") := by
  induction parts with
  | nil => rfl
  | cons part parts ih =>
    rw [List.any_cons, List.any_cons, List.contains_cons, ih, excludedPart, show ("__pycache__" == part) = (part == "__pycache__") from
      Bool.eq_iff_iff.mpr (by rw [beq_iff_eq, beq_iff_eq, eq_comm])]
    cases nonEvidencePart part <;> cases part == "__pycache__" <;> simp

omit [Runtime] in
theorem isParent_append (root output names : List String) : isParent (root ++ output) (root ++ names) = isParent output names := by
  rw [isParent, isParent, Bool.eq_iff_iff, Bool.and_eq_true, Bool.and_eq_true, List.isPrefixOf_iff_prefix,
    List.isPrefixOf_iff_prefix, bne_iff_ne, bne_iff_ne, List.prefix_append_right_inj, Ne, Ne, List.append_cancel_left_eq]

/-- A walk skips what is not evidence, and everything if a part of the root is excluded. -/
theorem skipped_eq (root output : List String) (p : RelPath) :
    skipped root (root ++ output) p = (root.any excludedPart || !isEvidence output p) := by
  rw [skipped, isNonEvidence, isEvidence, any_excludedPart, any_excludedPart, List.any_append, List.contains_append, bne, isParent_append]
  generalize isParent output p.names = a, nonEvidenceText p.asPosix = b, root.any nonEvidencePart = c,
    p.names.any nonEvidencePart = d, root.contains "__pycache__" = e, p.names.contains "__pycache__" = f,
    (casefold p.suffix == ".pyc".toList) = g
  cases a <;> cases b <;> cases c <;> cases d <;> cases e <;> cases f <;> cases g <;> rfl

end

end Pmiri
