import Pmiri.Canonical

/-!
# Requests, evidence and results

`models.py`: the typed records that the read path passes along, each with the
dictionary it is serialized as.
-/

namespace Pmiri

open Py

/-- `ValueError(msg)` -/
def valueError (msg : String) : Exc := .valueError "ValueError" msg

structure QueryRequest where
  requestId : String
  projectConstraint : String
  query : String
  purpose : String := "local_read"
  maxResults : Int := 20
deriving DecidableEq

namespace QueryRequest

/-- `asdict(request)` -/
def asDict (q : QueryRequest) : Dict :=
  .ofItems [
    ("request_id", .str q.requestId),
    ("project_constraint", .str q.projectConstraint),
    ("query", .str q.query),
    ("purpose", .str q.purpose),
    ("max_results", .int q.maxResults)]

/-- The identity, the project and the query are not empty. -/
def complete (q : QueryRequest) : Bool :=
  q.requestId != "" && q.projectConstraint != "" && !(strip isSpace q.query.toList).isEmpty

def normalized (q : QueryRequest) : Except Exc Dict := do
  raiseIf (!q.complete) (valueError "request_requires_id_project_and_query")
  raiseIf (decide (q.maxResults < 1) || decide (1000 < q.maxResults)) (valueError "max_results_out_of_bounds")
  return q.asDict

theorem normalized_ok {q : QueryRequest} {d : Dict} :
    q.normalized = .ok d ↔ q.complete = true ∧ 1 ≤ q.maxResults ∧ q.maxResults ≤ 1000 ∧ d = q.asDict := by
  simp only [normalized, seq_ok, raiseIf_ok, Bool.not_eq_false', Bool.or_eq_false_iff, decide_eq_false_iff_not,
    not_lt, pure, Except.pure, Except.ok.injEq, eq_comm (a := d)]
  tauto

/-- `normalized` raises nothing but `ValueError`. -/
theorem normalized_error {q : QueryRequest} {e : Exc} (h : q.normalized = .error e) :
    ∃ msg, e = valueError msg := by
  simp only [normalized, seq_error, raiseIf_error, pure, Except.pure, reduceCtorEq, and_false, or_false] at h
  rcases h with ⟨-, rfl⟩ | ⟨-, -, rfl⟩ <;> exact ⟨_, rfl⟩

end QueryRequest

/-! ## Evidence -/

inductive Coverage
  | complete
  | partially
  | unknown
  | notApplicable
deriving DecidableEq

/-- `coverage.value` -/
def Coverage.value : Coverage → String
  | .complete => "complete"
  | .partially => "partial"
  | .unknown => "unknown"
  | .notApplicable => "not_applicable"

inductive Disposition
  | supported
  | empty
  | partially
  | denied
  | conflict
  | degraded
  | schemaRejected
  | typeRejected
  | noMutation
  | allowedWithinEnvelope
deriving DecidableEq

/-- `disposition.value` -/
def Disposition.value : Disposition → String
  | .supported => "SUPPORTED"
  | .empty => "EMPTY"
  | .partially => "UNKNOWN_OR_PARTIAL"
  | .denied => "DENIED"
  | .conflict => "CONFLICT_PRESERVED"
  | .degraded => "DEGRADED"
  | .schemaRejected => "SCHEMA_REJECTED"
  | .typeRejected => "TYPE_REJECTED"
  | .noMutation => "NO_MUTATION"
  | .allowedWithinEnvelope => "ALLOWED_WITHIN_ENVELOPE"

structure EvidenceItem where
  evidenceRef : String
  sourceId : String
  versionId : String
  projectId : String
  anchor : String
  text : String
  fingerprint : String
  score : Nat
  conflictGroup : Option String := none
deriving DecidableEq

namespace EvidenceItem

/-- The conflict group, unless it is empty. -/
def group (i : EvidenceItem) : Option String := i.conflictGroup.filter (· != "")

/-- `public_dict` -/
def publicDict (i : EvidenceItem) : Dict :=
  .ofItems ([
    ("evidence_ref", .str i.evidenceRef),
    ("source_id", .str i.sourceId),
    ("version_id", .str i.versionId),
    ("project_id", .str i.projectId),
    ("anchor", .str i.anchor),
    ("fingerprint", .str i.fingerprint),
    ("score", .int i.score)] ++ (i.group.map fun g => ("conflict_group", .str g)).toList)

end EvidenceItem

structure EvidenceSet where
  request : QueryRequest
  items : List EvidenceItem
  coverage : Coverage
  authorizationLineage : String
  conflictGroups : List String := []

def EvidenceSet.disposition (e : EvidenceSet) : Disposition :=
  if e.items.isEmpty then .empty
  else if !e.conflictGroups.isEmpty then .conflict
  else if e.coverage = .partially ∨ e.coverage = .unknown then .partially
  else .supported

/-! ## Context -/

/-- An entry of the omission ledger. -/
structure Omission where
  reason : String
  reference : String
deriving DecidableEq

structure ContextArtifact where
  artifactKind : String := "CompiledContextArtifact"
  bound : Nat
  text : String
  coverage : Coverage
  disposition : Disposition
  evidenceRefs : List String
  citationRefs : List String
  authorizationLineage : String
  omissionLedger : List Omission := []

def ContextArtifact.publicDict (c : ContextArtifact) : Dict :=
  .ofItems [
    ("artifact_kind", .str c.artifactKind),
    ("bound", .int c.bound),
    ("text", .str c.text),
    ("coverage", .str c.coverage.value),
    ("disposition", .str c.disposition.value),
    ("evidence_refs", strList c.evidenceRefs),
    ("citation_refs", strList c.citationRefs),
    ("authorization_lineage", .str c.authorizationLineage),
    ("omission_ledger", .list (c.omissionLedger.map fun o =>
      (Dict.ofItems [("reason", .str o.reason), ("reference", .str o.reference)]).toVal))]

/-! ## Results -/

structure QueryResult where
  request : QueryRequest
  disposition : Disposition
  coverage : Coverage
  evidence : List EvidenceItem
  authorizationLineage : String
  context : ContextArtifact

section

variable [Runtime]

/-- `{**context.public_dict(), "fingerprint": context.fingerprint}` -/
def fingerprinted (context : Dict) : Dict := context.insert "fingerprint" (.str (sha256Json context.toVal))

def QueryResult.structured (r : QueryResult) : Except Exc Dict := do
  let request ← r.request.normalized
  return .ofItems [
    ("request", request.toVal),
    ("result", (Dict.ofItems [("disposition", .str r.disposition.value), ("coverage", .str r.coverage.value)]).toVal),
    ("evidence", .list (r.evidence.map fun i => i.publicDict.toVal)),
    ("lineage", (Dict.ofItems [("authorization_ref", .str r.authorizationLineage),
      ("evidence_refs", strList (r.evidence.map (·.evidenceRef)))]).toVal),
    ("context", (fingerprinted r.context.publicDict).toVal)]

/-- The lineage that a request is answered under. -/
def QueryRequest.lineage (q : QueryRequest) : String :=
  "auth_" ++ String.ofList ((sha256Json (Dict.ofItems [
    ("project", .str q.projectConstraint), ("purpose", .str q.purpose), ("request_id", .str q.requestId)]).toVal).toList.take 32)

end

end Pmiri
