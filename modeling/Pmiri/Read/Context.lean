import Pmiri.Read.Retrieval

/-!
# Context compilation and queries

`context.py` and `runtime.py`: the evidence that fits into the context bound,
conflict groups whole or not at all, and the query that compiles what was
retrieved.
-/

namespace Pmiri

open Py

/-- The bound of a compiler. -/
structure ContextCompiler where
  maxChars : Nat := 4000
  large : 128 ≤ maxChars

def ContextCompiler.mk? (maxChars : Int) : Except Exc ContextCompiler :=
  if h : maxChars < 128 then .error (valueError "context_bound_too_small")
  else .ok ⟨maxChars.toNat, by omega⟩

namespace ContextCompiler

/-- `f"[{entry.evidence_ref} | {entry.anchor}] {entry.text}"` -/
def citation (i : EvidenceItem) : String := "[" ++ i.evidenceRef ++ " | " ++ i.anchor ++ "] " ++ i.text

/-- The state of the loop. -/
structure Compilation where
  selected : List EvidenceItem := []
  used : Nat := 0
  omitted : List Omission := []
  handledGroups : List String := []

/-- The items that are selected along with an item. -/
def groupItems (evidence : EvidenceSet) (i : EvidenceItem) : List EvidenceItem :=
  match i.group with
  | some g =>
    if evidence.conflictGroups.contains g then evidence.items.filter fun j => j.conflictGroup == some g else [i]
  | none => [i]

/-- The text of a block. -/
def blockText (items : List EvidenceItem) : String := "\n".intercalate (items.map citation)

/-- What the ledger says of an item that is left out, or of its group. -/
def omission (i : EvidenceItem) : Omission :=
  match i.group with
  | some g => ⟨"CONFLICT_GROUP_EXCEEDS_CONTEXT_BOUND", g⟩
  | none => ⟨"CONTEXT_BOUND", i.evidenceRef⟩

/-- The body of `for item in evidence.items`; the items are selected before their length is added. -/
def compileItem (maxChars : Nat) (evidence : EvidenceSet) (s : Compilation) (i : EvidenceItem) : Compilation :=
  if i.group.any s.handledGroups.contains then s
  else
    let items := groupItems evidence i
    let block := blockText items
    let s :=
      if s.used + block.length + (if s.selected.isEmpty then 0 else 1) ≤ maxChars then
        let selected := s.selected ++ items
        { s with selected := selected, used := s.used + (block.length + if selected.isEmpty then 0 else 1) }
      else { s with omitted := s.omitted ++ [omission i] }
    { s with handledGroups := s.handledGroups ++ i.group.toList }

def compile (c : ContextCompiler) (evidence : EvidenceSet) : ContextArtifact :=
  let s := evidence.items.foldl (compileItem c.maxChars evidence) {}
  { bound := c.maxChars
    text := blockText s.selected
    coverage := evidence.coverage
    disposition := if evidence.disposition = .empty then .empty
      else if s.omitted.isEmpty then evidence.disposition else .degraded
    evidenceRefs := s.selected.map (·.evidenceRef)
    citationRefs := s.selected.map (·.anchor)
    authorizationLineage := evidence.authorizationLineage
    omissionLedger := s.omitted }

end ContextCompiler

/-- A store with a compiler for the context. -/
structure LocalEvidenceRuntime (σ : Type) where
  store : σ
  compiler : ContextCompiler

section

variable [Runtime] {σ : Type} [SourceStore σ]

namespace LocalEvidenceRuntime

def query (r : LocalEvidenceRuntime σ) (request : QueryRequest) : Except Exc QueryResult := do
  let evidence ← search r.store request
  let context := r.compiler.compile evidence
  return {
    request := request
    disposition := context.disposition
    coverage := context.coverage
    evidence := evidence.items
    authorizationLineage := evidence.authorizationLineage
    context := context }

/-- A result is for the request, under the bound of the runtime. -/
theorem query_ok {r : LocalEvidenceRuntime σ} {request : QueryRequest} {result : QueryResult}
    (h : r.query request = .ok result) :
    result.request = request ∧ result.context.bound = r.compiler.maxChars ∧ ∃ d, request.normalized = .ok d := by
  obtain ⟨evidence, hsearch, h⟩ := bind_ok.mp h
  obtain rfl := Except.ok.inj h
  obtain ⟨d, hd, -⟩ := bind_ok.mp hsearch
  exact ⟨rfl, rfl, d, hd⟩

/-- What is answered depends on what the store lists of the project. -/
theorem query_congr {σ' : Type} [SourceStore σ'] {r : LocalEvidenceRuntime σ} {r' : LocalEvidenceRuntime σ'}
    {request : QueryRequest} (hcompiler : r.compiler = r'.compiler)
    (hlist : SourceStore.listSources r.store (some request.projectConstraint) false =
      SourceStore.listSources r'.store (some request.projectConstraint) false) : r.query request = r'.query request := by
  simp only [query, search, hlist, hcompiler]

end LocalEvidenceRuntime

end

end Pmiri
