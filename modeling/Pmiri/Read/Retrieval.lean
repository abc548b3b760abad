import Mathlib.Data.Prod.Lex
import Pmiri.Security
import Pmiri.Store.Sqlite

/-!
# Retrieval

`retrieval.py`: the lines of a project's sources that share a token with the
query, ranked by how many they share.
-/

namespace Pmiri

open Py

/-- What retrieval asks of a store. -/
class SourceStore (σ : Type) where
  listSources : σ → (project : Option String) → (includeHistory : Bool) → Except Exc (List SourceRecord)

/-! ## Tokens -/

section

variable [Runtime]

instance : SourceStore LocalStore := ⟨LocalStore.listSources⟩

instance : SourceStore SQLiteStore := ⟨SQLiteStore.listSources⟩

/-- `[\w'-]` -/
def isTokenChar (c : Char) : Bool := isWord c || c == '\'' || c == '-'

/-- `TOKEN_RE.findall(value)`; `token` is the match that is being read. -/
def findTokens (token : List Char) : List Char → List (List Char)
  | [] => if token.isEmpty then [] else [token]
  | c :: cs =>
    if isTokenChar c then findTokens (token ++ [c]) cs
    else (if token.isEmpty then [] else [token]) ++ findTokens [] cs

def tokens (value : List Char) : List (List Char) := (findTokens [] value).map casefold

/-! ## Sources -/

omit [Runtime] in
/-- The items between the lines `---`, the later ones first. -/
def frontmatterItems (items : List (List Char × List Char)) : List (List Char) → List (List Char × List Char)
  | [] => items
  | line :: lines =>
    if strip isSpace line = "---".toList then items
    else
      let (key, value, found) := partition ':' line
      if found && !(strip isSpace key).isEmpty && !(strip isSpace value).isEmpty then
        frontmatterItems ((strip isSpace key, strip (fun c => c == '"' || c == '\'') (strip isSpace value)) :: items) lines
      else frontmatterItems items lines

omit [Runtime] in
/-- `_frontmatter` -/
def frontmatter (content : String) : List (List Char × List Char) :=
  match splitOn '\n' content.toList with
  | [] => []
  | first :: lines => if strip isSpace first = "---".toList then frontmatterItems [] lines else []

structure RetrievedSpan where
  startLine : Nat
  endLine : Nat
  text : String
  score : Nat

/-- The spans of the lines from a number on. -/
def spansFrom (query : List (List Char)) (number : Nat) : List (List Char) → List RetrievedSpan
  | [] => []
  | line :: lines =>
    let score := (query.filter (tokens line).contains).length
    if score = 0 then spansFrom query (number + 1) lines
    else ⟨number, number, String.ofList (strip isSpace line), score⟩ :: spansFrom query (number + 1) lines

def matchingSpans (content : String) (queryTokens : List (List Char)) : List RetrievedSpan :=
  spansFrom queryTokens.dedup 1 (splitlines content.toList)

/-- The evidence of a span. -/
def evidenceItem (source : SourceRecord) (conflictGroup : Option String) (span : RetrievedSpan) : EvidenceItem :=
  let anchorHash := sha256Json (Dict.ofItems [
    ("version_id", .str source.versionId),
    ("start_line", .int span.startLine),
    ("end_line", .int span.endLine),
    ("text", .str span.text)]).toVal
  let itemHash := sha256Json (Dict.ofItems [
    ("source_id", .str source.sourceId),
    ("version_id", .str source.versionId),
    ("anchor", .str anchorHash),
    ("text", .str span.text)]).toVal
  { evidenceRef := "ev_" ++ String.ofList (itemHash.toList.take 32)
    sourceId := source.sourceId
    versionId := source.versionId
    projectId := source.projectId
    anchor := "anchor_" ++ anchorHash
    text := span.text
    fingerprint := itemHash
    score := span.score
    conflictGroup := conflictGroup }

def sourceEvidence (queryTokens : List (List Char)) (source : SourceRecord) : List EvidenceItem :=
  let conflictGroup := ((frontmatter source.content).lookup "conflict_group".toList).map String.ofList
  (matchingSpans source.content queryTokens).map (evidenceItem source conflictGroup)

/-! ## Search -/

omit [Runtime] in
/-- `(-item.score, item.source_id, item.version_id, item.anchor)` -/
def EvidenceItem.rank (i : EvidenceItem) : Lex (Int × List String) := toLex (-(i.score : Int), [i.sourceId, i.versionId, i.anchor])

/-- What a listing of the project's sources gives for a request. -/
def evidenceOf (request : QueryRequest) (queryTokens : List (List Char)) (sources : List SourceRecord) : EvidenceSet :=
  let scored := Keyed.sortBy EvidenceItem.rank (sources.flatMap (sourceEvidence queryTokens))
  let items := scored.take request.maxResults.toNat
  { request := request
    items := items
    coverage := if sources.isEmpty then .unknown else .complete
    authorizationLineage := request.lineage
    conflictGroups := sortedSet (items.filterMap (·.group)) }

/-- `Retriever(store).search(request)` -/
def search {σ : Type} [SourceStore σ] (store : σ) (request : QueryRequest) : Except Exc EvidenceSet := do
  let _ ← request.normalized
  let queryTokens := tokens request.query.toList
  raiseIf queryTokens.isEmpty (valueError "query_has_no_search_tokens")
  let sources ← SourceStore.listSources store (some request.projectConstraint) false
  return evidenceOf request queryTokens sources

/-- A search of listed sources. -/
theorem search_ok {σ : Type} [SourceStore σ] {store : σ} {request : QueryRequest} {e : EvidenceSet} :
    search store request = .ok e ↔ (∃ d, request.normalized = .ok d) ∧ tokens request.query.toList ≠ [] ∧
      ∃ sources, SourceStore.listSources store (some request.projectConstraint) false = .ok sources ∧
        e = evidenceOf request (tokens request.query.toList) sources := by
  constructor
  · intro h
    obtain ⟨d, hd, h⟩ := bind_ok.mp h
    obtain ⟨htokens, h⟩ := seq_ok.mp h
    obtain ⟨sources, hsources, h⟩ := bind_ok.mp h
    exact ⟨⟨d, hd⟩, by simpa using htokens, sources, hsources, (Except.ok.inj h).symm⟩
  · rintro ⟨⟨d, hd⟩, htokens, sources, hsources, rfl⟩
    have hnonempty : (tokens request.query.toList).isEmpty = false := by simpa using htokens
    simp only [search, hd, ok_bind, hnonempty, raiseIf, Bool.false_eq_true, ↓reduceIte, hsources]
    rfl

end

end Pmiri
