import Pmiri.Read.Ranking
import Pmiri.Store.Currency

/-!
# Coverage

A search reports complete coverage as soon as the project has a source. Its
items are then all there is to find only where they were not cut off.
-/

namespace Pmiri

open Py

section

variable [Runtime]

/-- Where a search reports complete coverage, every hit in the project's current sources is among its items. -/
def CoverageHonest {σ : Type} [SourceStore σ] (store : σ) (request : QueryRequest) : Prop :=
  ∀ e sources, search store request = .ok e →
    SourceStore.listSources store (some request.projectConstraint) false = .ok sources →
    e.coverage = .complete → ((hits request.query.toList sources).map Hit.item).Perm e.items

/-- Nothing is cut off exactly if there are not more hits than results asked for. -/
theorem perm_items_iff (request : QueryRequest) {sources : List SourceRecord} (hd : (sources.map (·.sourceId)).Nodup) :
    ((hits request.query.toList sources).map Hit.item).Perm
        (evidenceOf request (tokens request.query.toList) sources).items ↔
      (hits request.query.toList sources).length ≤ request.maxResults.toNat := by
  obtain ⟨order, hperm, -, hitems⟩ := (top_evidenceOf request hd).first
  rw [hitems, ← hperm.length_eq]
  constructor
  · intro h
    have hlength := h.length_eq
    rw [List.length_map, List.length_map, List.length_take, ← hperm.length_eq] at hlength
    omega
  · intro h
    rw [List.take_of_length_le h]
    exact hperm.symm.map _

theorem length_hits_le {σ : Type} [VersionedStore σ] {store : σ} {request : QueryRequest} (h : CoverageHonest store request)
    {d : Dict} {sources : List SourceRecord} (hd : request.normalized = .ok d) (htokens : tokens request.query.toList ≠ [])
    (hsources : SourceStore.listSources store (some request.projectConstraint) false = .ok sources) :
    (hits request.query.toList sources).length ≤ request.maxResults.toNat := by
  obtain ⟨versions, -, hlatest⟩ := VersionedStore.listed hsources
  by_cases hempty : sources = []
  · rw [hempty]
    exact Nat.zero_le _
  · refine (perm_items_iff request hlatest.distinct).mp ?_
    refine h _ sources (search_ok.mpr ⟨⟨d, hd⟩, htokens, sources, hsources, rfl⟩) hsources ?_
    exact if_neg (by simpa using hempty)

/-- Complete coverage means that nothing was dropped exactly if there are not more hits than results asked for. -/
theorem coverageHonest_iff {σ : Type} [VersionedStore σ] (store : σ) (request : QueryRequest) :
    CoverageHonest store request ↔
      ∀ d sources, request.normalized = .ok d → tokens request.query.toList ≠ [] →
        SourceStore.listSources store (some request.projectConstraint) false = .ok sources →
        (hits request.query.toList sources).length ≤ request.maxResults.toNat := by
  constructor
  · exact fun h d sources hd htokens hsources => length_hits_le h hd htokens hsources
  · intro h e sources hs hsources _
    obtain ⟨⟨d, hd⟩, htokens, sources', hsources', rfl⟩ := search_ok.mp hs
    obtain rfl := Except.ok.inj (hsources.symm.trans hsources')
    obtain ⟨versions, -, hlatest⟩ := VersionedStore.listed hsources
    exact (perm_items_iff request hlatest.distinct).mpr (h d sources hd htokens hsources)

/-! ## A search that is cut off -/

/-- One source with two lines that match. -/
def twoLines : RegisterCall := exampleRegistration "A\nA" "2026-01-01T00:00:00Z"

theorem listSources_single {c : RegisterCall} {r : SourceRecord} (hc : c.checked = .ok r) {project : String}
    (hp : r.projectId = project) :
    (LocalStore.after [c]).listSources (some project) false = .ok [{ r with toSourceEntry := r.toSourceEntry.stored }] := by
  have haccepted : LocalStore.accepted [c] = [r] := by
    simp only [LocalStore.accepted, List.filterMap_cons, List.filterMap_nil, hc, Except.toOption]
  have hcontent : Catalog.contentOf [r] r.contentFingerprint = some r.content := by
    rw [Catalog.contentOf, List.find?_cons_of_pos (by simp), Option.map_some]
  have hproject : ofProject SourceEntry.toSourceVersion (some project) [r.toSourceEntry.stored] = [r.toSourceEntry.stored] := by
    simp [ofProject, SourceVersion.inProject, hp]
  rw [(LocalStore.holds_after [c]).listSources, haccepted]
  simp only [Catalog.sources, Catalog.kept, Keyed.firsts, List.map_cons, List.map_nil, List.foldl_cons, List.foldl_nil,
    Keyed.add, List.any_nil, Bool.false_eq_true, ↓reduceIte, List.nil_append, selectVersions, hproject, latestVersions,
    Keyed.newest, Keyed.put, sortVersions, Keyed.sortBy, List.insertionSort_cons, List.insertionSort_nil,
    List.orderedInsert_nil, Catalog.withContent, SourceEntry.stored_toSourceVersion, hcontent, Option.getD_some]

end

/-- Two lines match, and the one that is returned is said to be all. -/
theorem coverage_dishonest :
    letI := asciiRuntime
    ¬ CoverageHonest (LocalStore.after [twoLines]) ⟨"r", "project", "A", "local_read", 1⟩ := by
  let := asciiRuntime
  intro h
  have hchecked := exampleCall_checked (show '\r' ∉ "A\nA".toList by decide) "2026-01-01T00:00:00Z"
  have hlisted := listSources_single hchecked (show _ = "project" from rfl)
  have hrequest : (⟨"r", "project", "A", "local_read", 1⟩ : QueryRequest).normalized =
      .ok (⟨"r", "project", "A", "local_read", 1⟩ : QueryRequest).asDict :=
    QueryRequest.normalized_ok.mpr ⟨by decide, by decide, by decide, rfl⟩
  have hlength := length_hits_le h hrequest (by decide) hlisted
  exact absurd hlength (by decide)

end Pmiri
