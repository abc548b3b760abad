import Pmiri.Read.Compilation

/-!
# Conflicts

The compiler selects a conflict group whole or not at all, of what the search
hands it. The search cuts the ranking off after the number of results asked
for, wherever a group is.
-/

namespace Pmiri

open Py
open Packing (Block)

/-- The items of a group. -/
def ofGroup (g : String) (items : List EvidenceItem) : List EvidenceItem := items.filter fun i => i.group = some g

/-- If one item of the group is shown, all of them are. -/
def ShownWhole (g : String) (all shown : List EvidenceItem) : Prop :=
  (∃ i ∈ shown, i.group = some g) → (ofGroup g all).Perm (ofGroup g shown)

theorem ofGroup_eq_nil {g : String} {items : List EvidenceItem} : ofGroup g items = [] ↔ ∀ i ∈ items, i.group ≠ some g := by
  rw [ofGroup, List.filter_eq_nil_iff]
  simp only [decide_eq_true_eq, ne_eq]

/-- A part shows a group whole unless the group has items in the part and in the rest. -/
theorem shownWhole_iff {g : String} {all shown rest : List EvidenceItem} (h : all.Perm (shown ++ rest)) :
    ShownWhole g all shown ↔ ¬ ((∃ i ∈ shown, i.group = some g) ∧ ∃ i ∈ rest, i.group = some g) := by
  have hfilter : (ofGroup g all).Perm (ofGroup g shown ++ ofGroup g rest) := by
    have hperm := h.filter fun i => i.group = some g
    rwa [List.filter_append] at hperm
  constructor
  · rintro hwhole ⟨hshown, i, hi, hig⟩
    have hlength := (hfilter.symm.trans (hwhole hshown)).length_eq
    rw [List.length_append] at hlength
    have hrest : ofGroup g rest = [] := List.length_eq_zero_iff.mp (by omega)
    exact ofGroup_eq_nil.mp hrest i hi hig
  · intro hcut hshown
    have hrest : ofGroup g rest = [] := ofGroup_eq_nil.mpr fun i hi hig => hcut ⟨hshown, i, hi, hig⟩
    rwa [hrest, List.append_nil] at hfilter

namespace ContextCompiler

/-- Blocks that show an item of a group show all of it. -/
theorem shownWhole_selected (c : ContextCompiler) {e : EvidenceSet} (hg : Grouped e) (g : String) :
    ShownWhole g e.items (c.selected e) := by
  obtain ⟨-, packed, left, hselected, haccounts⟩ := compile_accounts c hg
  have hperm : e.items.Perm (itemsOfAll e packed ++ itemsOfAll e left) := by
    have h := haccounts.partition.symm
    rwa [itemsOfAll, List.flatMap_append] at h
  rw [hselected]
  refine (shownWhole_iff hperm).mpr ?_
  rintro ⟨⟨i, hi, hig⟩, j, hj, hjg⟩
  -- the block of an item of the group is the group
  have hblock : ∀ {bs : List (Block EvidenceItem String)} {k : EvidenceItem}, (∀ b ∈ bs, b ∈ packed ++ left) →
      k ∈ itemsOfAll e bs → k.group = some g → .group g ∈ bs := by
    intro bs k hbs hk hkg
    obtain ⟨b, hb, hk⟩ := List.mem_flatMap.mp hk
    cases b with
    | single k' =>
      obtain rfl := List.mem_singleton.mp hk
      rw [haccounts.single k (hbs _ hb)] at hkg
      cases hkg
    | group g' =>
      have hkg' : k.group = some g' := by simpa using (List.mem_filter.mp hk).2
      rw [hkg] at hkg'
      rwa [Option.some.inj hkg']
  have hpacked := hblock (fun b hb => List.mem_append_left left hb) hi hig
  have hleft := hblock (fun b hb => List.mem_append_right packed hb) hj hjg
  have hitem : i ∈ e.items := hperm.symm.subset (List.mem_append_left _ hi)
  have honce := haccounts.group g (hg.known i hitem g hig)
  rw [List.count_append] at honce
  have hcountPacked := List.count_pos_iff.mpr hpacked
  have hcountLeft := List.count_pos_iff.mpr hleft
  omega

end ContextCompiler

section

variable [Runtime]

/-- The evidence of the lines of a project's sources that match a request. -/
def matching (request : QueryRequest) (sources : List SourceRecord) : List EvidenceItem :=
  (hits request.query.toList sources).map Hit.item

/-- Neither the items of a result nor those of its context hold a part of what matches of a conflict group. -/
def ConflictsWhole {σ : Type} [SourceStore σ] (r : LocalEvidenceRuntime σ) (request : QueryRequest) : Prop :=
  ∀ e result sources, search r.store request = .ok e → r.query request = .ok result →
    SourceStore.listSources r.store (some request.projectConstraint) false = .ok sources →
    ∀ g, ShownWhole g (matching request sources) result.evidence ∧
      ShownWhole g (matching request sources) (r.compiler.selected e)

/-- A group has hits among the first results of the ranking and after them. -/
def CutInside (request : QueryRequest) (sources : List SourceRecord) (g : String) : Prop :=
  (∃ h ∈ (ranked request.query.toList sources).take request.maxResults.toNat, h.item.group = some g) ∧
    ∃ h ∈ (ranked request.query.toList sources).drop request.maxResults.toNat, h.item.group = some g

/-- A result and its context are of what was found. -/
theorem query_of_search {σ : Type} [SourceStore σ] {r : LocalEvidenceRuntime σ} {request : QueryRequest} {e : EvidenceSet}
    (h : search r.store request = .ok e) : ∃ result, r.query request = .ok result ∧ result.evidence = e.items ∧
      result.context = r.compiler.compile e :=
  ⟨_, bind_ok.mpr ⟨e, h, rfl⟩, rfl, rfl⟩

theorem shownWhole_items_iff (request : QueryRequest) {sources : List SourceRecord} (hd : (sources.map (·.sourceId)).Nodup)
    (g : String) : ShownWhole g (matching request sources) (evidenceOf request (tokens request.query.toList) sources).items ↔
      ¬ CutInside request sources g := by
  have hperm : (matching request sources).Perm
      (((ranked request.query.toList sources).take request.maxResults.toNat).map Hit.item ++
        ((ranked request.query.toList sources).drop request.maxResults.toNat).map Hit.item) := by
    rw [← List.map_append, List.take_append_drop]
    exact ((Keyed.sortBy_perm Hit.rank _).map Hit.item).symm
  rw [items_evidenceOf request hd, shownWhole_iff hperm, CutInside]
  simp only [List.mem_map, exists_exists_and_eq_and]

theorem shownWhole_context {request : QueryRequest} {sources : List SourceRecord} (c : ContextCompiler) {e : EvidenceSet}
    (he : e = evidenceOf request (tokens request.query.toList) sources) {g : String}
    (h : ShownWhole g (matching request sources) e.items) : ShownWhole g (matching request sources) (c.selected e) := by
  intro hshown
  have hgrouped : ContextCompiler.Grouped e := he ▸ ContextCompiler.grouped_evidenceOf request _ sources
  have hselected := ContextCompiler.shownWhole_selected c hgrouped g hshown
  obtain ⟨i, hi, hig⟩ := hshown
  have hof : i ∈ ofGroup g e.items := hselected.symm.subset (List.mem_filter.mpr ⟨hi, by simpa using hig⟩)
  exact (h ⟨i, (List.mem_filter.mp hof).1, hig⟩).trans hselected

/-- Conflicts are shown whole exactly if the number of results asked for does not cut the ranking inside a group. -/
theorem conflictsWhole_iff {σ : Type} [VersionedStore σ] (r : LocalEvidenceRuntime σ) (request : QueryRequest) :
    ConflictsWhole r request ↔
      ∀ d sources, request.normalized = .ok d → tokens request.query.toList ≠ [] →
        SourceStore.listSources r.store (some request.projectConstraint) false = .ok sources →
        ∀ g, ¬ CutInside request sources g := by
  constructor
  · intro h d sources hd htokens hsources g
    obtain ⟨versions, -, hlatest⟩ := VersionedStore.listed hsources
    have hsearch := search_ok.mpr ⟨⟨d, hd⟩, htokens, sources, hsources, rfl⟩
    obtain ⟨result, hresult, hevidence, -⟩ := query_of_search hsearch
    have hwhole := (h _ result sources hsearch hresult hsources g).1
    rw [hevidence] at hwhole
    exact (shownWhole_items_iff request hlatest.distinct g).mp hwhole
  · intro h e result sources hs hresult hsources g
    obtain ⟨result', hresult', hevidence, -⟩ := query_of_search hs
    obtain rfl := Except.ok.inj (hresult.symm.trans hresult')
    obtain ⟨⟨d, hd⟩, htokens, sources', hsources', rfl⟩ := search_ok.mp hs
    obtain rfl := Except.ok.inj (hsources.symm.trans hsources')
    obtain ⟨versions, -, hlatest⟩ := VersionedStore.listed hsources
    have hitems := (shownWhole_items_iff request hlatest.distinct g).mpr (h d sources hd htokens hsources g)
    rw [hevidence]
    exact ⟨hitems, shownWhole_context r.compiler rfl hitems⟩

/-! ## A group that is cut -/

/-- A cut that leaves a hit on each side is inside the group that all hits are of. -/
theorem cutInside_of_forall {request : QueryRequest} {sources : List SourceRecord} {g : String}
    (hgroup : ∀ h ∈ hits request.query.toList sources, h.item.group = some g) (hpos : 0 < request.maxResults.toNat)
    (hmore : request.maxResults.toNat < (hits request.query.toList sources).length) : CutInside request sources g := by
  have hperm := Keyed.sortBy_perm Hit.rank (hits request.query.toList sources)
  have hlength := hperm.length_eq
  have hmem : ∀ h ∈ ranked request.query.toList sources, h.item.group = some g := fun h hh => hgroup h (hperm.subset hh)
  constructor
  · have hne : (ranked request.query.toList sources).take request.maxResults.toNat ≠ [] := by
      apply List.ne_nil_of_length_pos
      rw [List.length_take, ranked, hlength]
      omega
    obtain ⟨h, hh⟩ := List.exists_mem_of_ne_nil _ hne
    exact ⟨h, hh, hmem h (List.mem_of_mem_take hh)⟩
  · have hne : (ranked request.query.toList sources).drop request.maxResults.toNat ≠ [] := by
      apply List.ne_nil_of_length_pos
      rw [List.length_drop, ranked, hlength]
      omega
    obtain ⟨h, hh⟩ := List.exists_mem_of_ne_nil _ hne
    exact ⟨h, hh, hmem h (List.mem_of_mem_drop hh)⟩

/-- The hits of one source are of the group that its front matter names. -/
theorem group_of_mem_hits {query : List Char} {source : SourceRecord} {g : String}
    (hg : ((frontmatter source.content).lookup "conflict_group".toList).map String.ofList = some g) (hne : g ≠ "") :
    ∀ h ∈ hits query [source], h.item.group = some g := by
  intro h hh
  have hsource : h.source = source := by
    rw [hits, List.flatMap_singleton] at hh
    exact (mem_hitsOf hh).1
  have hgroup : h.item.conflictGroup = some g := by
    rw [← hg, ← hsource]
    rfl
  rw [EvidenceItem.group, hgroup]
  exact Option.filter_some_pos (by simpa using hne)

/-- A source that contradicts itself. -/
def twoSides : RegisterCall := exampleRegistration "---\nconflict_group: g\n---\nA yes\nA no" "2026-01-01T00:00:00Z"

end

/-- Two lines of a group match, and one of them is returned. -/
theorem conflict_one_sided :
    letI := asciiRuntime
    ¬ ConflictsWhole ⟨LocalStore.after [twoSides], ⟨4000, by decide⟩⟩ ⟨"r", "project", "A", "local_read", 1⟩ := by
  let := asciiRuntime
  intro h
  have hchecked := exampleCall_checked (show '\r' ∉ "---\nconflict_group: g\n---\nA yes\nA no".toList by decide) "2026-01-01T00:00:00Z"
  have hlisted := listSources_single hchecked (show _ = "project" from rfl)
  have hrequest : (⟨"r", "project", "A", "local_read", 1⟩ : QueryRequest).normalized =
      .ok (⟨"r", "project", "A", "local_read", 1⟩ : QueryRequest).asDict :=
    QueryRequest.normalized_ok.mpr ⟨by decide, by decide, by decide, rfl⟩
  have hsearch : search (LocalStore.after [twoSides]) _ = .ok _ := search_ok.mpr ⟨⟨_, hrequest⟩, by decide, _, hlisted, rfl⟩
  obtain ⟨result, hresult, hevidence, -⟩ :=
    query_of_search (r := ⟨LocalStore.after [twoSides], ⟨4000, by decide⟩⟩) hsearch
  have hwhole := (h _ result _ hsearch hresult hlisted "g").1
  rw [hevidence] at hwhole
  have hgroup : ((frontmatter "---\nconflict_group: g\n---\nA yes\nA no").lookup "conflict_group".toList).map String.ofList =
      some "g" := by decide
  refine (shownWhole_items_iff _ (by simp) "g").mp hwhole (cutInside_of_forall ?_ (by decide) (by decide))
  exact group_of_mem_hits hgroup (by decide)

end Pmiri
