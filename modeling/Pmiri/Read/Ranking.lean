import Mathlib.Data.Finset.Card
import Pmiri.Read.Retrieval

/-!
# The top results

What a search returns, over the lines of the project's current sources: those
that share a token with the query, in the order of their ranks, as many as are
asked for. The order in which the store lists its sources does not matter.
-/

namespace Pmiri

open Py

/-! ## Current sources -/

/-- The records are of the latest versions of the project's sources. -/
structure Latest (versions : List SourceVersion) (project : String) (sources : List SourceRecord) : Prop where
  distinct : (sources.map (·.sourceId)).Nodup
  latest : ∀ r ∈ sources, r.toSourceVersion ∈ versions ∧ r.projectId = project ∧
    ∀ v ∈ versions, v.projectId = project → v.sourceId = r.sourceId → v.currencyKey ≤ r.currencyKey
  complete : ∀ v ∈ versions, v.projectId = project → ∃ r ∈ sources, r.sourceId = v.sourceId

/-- A store that lists the latest of the versions that it holds. -/
class VersionedStore (σ : Type) extends SourceStore σ where
  versions : σ → Except Exc (List SourceVersion)
  listed : ∀ {s project sources}, listSources s (some project) false = .ok sources →
    ∃ vs, versions s = .ok vs ∧ Latest vs project sources

theorem traverse_map_eq {α β γ : Type} {f : α → Except Exc β} {g : β → γ} {h : α → γ}
    (hf : ∀ x y, f x = .ok y → g y = h x) {xs : List α} {ys : List β} (hxs : traverse f xs = .ok ys) :
    ys.map g = xs.map h := by
  induction xs generalizing ys with
  | nil =>
    obtain rfl := Except.ok.inj hxs
    rfl
  | cons x xs ih =>
    obtain ⟨y, hy, hxs⟩ := bind_ok.mp hxs
    obtain ⟨zs, hzs, hxs⟩ := bind_ok.mp hxs
    obtain rfl := Except.ok.inj hxs
    rw [List.map_cons, List.map_cons, hf x y hy, ih hzs]

/-- The newest of the versions of a project are the latest of each source. -/
theorem latest_of_latestVersions {α : Type} {version : α → SourceVersion} {project : String} {xs found : List α}
    {sources : List SourceRecord} (hfound : ∀ x, x ∈ found ↔ x ∈ xs ∧ (version x).projectId = project)
    (h : sources.map (·.toSourceVersion) = (sortVersions version (latestVersions version found)).map version) :
    Latest (xs.map version) project sources := by
  have hmem : ∀ x, x ∈ sortVersions version (latestVersions version found) ↔ x ∈ latestVersions version found :=
    fun x => Keyed.mem_sortBy _
  constructor
  · have hids : sources.map (·.sourceId) =
        (sortVersions version (latestVersions version found)).map fun x => (version x).sourceId := by
      have hmap := congrArg (List.map SourceVersion.sourceId) h
      rwa [List.map_map, List.map_map] at hmap
    rw [hids]
    exact ((Keyed.sortBy_perm _ _).map _).nodup_iff.mpr (Keyed.nodup_newest _ _ _)
  · intro r hr
    have hr' : r.toSourceVersion ∈ sources.map (·.toSourceVersion) := List.mem_map_of_mem hr
    rw [h] at hr'
    obtain ⟨x, hx, hxr⟩ := List.mem_map.mp hr'
    rw [hmem] at hx
    obtain ⟨hxs, hxp⟩ := (hfound x).mp (Keyed.mem_of_mem_newest _ _ hx)
    refine ⟨hxr ▸ List.mem_map_of_mem hxs, (congrArg SourceVersion.projectId hxr).symm.trans hxp, ?_⟩
    intro v hv hvp hvs
    obtain ⟨y, hy, rfl⟩ := List.mem_map.mp hv
    rw [← hxr] at hvs ⊢
    exact Keyed.le_of_mem_newest (fun x => (version x).sourceId) (fun x => (version x).currencyKey) hx
      ((hfound y).mpr ⟨hy, hvp⟩) hvs
  · intro v hv hvp
    obtain ⟨y, hy, rfl⟩ := List.mem_map.mp hv
    obtain ⟨d, hd, hds, -⟩ := Keyed.exists_mem_newest (fun x => (version x).sourceId) (fun x => (version x).currencyKey)
      ((hfound y).mpr ⟨hy, hvp⟩)
    have hd' : version d ∈ sources.map (·.toSourceVersion) := h ▸ List.mem_map_of_mem ((hmem d).mpr hd)
    obtain ⟨r, hr, hrd⟩ := List.mem_map.mp hd'
    exact ⟨r, hr, (congrArg SourceVersion.sourceId hrd).trans hds⟩

section

variable [Runtime]

omit [Runtime] in
theorem mem_ofProject {α : Type} {version : α → SourceVersion} {project : String} {xs : List α} (x : α) :
    x ∈ ofProject version (some project) xs ↔ x ∈ xs ∧ (version x).projectId = project := by
  simp only [ofProject, List.mem_filter, SourceVersion.inProject, beq_iff_eq]

theorem LocalStore.version_recordFromDict {s : LocalStore} {e : SourceEntry} {r : SourceRecord}
    (h : s.recordFromDict e = .ok r) : r.toSourceVersion = e.toSourceVersion := by
  simp only [recordFromDict] at h
  split at h
  · cases h
  · split at h
    · cases h
    · split at h <;> cases h
      rfl

theorem SQLiteStore.version_recordFromRow {s : SQLiteStore} {row : SourceRow} {r : SourceRecord}
    (h : s.recordFromRow row = .ok r) : r.toSourceVersion = row.toSourceVersion := by
  obtain ⟨⟨blobs, rows⟩, -, h⟩ := bind_ok.mp h
  simp only at h
  split at h
  · cases h
  · obtain ⟨raw, -, h⟩ := bind_ok.mp h
    obtain ⟨-, h⟩ := seq_ok.mp h
    obtain ⟨metadata, -, h⟩ := bind_ok.mp h
    split at h <;> cases h
    rfl

instance : VersionedStore LocalStore where
  versions s := s.index.read.map fun entries => entries.map (·.toSourceVersion)
  listed {s project sources} h := by
    obtain ⟨entries, hread, h⟩ := bind_ok.mp h
    refine ⟨_, by rw [hread]; rfl, latest_of_latestVersions mem_ofProject (traverse_map_eq (fun e r hr => ?_) h)⟩
    exact LocalStore.version_recordFromDict hr

instance : VersionedStore SQLiteStore where
  versions s := s.database.verifySchema.map fun tables => tables.2.map (·.toSourceVersion)
  listed {s project sources} h := by
    obtain ⟨rows, hrows, h⟩ := bind_ok.mp h
    obtain ⟨⟨blobs, all⟩, hschema, hrows⟩ := bind_ok.mp hrows
    obtain rfl := Except.ok.inj hrows
    refine ⟨_, by rw [hschema]; rfl, latest_of_latestVersions (fun x => ?_) (traverse_map_eq (fun row r hr => ?_) h)⟩
    · rw [sortVersions, Keyed.mem_sortBy]
      exact mem_ofProject x
    · exact SQLiteStore.version_recordFromRow hr

/-! ## Hits -/

omit [Runtime] in
theorem EvidenceItem.rank_lt_iff {i j : EvidenceItem} : i.rank < j.rank ↔ j.score < i.score ∨ i.score = j.score ∧
    [i.sourceId, i.versionId, i.anchor] < [j.sourceId, j.versionId, j.anchor] := by
  have hlt : -(i.score : Int) < -(j.score : Int) ↔ j.score < i.score := by omega
  have heq : -(i.score : Int) = -(j.score : Int) ↔ i.score = j.score := by omega
  rw [rank, rank, Prod.Lex.toLex_lt_toLex, hlt, heq]

omit [Runtime] in
theorem EvidenceItem.rank_eq_iff {i j : EvidenceItem} : i.rank = j.rank ↔ i.score = j.score ∧
    [i.sourceId, i.versionId, i.anchor] = [j.sourceId, j.versionId, j.anchor] := by
  have heq : -(i.score : Int) = -(j.score : Int) ↔ i.score = j.score := by omega
  rw [rank, rank, toLex_inj, Prod.mk.injEq, heq]

/-- A line of a source that shares tokens with a query. -/
structure Hit where
  source : SourceRecord
  span : RetrievedSpan

namespace Hit

/-- The evidence of a hit. -/
def item (h : Hit) : EvidenceItem :=
  evidenceItem h.source (((frontmatter h.source.content).lookup "conflict_group".toList).map String.ofList) h.span

/-- The rank of a hit: that of its evidence, and then the number of its line. -/
def rank (h : Hit) : Lex (Lex (Int × List String) × Nat) := toLex (h.item.rank, h.span.startLine)

/-- A hit comes before another: its score is larger; or it is the same, and its source, its version and its anchor come
first in turn; or these are the same too, and its line comes first. -/
def Before (a b : Hit) : Prop :=
  b.item.score < a.item.score ∨ a.item.score = b.item.score ∧
    ([a.item.sourceId, a.item.versionId, a.item.anchor] < [b.item.sourceId, b.item.versionId, b.item.anchor] ∨
      [a.item.sourceId, a.item.versionId, a.item.anchor] = [b.item.sourceId, b.item.versionId, b.item.anchor] ∧
        a.span.startLine < b.span.startLine)

theorem rank_lt_iff {a b : Hit} : a.rank < b.rank ↔ a.Before b := by
  rw [rank, rank, Prod.Lex.toLex_lt_toLex, EvidenceItem.rank_lt_iff, EvidenceItem.rank_eq_iff, or_assoc, and_assoc, ← and_or_left,
    Before]

end Hit

/-- How many distinct tokens a line shares with a query. -/
def sharedTokens (query line : List Char) : Nat := ((tokens query).toFinset ∩ (tokens line).toFinset).card

/-- The span of a line with its number. -/
def lineSpan (query : List Char) (numbered : List Char × Nat) : RetrievedSpan :=
  ⟨numbered.2, numbered.2, String.ofList (strip isSpace numbered.1), sharedTokens query numbered.1⟩

/-- The hits of a query in a source, in the order of the lines. -/
def hitsOf (query : List Char) (source : SourceRecord) : List Hit :=
  ((((splitlines source.content.toList).zipIdx 1).map (lineSpan query)).filter (0 < ·.score)).map (Hit.mk source)

/-- The hits of a query in the sources. -/
def hits (query : List Char) (sources : List SourceRecord) : List Hit := sources.flatMap (hitsOf query)

theorem length_filter_dedup (query line : List Char) :
    ((tokens query).dedup.filter (tokens line).contains).length = sharedTokens query line := by
  rw [sharedTokens, ← List.toFinset_card_of_nodup ((List.nodup_dedup _).filter _)]
  congr 1
  ext token
  simp

theorem spansFrom_eq (query : List Char) (number : Nat) (lines : List (List Char)) :
    spansFrom (tokens query).dedup number lines = ((lines.zipIdx number).map (lineSpan query)).filter (0 < ·.score) := by
  induction lines generalizing number with
  | nil => rfl
  | cons line lines ih =>
    have hscore := length_filter_dedup query line
    rw [spansFrom, List.zipIdx_cons, List.map_cons, List.filter_cons, ih]
    simp only [hscore]
    split <;> rename_i h
    · rw [if_neg (by simp [lineSpan, h])]
    · have hpos : decide (0 < (lineSpan query (line, number)).score) = true := decide_eq_true (Nat.pos_of_ne_zero h)
      rw [if_pos hpos]
      rfl

/-- The hits are the lines of the sources that share a token with the query, each with the number of those it shares. -/
theorem mem_hits {query : List Char} {sources : List SourceRecord} {h : Hit} :
    h ∈ hits query sources ↔ h.source ∈ sources ∧ ∃ i line, (splitlines h.source.content.toList)[i]? = some line ∧
      0 < sharedTokens query line ∧ h.span = lineSpan query (line, i + 1) := by
  simp only [hits, hitsOf, List.mem_flatMap, List.mem_map, List.mem_filter, decide_eq_true_eq]
  constructor
  · rintro ⟨source, hsource, span, ⟨⟨⟨line, n⟩, hline, rfl⟩, hscore⟩, rfl⟩
    obtain ⟨hn, hget⟩ := List.mem_zipIdx_iff_le_and_getElem?_sub.mp hline
    exact ⟨hsource, n - 1, line, hget, hscore, by rw [Nat.sub_add_cancel hn]⟩
  · rintro ⟨hsource, i, line, hget, hscore, hspan⟩
    have hline : (line, i + 1) ∈ (splitlines h.source.content.toList).zipIdx 1 :=
      List.mem_zipIdx_iff_le_and_getElem?_sub.mpr ⟨Nat.le_add_left 1 i, by rw [Nat.add_sub_cancel]; exact hget⟩
    exact ⟨h.source, hsource, h.span, ⟨⟨(line, i + 1), hline, hspan.symm⟩, hspan ▸ hscore⟩, rfl⟩

/-- The evidence of a source is that of its hits. -/
theorem sourceEvidence_eq (query : List Char) (source : SourceRecord) :
    sourceEvidence (tokens query) source = (hitsOf query source).map Hit.item := by
  rw [sourceEvidence, matchingSpans, spansFrom_eq, hitsOf, List.map_map]
  rfl

/-! ## Ranks -/

theorem mem_hitsOf {query : List Char} {source : SourceRecord} {h : Hit} (hh : h ∈ hitsOf query source) :
    h.source = source ∧ ∃ i, ∃ line, (splitlines source.content.toList)[i]? = some line ∧ h.span = lineSpan query (line, i + 1) := by
  obtain ⟨span, hspan, rfl⟩ := List.mem_map.mp hh
  obtain ⟨⟨line, n⟩, hmem, rfl⟩ := List.mem_map.mp (List.mem_of_mem_filter hspan)
  obtain ⟨hn, hget⟩ := List.mem_zipIdx_iff_le_and_getElem?_sub.mp hmem
  exact ⟨rfl, n - 1, line, hget, by rw [Nat.sub_add_cancel hn]⟩

/-- Hits of one source are in the order of their lines. -/
theorem pairwise_hitsOf (query : List Char) (source : SourceRecord) :
    (hitsOf query source).Pairwise fun a b => a.span.startLine < b.span.startLine := by
  rw [hitsOf, List.pairwise_map]
  refine List.Pairwise.filter _ ?_
  rw [List.pairwise_map]
  have hnumbers : ∀ (lines : List (List Char)) (n : Nat), (lines.zipIdx n).Pairwise fun a b => a.2 < b.2 := by
    intro lines
    induction lines with
    | nil => exact fun n => .nil
    | cons line lines ih =>
      intro n
      rw [List.zipIdx_cons, List.pairwise_cons]
      refine ⟨fun a ha => ?_, ih (n + 1)⟩
      exact (List.mem_zipIdx_iff_le_and_getElem?_sub.mp ha).1
  exact hnumbers _ _

theorem sourceId_of_rank {a b : Hit} (h : a.item.rank = b.item.rank) : a.source.sourceId = b.source.sourceId := by
  have hlist := congrArg (fun r => (ofLex r).2) h
  exact (List.cons.inj hlist).1

/-- Hits with one rank are of one source, and in the order of their lines. -/
theorem pairwise_hits {query : List Char} {sources : List SourceRecord} (hd : (sources.map (·.sourceId)).Nodup) :
    (hits query sources).Pairwise fun a b => a.item.rank = b.item.rank → a.span.startLine < b.span.startLine := by
  induction sources with
  | nil => exact .nil
  | cons source sources ih =>
    rw [List.map_cons, List.nodup_cons] at hd
    rw [hits, List.flatMap_cons, List.pairwise_append]
    refine ⟨(pairwise_hitsOf query source).imp fun {a b} h (_ : a.item.rank = b.item.rank) => h, ih hd.2, ?_⟩
    intro a ha b hb hrank
    obtain ⟨source', hsource', hb⟩ := List.mem_flatMap.mp hb
    have hid := sourceId_of_rank hrank
    rw [(mem_hitsOf ha).1, (mem_hitsOf hb).1] at hid
    exact absurd (hid ▸ List.mem_map_of_mem hsource') hd.1

/-- A rank is that of one hit. -/
theorem rank_inj {query : List Char} {sources : List SourceRecord} (hd : (sources.map (·.sourceId)).Nodup) {a b : Hit}
    (ha : a ∈ hits query sources) (hb : b ∈ hits query sources) (h : a.rank = b.rank) : a = b := by
  obtain ⟨source, hs, ha⟩ := List.mem_flatMap.mp ha
  obtain ⟨source', hs', hb⟩ := List.mem_flatMap.mp hb
  obtain ⟨rfl, i, line, hline, hspan⟩ := mem_hitsOf ha
  obtain ⟨rfl, j, line', hline', hspan'⟩ := mem_hitsOf hb
  have hrank : a.item.rank = b.item.rank := congrArg (fun r => (ofLex r).1) h
  have hstart : a.span.startLine = b.span.startLine := congrArg (fun r => (ofLex r).2) h
  have hsource : a.source = b.source := List.inj_on_of_nodup_map hd hs hs' (sourceId_of_rank hrank)
  rw [hspan, hspan'] at hstart
  obtain rfl : i = j := Nat.succ.inj hstart
  rw [hsource, hline'] at hline
  obtain rfl := Option.some.inj hline
  obtain ⟨source, span⟩ := a
  obtain ⟨source', span'⟩ := b
  simp only at hsource hspan hspan'
  rw [hsource, hspan, hspan']

theorem nodup_hits {query : List Char} {sources : List SourceRecord} (hd : (sources.map (·.sourceId)).Nodup) :
    (hits query sources).Nodup :=
  (pairwise_hits hd).imp fun h heq => absurd (h (by rw [heq])) (by rw [heq]; exact lt_irrefl _)

/-! ## The best hits -/

/-- The hits in the order of their ranks. -/
def ranked (query : List Char) (sources : List SourceRecord) : List Hit := Keyed.sortBy Hit.rank (hits query sources)

/-- The order of the evidence is the order of the hits. -/
theorem sortBy_evidence {query : List Char} {sources : List SourceRecord} (hd : (sources.map (·.sourceId)).Nodup) :
    Keyed.sortBy EvidenceItem.rank (sources.flatMap (sourceEvidence (tokens query))) =
      (ranked query sources).map Hit.item := by
  have hmap : sources.flatMap (sourceEvidence (tokens query)) = (hits query sources).map Hit.item := by
    rw [hits, List.map_flatMap]
    exact congrArg (List.flatMap · sources) (funext fun source => sourceEvidence_eq query source)
  have hties : (hits query sources).Pairwise fun a b => a.item.rank = b.item.rank → a.span.startLine ≤ b.span.startLine :=
    (pairwise_hits hd).imp fun h heq => (h heq).le
  have hsorted : (Keyed.sortBy (fun h : Hit => h.item.rank) (hits query sources)).map Hit.item =
      Keyed.sortBy EvidenceItem.rank ((hits query sources).map Hit.item) := Keyed.map_sortBy Hit.item (fun _ => rfl) _
  rw [hmap, ← hsorted, Keyed.sortBy_eq_of_ties hties]
  rfl

/-- The order in which the sources are listed does not matter. -/
theorem ranked_perm {query : List Char} {sources sources' : List SourceRecord} (hd : (sources.map (·.sourceId)).Nodup)
    (h : sources.Perm sources') : ranked query sources = ranked query sources' :=
  Keyed.sortBy_eq_of_perm _ (fun _ ha _ hb hrank => rank_inj hd ha hb hrank) (h.flatMap_right _)

theorem evidenceOf_perm {request : QueryRequest} {sources sources' : List SourceRecord}
    (hd : (sources.map (·.sourceId)).Nodup) (h : sources.Perm sources') :
    evidenceOf request (tokens request.query.toList) sources = evidenceOf request (tokens request.query.toList) sources' := by
  have hempty : sources.isEmpty = sources'.isEmpty := by
    rw [Bool.eq_iff_iff, List.isEmpty_iff, List.isEmpty_iff]
    exact ⟨fun e => (e ▸ h).nil_eq.symm, fun e => (e ▸ h).eq_nil⟩
  rw [evidenceOf, evidenceOf, sortBy_evidence hd, sortBy_evidence ((h.map _).nodup_iff.mp hd), ranked_perm hd h, hempty]

/-- The items are the evidence of the first hits, and the hits are the lines that share a token with the query. The
score of an item is the number of tokens that its line shares. -/
structure Top (request : QueryRequest) (sources : List SourceRecord) (items : List EvidenceItem) : Prop where
  first : ∃ order : List Hit, order.Perm (hits request.query.toList sources) ∧ order.Pairwise Hit.Before ∧
    items = (order.take request.maxResults.toNat).map Hit.item
  lines : ∀ h : Hit, h ∈ hits request.query.toList sources ↔ h.source ∈ sources ∧
    ∃ i line, (splitlines h.source.content.toList)[i]? = some line ∧ 0 < sharedTokens request.query.toList line ∧
      h.span = lineSpan request.query.toList (line, i + 1)
  scores : ∀ h ∈ hits request.query.toList sources, ∃ line ∈ splitlines h.source.content.toList,
    h.item.score = sharedTokens request.query.toList line

/-- The items of a search are the evidence of the first hits. -/
theorem items_evidenceOf (request : QueryRequest) {sources : List SourceRecord} (hd : (sources.map (·.sourceId)).Nodup) :
    (evidenceOf request (tokens request.query.toList) sources).items =
      ((ranked request.query.toList sources).take request.maxResults.toNat).map Hit.item := by
  rw [evidenceOf, sortBy_evidence hd, List.map_take]

theorem top_evidenceOf (request : QueryRequest) {sources : List SourceRecord} (hd : (sources.map (·.sourceId)).Nodup) :
    Top request sources (evidenceOf request (tokens request.query.toList) sources).items := by
  refine ⟨⟨ranked request.query.toList sources, Keyed.sortBy_perm _ _, ?_, items_evidenceOf request hd⟩, fun _ => mem_hits,
    fun h hh => ?_⟩
  · have hranked : (ranked request.query.toList sources).Pairwise fun a b => a.rank < b.rank :=
      Keyed.pairwise_lt_sortBy _ (fun a ha b hb hrank => rank_inj hd ha hb hrank) (nodup_hits hd)
    exact hranked.imp Hit.rank_lt_iff.mp
  · obtain ⟨-, i, line, hget, -, hspan⟩ := mem_hits.mp hh
    exact ⟨line, List.mem_of_getElem? hget, congrArg RetrievedSpan.score hspan⟩

/-- The request is not valid, its query has no tokens, or the sources of its project cannot be listed. -/
def Unanswerable {σ : Type} [SourceStore σ] (store : σ) (request : QueryRequest) : Prop :=
  (∀ d, request.normalized ≠ .ok d) ∨ tokens request.query.toList = [] ∨
    ∀ sources, SourceStore.listSources store (some request.projectConstraint) false ≠ .ok sources

/-- A search returns the evidence of the first hits among the latest sources of its project, in whatever order these
are listed. It fails only where the request is not valid, where its query has no tokens, or where the store cannot list
the sources. -/
theorem search_spec {σ : Type} [VersionedStore σ] (store : σ) (request : QueryRequest) :
    match search store request with
    | .error _ => Unanswerable store request
    | .ok e => ∃ versions sources, VersionedStore.versions store = .ok versions ∧
        SourceStore.listSources store (some request.projectConstraint) false = .ok sources ∧
        Latest versions request.projectConstraint sources ∧ Top request sources e.items ∧
        ∀ sources', sources.Perm sources' → evidenceOf request (tokens request.query.toList) sources' = e := by
  cases hs : search store request with
  | error e =>
    show Unanswerable store request
    by_contra hanswerable
    simp only [Unanswerable, not_or, not_forall, not_not] at hanswerable
    obtain ⟨⟨d, hd⟩, htokens, sources, hsources⟩ := hanswerable
    have hnonempty : (tokens request.query.toList).isEmpty = false := by simpa using htokens
    simp only [search, hd, ok_bind, hnonempty, raiseIf, Bool.false_eq_true, ↓reduceIte, hsources] at hs
    cases hs
  | ok e =>
    obtain ⟨d, -, h⟩ := bind_ok.mp hs
    obtain ⟨-, h⟩ := seq_ok.mp h
    obtain ⟨sources, hsources, h⟩ := bind_ok.mp h
    obtain rfl := Except.ok.inj h
    obtain ⟨versions, hversions, hlatest⟩ := VersionedStore.listed hsources
    exact ⟨versions, sources, hversions, hsources, hlatest, top_evidenceOf request hlatest.distinct,
      fun sources' hperm => (evidenceOf_perm hlatest.distinct hperm).symm⟩

end

end Pmiri
