import Pmiri.Read.Operations
import Pmiri.Read.Ranking
import Pmiri.RequestAuth.Bindings
import Pmiri.Python.Sha256

/-!
# Projects

What a read is answered depends on what the store holds of its project, and on
nothing that any store holds of other projects.
-/

namespace Pmiri

open Py

theorem eq_map_of_traverse {α β : Type} {f : α → Except Exc β} {g : α → β} (hg : ∀ {a b}, f a = .ok b → g a = b)
    {xs : List α} {ys : List β} (h : traverse f xs = .ok ys) : ys = xs.map g ∧ ∀ x ∈ xs, f x = .ok (g x) := by
  induction xs generalizing ys with
  | nil => exact ⟨(Except.ok.inj h).symm, by simp⟩
  | cons x xs ih =>
    obtain ⟨y, hy, h⟩ := bind_ok.mp h
    obtain ⟨ys', hys, h⟩ := bind_ok.mp h
    obtain rfl := Except.ok.inj h
    obtain ⟨rfl, hall⟩ := ih hys
    have hx : f x = .ok (g x) := by rw [hg hy, hy]
    exact ⟨by rw [List.map_cons, hg hy], List.forall_mem_cons.mpr ⟨hx, hall⟩⟩

theorem ofProject_ofProject {α : Type} (version : α → SourceVersion) (project : Option String) (xs : List α) :
    ofProject version project (ofProject version project xs) = ofProject version project xs := by
  simp only [ofProject, List.filter_filter, Bool.and_self]

theorem selectVersions_ofProject {α : Type} (version : α → SourceVersion) (project : Option String) (includeHistory : Bool)
    (xs : List α) : selectVersions version project includeHistory (ofProject version project xs) =
      selectVersions version project includeHistory xs := by
  simp only [selectVersions, ofProject_ofProject]

/-- Reading back what is selected of the project is selecting from what is
read back of it. -/
theorem traverse_selectVersions {α β : Type} (version : α → SourceVersion) (version' : β → SourceVersion)
    {f : α → Except Exc β} (hf : ∀ {a b}, f a = .ok b → version' b = version a) (fallback : α → β)
    (hfallback : ∀ a, version' (fallback a) = version a) {project : Option String} {xs : List α} {ys : List β}
    (h : traverse f (ofProject version project xs) = .ok ys) (includeHistory : Bool) :
    traverse f (selectVersions version project includeHistory xs) = .ok (selectVersions version' project includeHistory ys) := by
  let g : α → β := fun a => (f a).toOption.getD (fallback a)
  have hg : ∀ {a b}, f a = .ok b → g a = b := fun h => by simp only [g, h, Except.toOption, Option.getD_some]
  have hversion : ∀ a, version' (g a) = version a := by
    intro a
    rcases hr : f a with e | b
    · simp only [g, hr, Except.toOption, Option.getD_none, hfallback]
    · rw [hg hr, hf hr]
  obtain ⟨rfl, hall⟩ := eq_map_of_traverse hg h
  rw [← map_selectVersions g hversion, selectVersions_ofProject]
  refine traverse_ok g fun x hx => hall x ?_
  rw [← selectVersions_ofProject] at hx
  exact mem_of_mem_selectVersions hx

/-- A store that keeps the records of each project apart. -/
class ProjectStore (σ : Type) extends SourceStore σ where
  /-- The store has these records of the project, in some order. -/
  HoldsFor : σ → String → List SourceRecord → Prop
  listSources_of_holdsFor : ∀ {s project recs}, HoldsFor s project recs → ∀ includeHistory,
    listSources s (some project) includeHistory =
      .ok (selectVersions (fun r : SourceRecord => r.toSourceVersion) (some project) includeHistory recs)

section

variable [Runtime]

namespace LocalStore

/-- All entries of the project can be read, and are the records. -/
structure HoldsFor (s : LocalStore) (project : String) (recs : List SourceRecord) : Prop where
  distinct : Distinct (fun r : SourceRecord => r.toSourceVersion) recs
  found : ∃ entries found, s.index.read = .ok entries ∧
    traverse s.recordFromDict (ofProject SourceEntry.toSourceVersion (some project) entries) = .ok found ∧ found.Perm recs

instance : ProjectStore LocalStore where
  HoldsFor := HoldsFor
  listSources_of_holdsFor {s project recs} h includeHistory := by
    obtain ⟨entries, found, hread, hfound, hperm⟩ := h.found
    have hselect := traverse_selectVersions SourceEntry.toSourceVersion (fun r : SourceRecord => r.toSourceVersion)
      version_recordFromDict (fun e => ⟨e, ""⟩) (fun _ => rfl) hfound includeHistory
    rw [← selectVersions_perm (h.distinct.perm hperm.symm) hperm (some project) includeHistory]
    exact (bind_ok.mpr ⟨entries, hread, hselect⟩)

end LocalStore

namespace SQLiteStore

/-- All rows of the project can be read, and are the records. -/
structure HoldsFor (s : SQLiteStore) (project : String) (recs : List SourceRecord) : Prop where
  distinct : Distinct (fun r : SourceRecord => r.toSourceVersion) recs
  found : ∃ blobs rows found, s.database.verifySchema = .ok (blobs, rows) ∧
    traverse s.recordFromRow (ofProject SourceRow.toSourceVersion (some project) rows) = .ok found ∧ found.Perm recs

instance : ProjectStore SQLiteStore where
  HoldsFor := HoldsFor
  listSources_of_holdsFor {s project recs} h includeHistory := by
    obtain ⟨blobs, rows, found, hverify, hfound, hperm⟩ := h.found
    have hselect := traverse_selectVersions SourceRow.toSourceVersion (fun r : SourceRecord => r.toSourceVersion)
      version_recordFromRow (fun row => ⟨⟨row.toSourceVersion, .empty⟩, ""⟩) (fun _ => rfl) hfound includeHistory
    have hdistinct : Distinct SourceRow.toSourceVersion (ofProject SourceRow.toSourceVersion (some project) rows) := by
      have hmap := traverse_map_eq (g := fun r : SourceRecord => r.toSourceVersion) (h := SourceRow.toSourceVersion)
        (fun _ _ hr => version_recordFromRow hr) hfound
      have hkeys := congrArg (List.map SourceVersion.versionKey) hmap
      rw [List.map_map, List.map_map] at hkeys
      exact (congrArg List.Nodup hkeys).mp (h.distinct.perm hperm.symm)
    rw [← selectVersions_perm (h.distinct.perm hperm.symm) hperm (some project) includeHistory]
    have hsorted := selectVersions_of_sorted hdistinct (some project) includeHistory
    rw [ofProject_ofProject, selectVersions_ofProject] at hsorted
    refine bind_ok.mpr ⟨_, bind_ok.mpr ⟨_, hverify, rfl⟩, ?_⟩
    rw [hsorted, hselect]

end SQLiteStore

/-! ## Runs -/

namespace Catalog

/-- What is kept of the project. -/
def projectSources (recs : List SourceRecord) (project : String) : List SourceRecord :=
  (ofProject SourceEntry.toSourceVersion (some project) (kept recs)).map (withContent recs)

omit [Runtime] in
theorem projectSources_distinct (recs : List SourceRecord) (project : String) :
    Distinct (fun r : SourceRecord => r.toSourceVersion) (projectSources recs project) := by
  rw [Distinct, projectSources, List.map_map]
  exact (kept_distinct recs).sublist List.filter_sublist

omit [Runtime] in
theorem contentOf_of_mem_sub {recs recs' : List SourceRecord} (hsub : ∀ r ∈ recs', r ∈ recs)
    (hcontent : ∀ a ∈ recs, ∀ b ∈ recs, a.contentFingerprint = b.contentFingerprint → a.content = b.content)
    {r : SourceRecord} (hr : r ∈ recs') : contentOf recs r.contentFingerprint = contentOf recs' r.contentFingerprint := by
  obtain ⟨c, hc⟩ := Option.isSome_iff_exists.mp (contentOf_isSome (hsub r hr))
  obtain ⟨c', hc'⟩ := Option.isSome_iff_exists.mp (contentOf_isSome hr)
  obtain ⟨x, hx, hxf, rfl⟩ := exists_of_contentOf hc
  obtain ⟨y, hy, hyf, rfl⟩ := exists_of_contentOf hc'
  rw [hc, hc', hcontent x hx y (hsub y hy) (hxf.trans hyf.symm)]

omit [Runtime] in
/-- If no version is of two projects and no fingerprint of two contents, what
is kept of a project is what its own registrations leave. -/
theorem projectSources_eq {recs : List SourceRecord} (project : String)
    (hversion : ∀ a ∈ recs, ∀ b ∈ recs, a.versionKey = b.versionKey → a.projectId = b.projectId)
    (hcontent : ∀ a ∈ recs, ∀ b ∈ recs, a.contentFingerprint = b.contentFingerprint → a.content = b.content) :
    projectSources recs project =
      projectSources (ofProject (fun r : SourceRecord => r.toSourceVersion) (some project) recs) project := by
  let own := ofProject (fun r : SourceRecord => r.toSourceVersion) (some project) recs
  have hkept : ofProject SourceEntry.toSourceVersion (some project) (kept recs) = kept own := by
    rw [ofProject, kept, Keyed.filter_firsts, List.filter_map]
    · rfl
    · intro a ha b hb e
      obtain ⟨x, hx, rfl⟩ := List.mem_map.mp ha
      obtain ⟨y, hy, rfl⟩ := List.mem_map.mp hb
      have hproject : x.projectId = y.projectId := hversion x hx y hy e
      simp only [SourceVersion.inProject, SourceEntry.stored_toSourceVersion, hproject]
  have hown : ofProject SourceEntry.toSourceVersion (some project) (kept own) = kept own := by
    rw [← hkept, ofProject_ofProject]
  rw [projectSources, projectSources, hown, hkept]
  refine List.map_congr_left fun e he => ?_
  obtain ⟨r, hr, rfl⟩ := exists_of_mem_kept he
  have hr' := contentOf_of_mem_sub (fun x hx => List.mem_of_mem_filter hx) hcontent hr
  simp only [withContent, SourceEntry.stored_toSourceVersion, hr']
  rfl

omit [Runtime] in
/-- A registration of another project leaves what is kept of the project. -/
theorem projectSources_concat {recs : List SourceRecord} {r : SourceRecord} {project : String} (h : r.projectId ≠ project) :
    projectSources (recs ++ [r]) project = projectSources recs project := by
  have hkept : ofProject SourceEntry.toSourceVersion (some project) (kept (recs ++ [r])) =
      ofProject SourceEntry.toSourceVersion (some project) (kept recs) := by
    rw [kept_concat]
    by_cases hknown : ∃ e ∈ kept recs, e.versionKey = r.toSourceEntry.stored.versionKey
    · obtain ⟨e, he, hkey⟩ := hknown
      rw [Keyed.add_of_mem _ he hkey]
    · push Not at hknown
      have hforeign : ofProject SourceEntry.toSourceVersion (some project) [r.toSourceEntry.stored] = [] :=
        List.filter_eq_nil_iff.mpr (by simpa [SourceVersion.inProject] using h)
      rw [ofProject] at hforeign
      rw [Keyed.add_of_new _ hknown, ofProject, List.filter_append, hforeign, List.append_nil, ofProject]
  rw [projectSources, projectSources, hkept]
  refine List.map_congr_left fun e he => ?_
  obtain ⟨content, hcontent⟩ := exists_contentOf (List.mem_of_mem_filter he)
  rw [withContent, withContent, contentOf_concat, hcontent, Option.some_or]

omit [Runtime] in
theorem projectSources_append {recs others : List SourceRecord} {project : String} (h : ∀ r ∈ others, r.projectId ≠ project) :
    projectSources (recs ++ others) project = projectSources recs project := by
  induction others generalizing recs with
  | nil => rw [List.append_nil]
  | cons r others ih =>
    rw [List.forall_mem_cons] at h
    rw [List.append_cons, ih h.2, projectSources_concat h.1]

theorem projectId_of_accepted {record : RegisterCall → Option SourceRecord} {calls : List RegisterCall} {project : String}
    (hrecord : ∀ c r, record c = some r → c.checked = .ok r) (h : ∀ c ∈ calls, c.projectId ≠ project) :
    ∀ r ∈ calls.filterMap record, r.projectId ≠ project := by
  intro r hr
  obtain ⟨c, hc, hchecked⟩ := List.mem_filterMap.mp hr
  obtain ⟨-, content, -, rfl⟩ := RegisterCall.checked_ok.mp (hrecord c r hchecked)
  exact h c hc

end Catalog

theorem LocalStore.Holds.holdsFor {s : LocalStore} {recs : List SourceRecord} (h : s.Holds recs) (project : String) :
    s.HoldsFor project (Catalog.projectSources recs project) := by
  have hperm : (sortVersions SourceEntry.toSourceVersion (Catalog.kept recs)).Perm (Catalog.kept recs) := Keyed.sortBy_perm _ _
  refine ⟨Catalog.projectSources_distinct recs project, _, _, h.index, traverse_ok (Catalog.withContent recs) ?_, ?_⟩
  · intro e he
    exact h.recordFromDict (hperm.mem_iff.mp (List.mem_of_mem_filter he))
  · exact (hperm.filter _).map _

theorem SQLiteStore.Holds.holdsFor {s : SQLiteStore} {recs : List SourceRecord} (h : s.Holds recs) (hs : s.Readable)
    (project : String) : s.HoldsFor project (Catalog.projectSources recs project) := by
  obtain ⟨blobs, hverify⟩ := h.verifySchema hs
  refine ⟨Catalog.projectSources_distinct recs project, blobs, _, _, hverify, ?_, List.Perm.refl _⟩
  have hrows : ofProject SourceRow.toSourceVersion (some project) ((Catalog.kept recs).map SourceEntry.row) =
      (ofProject SourceEntry.toSourceVersion (some project) (Catalog.kept recs)).map SourceEntry.row := by
    rw [ofProject, List.filter_map]
    rfl
  rw [hrows, traverse_map]
  exact traverse_ok _ fun e he => h.recordFromRow (List.mem_of_mem_filter he)

/-- Registrations of other projects leave what a local store holds of the project. -/
theorem LocalStore.Holds.holdsFor_run {s : LocalStore} {recs : List SourceRecord} (h : s.Holds recs) {project : String}
    {calls : List RegisterCall} (hother : ∀ c ∈ calls, c.projectId ≠ project) :
    (Machine.run LocalStore.step s calls).HoldsFor project (Catalog.projectSources recs project) := by
  have hforeign : ∀ r ∈ LocalStore.accepted calls, r.projectId ≠ project := by
    refine Catalog.projectId_of_accepted (fun c r hr => ?_) hother
    rcases hc : c.checked with e | r' <;> rw [hc] at hr
    · cases hr
    · exact congrArg Except.ok (Option.some.inj hr)
  rw [← Catalog.projectSources_append hforeign]
  exact (h.run calls).holdsFor project

/-- Registrations of other projects leave what a SQLite store holds of the project. -/
theorem SQLiteStore.Holds.holdsFor_run {s : SQLiteStore} {recs : List SourceRecord} (h : s.Holds recs) {project : String}
    {calls : List RegisterCall} (hs : (Machine.run SQLiteStore.step s calls).Readable)
    (hother : ∀ c ∈ calls, c.projectId ≠ project) :
    (Machine.run SQLiteStore.step s calls).HoldsFor project (Catalog.projectSources recs project) := by
  have hforeign : ∀ r ∈ SQLiteStore.accepted s.blobCipher calls, r.projectId ≠ project := by
    refine Catalog.projectId_of_accepted (fun c r hr => ?_) hother
    rcases hc : SQLiteStore.outcome s.blobCipher c with e | r' <;> rw [hc] at hr
    · cases hr
    · obtain ⟨r'', hr'', hc⟩ := bind_ok.mp hc
      obtain ⟨-, hc⟩ := seq_ok.mp hc
      obtain ⟨stored, -, hc⟩ := bind_ok.mp hc
      rw [hr'', Except.ok.inj hc]
      exact congrArg Except.ok (Option.some.inj hr)
  rw [← Catalog.projectSources_append hforeign]
  exact (h.run calls).1.holdsFor hs project

/-! ## Reads -/

/-- The request asks for the project. -/
def ScopedTo (raw : Val) (project : String) : Prop := ∀ d, raw.asDict = some d → d.get "project_constraint" = .str project

omit [Runtime] in
theorem ProjectionRequest.project_of_fromMapping {raw : Val} {project : String} (h : ScopedTo raw project)
    {p : ProjectionRequest} (hp : fromMapping raw = .ok p) : p.projectConstraint = project := by
  unfold fromMapping at hp
  split at hp
  · cases hp
  · rename_i d hd
    simp only [ofDict, seq_ok] at hp
    obtain ⟨-, -, -, -, hp⟩ := hp
    split at hp
    · obtain ⟨n, -, hp⟩ := bind_ok.mp hp
      obtain ⟨-, hp⟩ := seq_ok.mp hp
      obtain rfl := Except.ok.inj hp
      simp only [h d hd, Val.strText]
    · cases hp

variable {σ σ' κ ρ γ : Type} [ProjectStore σ] [ProjectStore σ'] [RegistryPort κ] [RatePort ρ] [ReplayPort γ]

/-- The runtimes answer every query of the project alike. -/
theorem query_of_holdsFor {r : LocalEvidenceRuntime σ} {r' : LocalEvidenceRuntime σ'} (hcompiler : r.compiler = r'.compiler)
    {project : String} {recs : List SourceRecord} (h : ProjectStore.HoldsFor r.store project recs)
    (h' : ProjectStore.HoldsFor r'.store project recs) {request : QueryRequest} (hrequest : request.projectConstraint = project) :
    r.query request = r'.query request := by
  refine LocalEvidenceRuntime.query_congr hcompiler ?_
  rw [hrequest, ProjectStore.listSources_of_holdsFor h, ProjectStore.listSources_of_holdsFor h']

namespace ReadProjectionService

variable {r : LocalEvidenceRuntime σ} {r' : LocalEvidenceRuntime σ'} {raw : Val}
  (hquery : ∀ p, ProjectionRequest.fromMapping raw = .ok p → r.query p.queryRequest = r'.query p.queryRequest)
  (authorization : Option (RequestAuthorizationService κ ρ γ))

include hquery

omit [RegistryPort κ] [RatePort ρ] [ReplayPort γ] in
theorem handle_congr : (ReadProjectionService.mk r authorization).handle raw = (ReadProjectionService.mk r' authorization).handle raw := by
  simp only [handle]
  rcases hp : ProjectionRequest.fromMapping raw with e | p
  · rfl
  · simp only [ok_bind, hquery p hp]

omit [RegistryPort κ] [RatePort ρ] [ReplayPort γ] in
theorem handleDisclosed_congr (authorized : Bool) (binding : Option PublicLineage)
    (revalidate : Option (QueryRequest → Except Exc Bool)) :
    (ReadProjectionService.mk r authorization).handleDisclosed raw authorized binding revalidate =
      (ReadProjectionService.mk r' authorization).handleDisclosed raw authorized binding revalidate := by
  simp only [handleDisclosed]
  rcases hp : ProjectionRequest.fromMapping raw with e | p
  · rfl
  · simp only [ok_bind, hquery p hp]

theorem handleAuthenticated_congr {call : ReadCall} (hraw : call.raw = raw) :
    ((ReadProjectionService.mk r authorization).handleAuthenticated call).1 =
        ((ReadProjectionService.mk r' authorization).handleAuthenticated call).1 ∧
      ((ReadProjectionService.mk r authorization).handleAuthenticated call).2.authorization =
        ((ReadProjectionService.mk r' authorization).handleAuthenticated call).2.authorization := by
  subst hraw
  rcases authorization with _ | a
  · exact ⟨rfl, rfl⟩
  rcases hp : ProjectionRequest.fromMapping call.raw with e | p
  · rw [handleAuthenticated_of_error call hp, handleAuthenticated_of_error call hp]
    exact ⟨rfl, rfl⟩
  rcases he : a.evaluate p.queryRequest call.authenticationRef (nowOr call.now call.utcAtEvaluation) call.limiterClock with
    ⟨_ | evaluation, after⟩
  · rw [handleAuthenticated_of_raise call hp he, handleAuthenticated_of_raise call hp he]
    exact ⟨rfl, rfl⟩
  · rw [handleAuthenticated_of_evaluation call hp he, handleAuthenticated_of_evaluation call hp he]
    exact ⟨handleDisclosed_congr hquery _ _ _ _, rfl⟩

/-- Where the queries are answered alike, so are the reads, and the service
for authorization is left alike. -/
theorem project_congr (adapter : Adapter) (authorized : Option Bool) (call : ReadCall) (hraw : call.raw = raw) :
    ((ReadProjectionService.mk r authorization).project adapter authorized call).1 =
        ((ReadProjectionService.mk r' authorization).project adapter authorized call).1 ∧
      ((ReadProjectionService.mk r authorization).project adapter authorized call).2.authorization =
        ((ReadProjectionService.mk r' authorization).project adapter authorized call).2.authorization := by
  rcases authorization with _ | a
  · subst hraw
    simp only [project]
    split
    · exact ⟨rfl, rfl⟩
    · cases adapter <;> cases authorized <;>
        simp only [api, mcp, apiDisclosed, mcpDisclosed, unauthenticated, disclosed, handle_congr hquery,
          handleDisclosed_congr hquery, and_self]
  · simp only [project, apiAuthenticated, mcpAuthenticated]
    split
    · exact ⟨rfl, rfl⟩
    · cases adapter <;> exact handleAuthenticated_congr hquery (some a) hraw

end ReadProjectionService

omit [Runtime] in
theorem scopedTo_stripped {operation : String} {raw : Val} {project : String} {payload : Dict} (h : ScopedTo raw project)
    (hp : stripTransportOperation operation raw = .ok payload) : ScopedTo payload.toVal project := by
  obtain ⟨-, hp⟩ := seq_ok.mp hp
  split at hp
  · cases hp
  · rename_i d hd
    obtain ⟨-, hp⟩ := seq_ok.mp hp
    obtain rfl := Except.ok.inj hp
    intro d' hd'
    rw [Val.asDict_toVal] at hd'
    obtain rfl := Option.some.inj hd'
    rw [Dict.without, Dict.get_filterKeys, if_pos (by decide)]
    exact h d hd

/-- Two stores that hold the same of a project answer every query and every
read of the project alike, whatever they hold of other projects. -/
theorem project_isolation (r : LocalEvidenceRuntime σ) (r' : LocalEvidenceRuntime σ') (hcompiler : r.compiler = r'.compiler)
    (project : String) (recs : List SourceRecord) (h : ProjectStore.HoldsFor r.store project recs)
    (h' : ProjectStore.HoldsFor r'.store project recs) (authorization : Option (RequestAuthorizationService κ ρ γ)) :
    (∀ request : QueryRequest, request.projectConstraint = project → r.query request = r'.query request) ∧
    (∀ adapter authorized (call : ReadCall), ScopedTo call.raw project →
      let left := (ReadProjectionService.mk r authorization).project adapter authorized call
      let right := (ReadProjectionService.mk r' authorization).project adapter authorized call
      left.1 = right.1 ∧ left.2.authorization = right.2.authorization) ∧
    ∀ operation adapter authorized (call : ReadCall), ScopedTo call.raw project →
      let left := (ReadOperationService.mk (.mk r authorization)).execute operation adapter authorized call
      let right := (ReadOperationService.mk (.mk r' authorization)).execute operation adapter authorized call
      left.1 = right.1 ∧ left.2.projection.authorization = right.2.projection.authorization := by
  have hquery : ∀ {raw}, ScopedTo raw project → ∀ p, ProjectionRequest.fromMapping raw = .ok p →
      r.query p.queryRequest = r'.query p.queryRequest := fun hraw p hp =>
    query_of_holdsFor hcompiler h h' (ProjectionRequest.project_of_fromMapping hraw hp)
  refine ⟨fun request => query_of_holdsFor hcompiler h h', fun adapter authorized call hscope =>
    ReadProjectionService.project_congr (hquery hscope) authorization adapter authorized call rfl,
    fun operation adapter authorized call hscope => ?_⟩
  rcases hp : stripTransportOperation operation call.raw with e | payload
  · simp only [ReadOperationService.execute, hp, and_self]
  · obtain ⟨hfst, hsnd⟩ := ReadProjectionService.project_congr (hquery (scopedTo_stripped hscope hp)) authorization adapter
      authorized { call with raw := payload.toVal } rfl
    simp only [ReadOperationService.execute, hp]
    exact ⟨by rw [hfst], hsnd⟩

/-- An entry of the project. -/
def exampleEntry (project : String) : SourceEntry where
  sourceId := "src_" ++ project
  versionId := "ver_example"
  projectId := project
  sourceName := "notes.md"
  contentFingerprint := sha256Bytes "A".toUTF8
  captureTime := "2026-01-01T00:00:00Z"

/-- A local store with one source. -/
def exampleLocalStore : LocalStore :=
  ⟨.sources [exampleEntry "project"], [(sha256Bytes "A".toUTF8, "A".toUTF8)]⟩

/-- A SQLite store with the same source, and with a source of another project
whose blob is missing. -/
def exampleSQLiteStore : SQLiteStore :=
  ⟨.tables [(sha256Bytes "A".toUTF8, "A".toUTF8)]
    [{ exampleEntry "other" with contentFingerprint := "" }.row, (exampleEntry "project").row], none⟩

theorem exampleLocalStore_holdsFor : exampleLocalStore.HoldsFor "project" [⟨exampleEntry "project", "A"⟩] := by
  have hlookup : exampleLocalStore.blobs.lookup (exampleEntry "project").contentFingerprint = some "A".toUTF8 :=
    List.lookup_cons_self
  have hfingerprint : sha256Bytes "A".toUTF8 = (exampleEntry "project").contentFingerprint := rfl
  refine ⟨List.nodup_singleton _, _, _, rfl, traverse_ok (fun e => ⟨e, "A"⟩) ?_, List.Perm.refl _⟩
  intro e he
  obtain rfl := List.mem_singleton.mp he
  simp only [LocalStore.recordFromDict, hlookup, fromUTF8?_toUTF8, hfingerprint, bne_self_eq_false, Bool.false_eq_true,
    ↓reduceIte]

theorem exampleSQLiteStore_holdsFor : exampleSQLiteStore.HoldsFor "project" [⟨exampleEntry "project", "A"⟩] := by
  have hfingerprint : sha256Bytes "A".toUTF8 = (exampleEntry "project").row.contentFingerprint := rfl
  have hmetadata : (exampleEntry "project").row.metadata = .ok .empty := SQLiteStore.metadata_row rfl
  refine ⟨List.nodup_singleton _, _, _, _, rfl, traverse_ok (fun row => ⟨⟨row.toSourceVersion, .empty⟩, "A"⟩) ?_, List.Perm.refl _⟩
  intro row hrow
  obtain rfl := List.mem_singleton.mp hrow
  rw [SQLiteStore.recordFromRow, exampleSQLiteStore]
  simp only [Database.verifySchema, ok_bind, hfingerprint, List.lookup_cons_self, decrypted, bne_self_eq_false, raiseIf,
    Bool.false_eq_true, ↓reduceIte, hmetadata, fromUTF8?_toUTF8]

end

theorem project_isolation_example :
    letI := asciiRuntime
    (LocalEvidenceRuntime.mk exampleLocalStore ⟨4000, by decide⟩).query (exampleQuery "request") =
      (LocalEvidenceRuntime.mk exampleSQLiteStore ⟨4000, by decide⟩).query (exampleQuery "request") := by
  let := asciiRuntime
  exact (project_isolation (κ := AuthenticationRegistry) (ρ := FixedWindowRateLimiter) (γ := ReplayGuard)
    (.mk exampleLocalStore ⟨4000, by decide⟩) (.mk exampleSQLiteStore ⟨4000, by decide⟩) rfl "project" _
    exampleLocalStore_holdsFor exampleSQLiteStore_holdsFor none).1 _ rfl

end Pmiri
