import Pmiri.Read.Operations
import Pmiri.RequestAuth.Revalidation

/-!
# What is disclosed

The response to a read that is denied, and to one that finds nothing, depends
on the request and on the context bound alone, as far as the retrieval that
comes before it returns.
-/

namespace Pmiri

open Py

section

variable [Runtime]

/-! ## Projections -/

/-- The projection that carries nothing of any result. -/
def blankProjection (q : QueryRequest) (bound : Nat) : Except Exc Dict := do
  let binding ← serverBinding q
  return bindProjection (← emptyProjection q bound) binding

/-- The response to a read that carries nothing of any result. -/
def blankResponse (operation : String) (raw : Val) (bound : Nat) : Except Exc Dict := do
  let payload ← stripTransportOperation operation raw
  let p ← ProjectionRequest.fromMapping payload.toVal
  raiseIf (tokens p.query.toList).isEmpty (valueError "query_has_no_search_tokens")
  let projection ← blankProjection p.queryRequest bound
  respond operation payload projection

theorem serverBinding_of_normalized {q : QueryRequest} (h : q.normalized = .ok q.asDict) :
    serverBinding q = .ok (lineageOf (sha256Json q.asDict.toVal) q.projectConstraint) := by
  rw [serverBinding, h]
  rfl

/-- What is disclosed of a result that is not authorized, or of one without evidence. -/
theorem disclose_blank {result : QueryResult} {authorized : Bool} (h : authorized = false ∨ result.evidence = []) :
    (serverBinding result.request >>= fun binding => disclose result authorized binding) =
      blankProjection result.request result.context.bound := by
  have hempty : projectQueryResult result authorized = emptyProjection result.request result.context.bound := by
    rw [projectQueryResult, if_pos]
    rcases h with rfl | h
    · rfl
    · rw [h]
      simp
  simp only [disclose, hempty, blankProjection]

/-- The parts of a projection in which evidence could show. -/
structure Blank (projection : Dict) : Prop where
  disposition : (itemDict projection "result").get "disposition" = .str "EMPTY"
  evidence : projection.get "evidence" = .list []
  text : (itemDict projection "context").get "text" = .str ""

omit [Runtime] in
theorem merge_publicLineage (d : Dict) (l : PublicLineage) :
    d.merge l.asDict = ((d.insert "authorization_ref" (.str l.authorizationRef)).insert "request_fingerprint"
      (.str l.requestFingerprint)).insert "scope" (.str l.scope) := by
  rw [Dict.merge, PublicLineage.asDict, Dict.ofItems_items (by simp)]
  rfl

/-- A projection has a result, and a lineage with evidence references. -/
structure Parts (projection result lineage : Dict) (refs : List String) : Prop where
  evidence : lineage.get "evidence_refs" = strList refs
  result : projection.get "result" = result.toVal
  lineage : projection.get "lineage" = lineage.toVal

omit [Runtime] in
theorem Parts.of_get {projection projection' result lineage : Dict} {refs : List String} (h : Parts projection result lineage refs)
    (hresult : projection'.get "result" = projection.get "result") (hlineage : projection'.get "lineage" = projection.get "lineage") :
    Parts projection' result lineage refs := ⟨h.evidence, hresult.trans h.result, hlineage.trans h.lineage⟩

omit [Runtime] in
theorem Parts.getD_evidence {projection result lineage : Dict} {refs : List String} (h : Parts projection result lineage refs) :
    lineage.getD "evidence_refs" (.list []) = .list (refs.map .str) := by
  have hrefs : lineage.get "evidence_refs" ≠ .none := by
    rw [h.evidence, strList]
    simp
  rw [Dict.getD_of_contains _ (Dict.contains_of_get hrefs), h.evidence, strList]

theorem emptyProjection_ok {q : QueryRequest} {d : Dict} (h : q.normalized = .ok d) (bound : Nat) :
    ∃ projection, emptyProjection q bound = .ok projection ∧ Blank projection ∧
      ∃ result lineage refs, Parts projection result lineage refs := by
  rw [emptyProjection, h, ok_bind]
  refine ⟨_, rfl, ⟨?_, ?_, ?_⟩, Dict.ofItems [("disposition", .str "EMPTY"), ("coverage", .str "unknown")],
    Dict.ofItems [("authorization_ref", .str q.lineage), ("evidence_refs", strList [])], [], ?_, ?_, ?_⟩ <;>
    simp [itemDict, fingerprinted, Dict.ofItems, Dict.get_insert, Val.asDict_toVal]

theorem parts_of_structured {result : QueryResult} {structured : Dict} (h : result.structured = .ok structured) :
    Parts structured
      (Dict.ofItems [("disposition", .str result.disposition.value), ("coverage", .str result.coverage.value)])
      (Dict.ofItems [("authorization_ref", .str result.authorizationLineage),
        ("evidence_refs", strList (result.evidence.map (·.evidenceRef)))]) (result.evidence.map (·.evidenceRef)) := by
  obtain ⟨d, -, h⟩ := bind_ok.mp h
  obtain rfl := Except.ok.inj h
  constructor <;> simp [Dict.ofItems, Dict.get_insert]

theorem parts_of_projectQueryResult {result : QueryResult} {authorized : Bool} {projection : Dict}
    (h : projectQueryResult result authorized = .ok projection) : ∃ result lineage refs, Parts projection result lineage refs := by
  rw [projectQueryResult] at h
  split at h
  · obtain ⟨d, hd, -⟩ := bind_ok.mp h
    obtain ⟨projection', hempty, -, hparts⟩ := emptyProjection_ok hd result.context.bound
    rwa [Except.ok.inj (h.symm.trans hempty)]
  · obtain ⟨structured, hstructured, h⟩ := bind_ok.mp h
    obtain rfl := Except.ok.inj h
    exact ⟨_, _, _, (parts_of_structured hstructured).of_get (by simp [Dict.ofItems, Dict.get_insert])
      (by simp [Dict.ofItems, Dict.get_insert])⟩

theorem get_bindProjection {projection : Dict} {binding : PublicLineage} {key : String} (h : key ∈ ["result", "evidence", "context"]) :
    (bindProjection projection binding).get key = projection.get key := by
  rw [bindProjection, Dict.get_insert, Dict.get_insert, if_neg, if_neg] <;> rintro rfl <;> simp at h

theorem Parts.projected {projection result lineage : Dict} {refs : List String} (h : Parts projection result lineage refs)
    (binding : PublicLineage) : Projected (bindProjection projection binding) := by
  refine ⟨⟨result, ?_⟩, ⟨lineage.merge binding.asDict, refs.map .str, ?_, ?_⟩, ⟨_, by rw [bindProjection, Dict.get_insert_self]⟩⟩
  · rw [get_bindProjection (by simp), h.result]
  · rw [bindProjection, Dict.get_insert, if_neg (by decide), Dict.get_insert_self, itemDict_of_get h.lineage]
  · simp only [merge_publicLineage, Dict.getD_insert, String.reduceEq, ↓reduceIte, h.getD_evidence]

theorem Blank.bindProjection {projection : Dict} (h : Blank projection) (binding : PublicLineage) :
    Blank (bindProjection projection binding) := by
  constructor
  · rw [itemDict, get_bindProjection (by simp)]
    exact h.disposition
  · rw [get_bindProjection (by simp)]
    exact h.evidence
  · rw [itemDict, get_bindProjection (by simp)]
    exact h.text

theorem blankProjection_ok {q : QueryRequest} (h : q.normalized = .ok q.asDict) (bound : Nat) :
    ∃ projection, blankProjection q bound = .ok projection ∧ Blank projection ∧ Projected projection := by
  obtain ⟨projection, hp, hempty, result, lineage, refs, hparts⟩ := emptyProjection_ok h bound
  rw [blankProjection, serverBinding_of_normalized h, ok_bind, hp, ok_bind]
  exact ⟨_, rfl, hempty.bindProjection _, hparts.projected _⟩

/-- What is disclosed is a projection that a response can be made of. -/
theorem projected_of_disclose {result : QueryResult} {authorized : Bool} {binding : PublicLineage} {projection : Dict}
    (h : disclose result authorized binding = .ok projection) : Projected projection := by
  obtain ⟨q, hq, h⟩ := bind_ok.mp h
  obtain rfl := Except.ok.inj h
  obtain ⟨r, lineage, refs, hparts⟩ := parts_of_projectQueryResult hq
  exact hparts.projected binding

/-- The evidence of a disclosed result. -/
def evidenceList (result : QueryResult) : Val := .list (result.evidence.map fun i => i.publicDict.toVal)

theorem evidence_of_disclose {result : QueryResult} {binding : PublicLineage} {projection : Dict}
    (h : disclose result true binding = .ok projection) (hevidence : result.evidence ≠ []) :
    projection.get "evidence" = evidenceList result := by
  obtain ⟨q, hq, h⟩ := bind_ok.mp h
  obtain rfl := Except.ok.inj h
  rw [get_bindProjection (by simp)]
  rw [projectQueryResult, if_neg (by simpa using hevidence)] at hq
  obtain ⟨structured, hs, hq⟩ := bind_ok.mp hq
  obtain ⟨d, -, hs⟩ := bind_ok.mp hs
  obtain rfl := Except.ok.inj hs
  obtain rfl := Except.ok.inj hq
  simp [Dict.ofItems, Dict.get_insert, evidenceList]

/-- The evidence of a response. -/
def responseEvidence (response : Dict) : Val := (itemDict response "projection").get "evidence"

theorem evidence_of_respond {operation : String} {payload projection response : Dict} (hop : operation ∈ READ_OPERATIONS)
    (hp : Projected projection) (h : respond operation payload projection = .ok response) :
    responseEvidence response = projection.get "evidence" := by
  rw [respond_eq hop hp] at h
  split at h
  · cases h
  · obtain rfl := Except.ok.inj h
    rw [responseEvidence, itemDict_responseOf, Dict.get_insert, if_neg (by decide)]

/-! ## Verdicts -/

section

variable {σ κ ρ γ : Type} [SourceStore σ] [RegistryPort κ] [RatePort ρ] [ReplayPort γ]

/-- Whether the call is authorized: what its evaluation says and, if that has a
binding, what revalidating it says. -/
def verdict (a : RequestAuthorizationService κ ρ γ) (q : QueryRequest) (call : ReadCall) : Except Exc Bool :=
  let (evaluation, after) := a.evaluate q call.authenticationRef (nowOr call.now call.utcAtEvaluation) call.limiterClock
  evaluation >>= fun evaluation =>
    match evaluation.binding with
    | some binding => pyAnd (.ok evaluation.allowed) (after.revalidate q binding (nowOr call.now call.utcAtRevalidation))
    | none => .ok evaluation.allowed

/-- The times at which a call is evaluated and revalidated. -/
def ReadCall.evaluatedAt (call : ReadCall) : String := nowOr call.now call.utcAtEvaluation

def ReadCall.revalidatedAt (call : ReadCall) : String := nowOr call.now call.utcAtRevalidation

theorem verdict_true {a : RequestAuthorizationService κ ρ γ} {q : QueryRequest} {call : ReadCall} :
    verdict a q call = .ok true ↔
      ∃ p b guard, a.Admits q call.authenticationRef call.evaluatedAt call.limiterClock p b guard ∧
        a.revalidate q b call.revalidatedAt = .ok true := by
  constructor
  · intro h
    rcases he : a.evaluate q call.authenticationRef (nowOr call.now call.utcAtEvaluation) call.limiterClock with
      ⟨e | evaluation, after⟩
    · simp only [verdict, he, bind, Except.bind] at h
      cases h
    simp only [verdict, he, ok_bind] at h
    have hallowed : evaluation.allowed = true := by
      rcases hb : evaluation.binding with _ | b <;> simp only [hb, Except.ok.injEq, pyAnd_ok_true] at h
      exacts [h, h.1]
    obtain ⟨p, b, rfl, hadmits⟩ := RequestAuthorizationService.evaluate_allow he hallowed
    rw [RequestAuthorizationService.evaluate_of_admits hadmits] at he
    rw [← (Prod.mk.inj he).2] at h
    exact ⟨p, b, _, hadmits, (pyAnd_ok_true.mp h).2⟩
  · rintro ⟨p, b, guard, hadmits, hrevalidate⟩
    have he := RequestAuthorizationService.evaluate_of_admits hadmits
    rw [ReadCall.evaluatedAt] at he
    simp only [verdict, he, ok_bind]
    exact pyAnd_ok_true.mpr ⟨rfl, hrevalidate⟩

/-- The binding of an evaluation is the one of the request. -/
theorem publicLineage_of_evaluate {a after : RequestAuthorizationService κ ρ γ} {q : QueryRequest} {ref : Option String}
    {current : String} {clock : Rat} {evaluation : AuthorizationEvaluation} {b : RequestAuthorizationBinding}
    (h : a.evaluate q ref current clock = (.ok evaluation, after)) (hb : evaluation.binding = some b) :
    serverBinding q = .ok b.publicLineage := by
  cases hev : evaluation.allowed with
  | false =>
    obtain ⟨reason, rfl⟩ := RequestAuthorizationService.evaluate_deny h hev
    cases hb
  | true =>
    obtain ⟨p, b', rfl, hadmits⟩ := RequestAuthorizationService.evaluate_allow h hev
    obtain rfl := Option.some.inj hb
    have hi := RequestAuthorizationService.buildBinding_issued hadmits.built
    obtain ⟨d, hd, hfingerprint, -⟩ := hi.normalized
    rw [serverBinding, hd, ok_bind, RequestAuthorizationBinding.publicLineage, hfingerprint, hi.scope.2.2]
    rfl

/-- A read whose call has a verdict: retrieval, and what the verdict discloses. -/
theorem handleAuthenticated_of_verdict {r : LocalEvidenceRuntime σ} {a : RequestAuthorizationService κ ρ γ} (call : ReadCall)
    {p : ProjectionRequest} (hp : ProjectionRequest.fromMapping call.raw = .ok p) {authorized : Bool}
    (h : verdict a p.queryRequest call = .ok authorized) :
    ((ReadProjectionService.mk r (some a)).handleAuthenticated call).1 = r.query p.queryRequest >>= fun result =>
      serverBinding p.queryRequest >>= fun binding => disclose result authorized binding := by
  rcases he : a.evaluate p.queryRequest call.authenticationRef (nowOr call.now call.utcAtEvaluation) call.limiterClock with
    ⟨e | evaluation, after⟩
  · simp only [verdict, he, bind, Except.bind] at h
    cases h
  rw [ReadProjectionService.handleAuthenticated_of_evaluation call hp he]
  have hbinding := serverBinding_of_normalized (ProjectionRequest.normalized_of_fromMapping hp)
  simp only [verdict, he, ok_bind] at h
  rcases hb : evaluation.binding with _ | b
  · simp only [hb, Except.ok.injEq] at h
    subst h
    simp only [ReadProjectionService.handleDisclosed, hp, ok_bind, Option.map_none, hbinding]
  · simp only [hb] at h
    have hpublic := publicLineage_of_evaluate he hb
    simp only [ReadProjectionService.handleDisclosed, hp, ok_bind, Option.map_some, hpublic, h]

/-- An authenticated read: what comes before the projection service and after it. -/
theorem execute_eq (r : LocalEvidenceRuntime σ) (a : RequestAuthorizationService κ ρ γ) (operation : String)
    (adapter : Adapter) (call : ReadCall) :
    (ReadOperationService.mk (.mk r (some a))).execute operation adapter none call =
      match stripTransportOperation operation call.raw with
      | .error e => (.error e, ⟨.mk r (some a)⟩)
      | .ok payload =>
        let (projection, after) := (ReadProjectionService.mk r (some a)).handleAuthenticated { call with raw := payload.toVal }
        (projection >>= respond operation payload, ⟨after⟩) := by
  cases adapter <;> rfl

theorem execute_authenticated (r : LocalEvidenceRuntime σ) (a : RequestAuthorizationService κ ρ γ) (operation : String)
    (adapter : Adapter) (call : ReadCall) :
    ((ReadOperationService.mk (.mk r (some a))).execute operation adapter none call).1 =
      stripTransportOperation operation call.raw >>= fun payload =>
        ((ReadProjectionService.mk r (some a)).handleAuthenticated { call with raw := payload.toVal }).1 >>=
          respond operation payload := by
  rw [execute_eq]
  cases stripTransportOperation operation call.raw <;> rfl

/-- What a query does that can be asked: it raises as the store does, or it
has a result. -/
theorem query_of_normalized (r : LocalEvidenceRuntime σ) {q : QueryRequest} (h : q.normalized = .ok q.asDict) :
    ∃ result : List SourceRecord → QueryResult, (∀ sources, (result sources).request = q ∧
        (result sources).context.bound = r.compiler.maxChars) ∧
      r.query q = raiseIf (tokens q.query.toList).isEmpty (valueError "query_has_no_search_tokens") >>= fun _ =>
        SourceStore.listSources r.store (some q.projectConstraint) false >>= fun sources => .ok (result sources) := by
  let evidence := evidenceOf q (tokens q.query.toList)
  refine ⟨fun sources => {
    request := q
    disposition := (r.compiler.compile (evidence sources)).disposition
    coverage := (r.compiler.compile (evidence sources)).coverage
    evidence := (evidence sources).items
    authorizationLineage := (evidence sources).authorizationLineage
    context := r.compiler.compile (evidence sources) }, fun sources => ⟨rfl, rfl⟩, ?_⟩
  simp only [LocalEvidenceRuntime.query, search, h, ok_bind]
  cases (tokens q.query.toList).isEmpty with
  | true => rfl
  | false => rcases SourceStore.listSources r.store (some q.projectConstraint) false with e | sources <;> rfl

/-- A query whose result is disclosed blank. -/
theorem query_blank {r : LocalEvidenceRuntime σ} {q : QueryRequest} (h : q.normalized = .ok q.asDict) {authorized : Bool}
    (hblank : ∀ result, r.query q = .ok result → authorized = false ∨ result.evidence = []) :
    (r.query q >>= fun result => serverBinding q >>= fun binding => disclose result authorized binding) =
      raiseIf (tokens q.query.toList).isEmpty (valueError "query_has_no_search_tokens") >>= fun _ =>
        SourceStore.listSources r.store (some q.projectConstraint) false >>= fun _ => blankProjection q r.compiler.maxChars := by
  obtain ⟨result, hresult, hquery⟩ := query_of_normalized r h
  rw [hquery] at hblank ⊢
  cases htokens : (tokens q.query.toList).isEmpty with
  | true => rfl
  | false =>
    rw [htokens] at hblank
    rcases hlist : SourceStore.listSources r.store (some q.projectConstraint) false with e | sources
    · rfl
    · obtain ⟨hrequest, hbound⟩ := hresult sources
      have hdisclose := disclose_blank (hblank (result sources) (by rw [hlist]; rfl))
      rw [hrequest, hbound] at hdisclose
      exact hdisclose

/-! ## Reads that disclose evidence -/

/-- What the answer to a read that discloses evidence is made of. -/
structure Disclosed (r : LocalEvidenceRuntime σ) (operation : String) (raw : Val) (payload : Dict) (p : ProjectionRequest)
    (result : QueryResult) (projection : Dict) : Prop where
  stripped : stripTransportOperation operation raw = .ok payload
  request : ProjectionRequest.fromMapping payload.toVal = .ok p
  retrieved : r.query p.queryRequest = .ok result
  evidence : result.evidence ≠ []
  disclosed : (serverBinding p.queryRequest >>= fun binding => disclose result true binding) = .ok projection
  cursor : cursorMismatch operation payload projection = false

namespace Disclosed

variable {r : LocalEvidenceRuntime σ} {operation : String} {raw : Val} {payload : Dict} {p : ProjectionRequest}
  {result : QueryResult} {projection : Dict}

theorem projected (h : Disclosed r operation raw payload p result projection) : Projected projection := by
  obtain ⟨binding, -, hprojection⟩ := bind_ok.mp h.disclosed
  exact projected_of_disclose hprojection

/-- The response shows the evidence of the result. -/
theorem responseEvidence (h : Disclosed r operation raw payload p result projection) :
    responseEvidence (responseOf operation projection) = evidenceList result := by
  obtain ⟨binding, -, hprojection⟩ := bind_ok.mp h.disclosed
  rw [Pmiri.responseEvidence, itemDict_responseOf, Dict.get_insert, if_neg (by decide),
    evidence_of_disclose hprojection h.evidence]

/-- An authorized call is answered with it. -/
theorem execute (h : Disclosed r operation raw payload p result projection) {a : RequestAuthorizationService κ ρ γ}
    (call : ReadCall) (hraw : call.raw = raw) (hverdict : verdict a p.queryRequest call = .ok true) (adapter : Adapter) :
    ((ReadOperationService.mk (.mk r (some a))).execute operation adapter none call).1 = .ok (responseOf operation projection) := by
  have hhandle := handleAuthenticated_of_verdict (r := r) { call with raw := payload.toVal } h.request hverdict
  rw [execute_authenticated, hraw, h.stripped, ok_bind, hhandle, h.retrieved, ok_bind, h.disclosed, ok_bind,
    respond_eq (mem_of_stripped h.stripped) h.projected, h.cursor]
  rfl

/-- Evidence that is retrieved can be disclosed. -/
theorem of_query (hpayload : stripTransportOperation operation raw = .ok payload)
    (hp : ProjectionRequest.fromMapping payload.toVal = .ok p) (hresult : r.query p.queryRequest = .ok result)
    (hevidence : result.evidence ≠ []) (hcursor : payload.get "cursor" = .none) :
    ∃ projection, Disclosed r operation raw payload p result projection := by
  have hnormalized := ProjectionRequest.normalized_of_fromMapping hp
  obtain ⟨hrequest, -⟩ := LocalEvidenceRuntime.query_ok hresult
  have hstructured : ∃ structured, result.structured = .ok structured := by
    rw [QueryResult.structured, hrequest, hnormalized]
    exact ⟨_, rfl⟩
  obtain ⟨structured, hstructured⟩ := hstructured
  have hdisclosed : ∃ projection, (serverBinding p.queryRequest >>= fun binding => disclose result true binding) = .ok projection := by
    rw [serverBinding_of_normalized hnormalized, ok_bind, disclose, projectQueryResult, if_neg (by simpa using hevidence),
      hstructured]
    exact ⟨_, rfl⟩
  obtain ⟨projection, hprojection⟩ := hdisclosed
  exact ⟨projection, hpayload, hp, hresult, hevidence, hprojection, by rw [cursorMismatch, hcursor]; rfl⟩

end Disclosed

/-! ## Denied reads -/

/-- The verdict of a read whose request can be read. -/
def Decided (a : RequestAuthorizationService κ ρ γ) (operation : String) (call : ReadCall) (authorized : Bool) : Prop :=
  ∀ payload p, stripTransportOperation operation call.raw = .ok payload → ProjectionRequest.fromMapping payload.toVal = .ok p →
    verdict a p.queryRequest call = .ok authorized

/-- The listing that retrieval asks the store for raises. -/
def RetrievalRaises (store : σ) (operation : String) (raw : Val) (e : Exc) : Prop :=
  ∃ payload p, stripTransportOperation operation raw = .ok payload ∧ ProjectionRequest.fromMapping payload.toVal = .ok p ∧
    (tokens p.query.toList).isEmpty = false ∧ SourceStore.listSources store (some p.projectConstraint) false = .error e

omit [RegistryPort κ] [RatePort ρ] [ReplayPort γ] in
theorem RetrievalRaises.listing {store : σ} {operation : String} {raw : Val} {e : Exc} (h : RetrievalRaises store operation raw e)
    {payload : Dict} (hpayload : stripTransportOperation operation raw = .ok payload) {p : ProjectionRequest}
    (hp : ProjectionRequest.fromMapping payload.toVal = .ok p) :
    (tokens p.query.toList).isEmpty = false ∧ SourceStore.listSources store (some p.projectConstraint) false = .error e := by
  obtain ⟨payload', p', hpayload', hp', h⟩ := h
  obtain rfl := Except.ok.inj (hpayload.symm.trans hpayload')
  obtain rfl := Except.ok.inj (hp.symm.trans hp')
  exact h

/-- Once retrieval is reached, a blank response is not refused, but for a cursor. -/
theorem blankResponse_of_raises {store : σ} {operation : String} {raw : Val} {e : Exc}
    (h : RetrievalRaises store operation raw e) (bound : Nat) :
    (∃ response, blankResponse operation raw bound = .ok response) ∨
      blankResponse operation raw bound = .error (externalReadEmissionError "read_cursor_binding_mismatch") := by
  obtain ⟨payload, p, hpayload, hp, htokens, -⟩ := h
  obtain ⟨projection, hblank, -, hprojected⟩ := blankProjection_ok (ProjectionRequest.normalized_of_fromMapping hp) bound
  have hop := mem_of_stripped hpayload
  simp only [blankResponse, hpayload, ok_bind, hp, htokens, raiseIf, Bool.false_eq_true, ↓reduceIte, hblank, respond_eq hop hprojected]
  split
  · exact .inr rfl
  · exact .inl ⟨_, rfl⟩

/-- What a local store raises is never what a blank response is. -/
theorem blankResponse_ne_of_raises {store : LocalStore} {operation : String} {raw : Val} {e : Exc}
    (h : RetrievalRaises store operation raw e) (bound : Nat) : blankResponse operation raw bound ≠ .error e := by
  obtain ⟨msg, rfl⟩ : ∃ msg, e = valueError msg := by
    obtain ⟨payload, p, -, -, -, hlist⟩ := h
    exact LocalStore.listSources_error hlist
  rcases blankResponse_of_raises h bound with ⟨response, hok⟩ | hmismatch
  · simp [hok]
  · rw [hmismatch]
    simp [valueError, externalReadEmissionError]

/-- A read that is denied is answered as if the store were empty exactly if
retrieval does not raise, or raises what is raised anyway; one that is
authorized and finds nothing always is. -/
theorem denied_read_blank_iff (r : LocalEvidenceRuntime σ) (a : RequestAuthorizationService κ ρ γ) (operation : String)
    (adapter : Adapter) (call : ReadCall) :
    let outcome := ((ReadOperationService.mk (.mk r (some a))).execute operation adapter none call).1
    (Decided a operation call false → (outcome = blankResponse operation call.raw r.compiler.maxChars ↔
      ∀ e, RetrievalRaises r.store operation call.raw e → blankResponse operation call.raw r.compiler.maxChars = .error e)) ∧
    (Decided a operation call true → (∀ payload p, stripTransportOperation operation call.raw = .ok payload →
        ProjectionRequest.fromMapping payload.toVal = .ok p → ∃ result, r.query p.queryRequest = .ok result ∧ result.evidence = []) →
      outcome = blankResponse operation call.raw r.compiler.maxChars) := by
  intro outcome
  simp only [outcome, execute_authenticated, blankResponse]
  rcases hpayload : stripTransportOperation operation call.raw with e | payload
  · exact ⟨fun _ => iff_of_true rfl fun e' h => by simp [RetrievalRaises, hpayload] at h, fun _ _ => rfl⟩
  rcases hp : ProjectionRequest.fromMapping payload.toVal with e | p
  · have hraw : ProjectionRequest.fromMapping (ReadCall.raw { call with raw := payload.toVal }) = .error e := hp
    simp only [ok_bind, ReadProjectionService.handleAuthenticated_of_error _ hraw, hp]
    exact ⟨fun _ => iff_of_true rfl fun e' h => by simp [RetrievalRaises, hpayload, hp] at h, fun _ _ => rfl⟩
  have hnormalized := ProjectionRequest.normalized_of_fromMapping hp
  simp only [ok_bind, hp]
  constructor
  · intro hdenied
    rw [handleAuthenticated_of_verdict { call with raw := payload.toVal } hp (hdenied payload p hpayload hp),
      query_blank hnormalized fun _ _ => .inl rfl]
    simp only [ProjectionRequest.queryRequest_query, ProjectionRequest.queryRequest_projectConstraint]
    cases htokens : (tokens p.query.toList).isEmpty with
    | true =>
      refine iff_of_true rfl fun e h => ?_
      rw [(h.listing hpayload hp).1] at htokens
      cases htokens
    | false =>
      rcases hlist : SourceStore.listSources r.store (some p.projectConstraint) false with e | sources
      · refine ⟨fun h e' he' => ?_, fun h => (h e ⟨payload, p, hpayload, hp, htokens, hlist⟩).symm⟩
        obtain rfl := Except.error.inj (hlist.symm.trans (he'.listing hpayload hp).2)
        exact h.symm
      · refine iff_of_true rfl fun e h => ?_
        cases hlist.symm.trans (h.listing hpayload hp).2
  · intro hauthorized hempty
    obtain ⟨result, hresult, hnone⟩ := hempty payload p rfl hp
    rw [handleAuthenticated_of_verdict { call with raw := payload.toVal } hp (hauthorized payload p hpayload hp),
      query_blank hnormalized fun result' hresult' => .inr (Except.ok.inj (hresult.symm.trans hresult') ▸ hnone)]
    obtain ⟨result', -, hquery⟩ := query_of_normalized r hnormalized
    rw [hquery] at hresult
    obtain ⟨htokens, hresult⟩ := seq_ok.mp hresult
    obtain ⟨sources, hlist, -⟩ := bind_ok.mp hresult
    simp only [ProjectionRequest.queryRequest_query, ProjectionRequest.queryRequest_projectConstraint] at htokens hlist ⊢
    simp only [htokens, hlist, ok_bind]

end

end

/-! ## A read without an authentication -/

def exampleRaw (requestId : String) : Dict :=
  .ofItems [("request_id", .str requestId), ("project_constraint", .str "project"), ("query", .str "query"),
    ("purpose", .str "provider_call")]

def exampleProjection (requestId : String) : ProjectionRequest :=
  ⟨requestId, "project", "query", "provider_call", 20, none, none⟩

theorem exampleRaw_keys (requestId : String) :
    (exampleRaw requestId).keys = ["request_id", "project_constraint", "query", "purpose"] := Dict.keys_ofItems (by simp)

theorem exampleRaw_get (requestId key : String) : (exampleRaw requestId).get? key =
    [("request_id", Val.str requestId), ("project_constraint", .str "project"), ("query", .str "query"),
      ("purpose", .str "provider_call")].lookup key := Dict.get?_ofItems (by simp) key

theorem exampleRaw_stripped (requestId : String) :
    stripTransportOperation "search" (exampleRaw requestId).toVal = .ok (exampleRaw requestId) := by
  have hwithout : (exampleRaw requestId).without "operation" = exampleRaw requestId := by
    refine Dict.filterKeys_self fun k hk => ?_
    rw [exampleRaw_keys] at hk
    revert k
    decide
  have hknown : READ_OPERATIONS.contains "search" = true := by decide
  simp only [stripTransportOperation, hknown, Val.asDict_toVal, Dict.get, exampleRaw_get, hwithout, Bool.not_true, raiseIf,
    Bool.false_eq_true, ↓reduceIte, ok_bind]
  rfl

theorem exampleRaw_read {requestId : String} (h : requestId ≠ "") :
    ProjectionRequest.fromMapping (exampleRaw requestId).toVal = .ok (exampleProjection requestId) := by
  have hn : (exampleProjection requestId).queryRequest.normalized = .ok (exampleQuery requestId).asDict := exampleQuery_normalized h
  have hkeys : (exampleRaw requestId).keysWithin ProjectionRequest.allowedFields = true := by
    rw [Dict.keysWithin, exampleRaw_keys]
    decide
  simp only [ProjectionRequest.fromMapping, Val.asDict_toVal, ProjectionRequest.ofDict, hkeys, Dict.getD, Dict.get, exampleRaw_get,
    Bool.not_true, raiseIf, Bool.false_eq_true, ↓reduceIte, ok_bind]
  exact bind_ok.mpr ⟨(), rfl, bind_ok.mpr ⟨(), rfl, bind_ok.mpr ⟨(), rfl, bind_ok.mpr ⟨_, hn, rfl⟩⟩⟩⟩

/-- The call of a caller that presents no authentication. -/
def exampleReadCall (requestId : String) : ReadCall where
  raw := (exampleRaw requestId).toVal
  utcAtEvaluation := "2026-01-01T00:00:00Z"
  utcAtRevalidation := "2026-01-01T00:00:00Z"
  limiterClock := 0

/-- A local store with a source whose blob is missing. -/
def exampleBroken : LocalStore where
  index := .sources [{
    sourceId := "src_example"
    versionId := "ver_example"
    projectId := "project"
    sourceName := "notes.md"
    contentFingerprint := ""
    captureTime := "2026-01-01T00:00:00Z" }]

/-- It is denied. -/
theorem exampleReadCall_decided [Runtime] : Decided (exampleService 0 ({} : ReplayGuard)) "search" (exampleReadCall "request") false := by
  intro payload p hpayload hp
  obtain rfl := Except.ok.inj ((exampleRaw_stripped "request").symm.trans hpayload)
  obtain rfl := Except.ok.inj ((exampleRaw_read (by decide)).symm.trans hp)
  have hn : (exampleProjection "request").queryRequest.normalized = .ok (exampleQuery "request").asDict :=
    exampleQuery_normalized (by decide)
  have hscreen : (exampleService 0 ({} : ReplayGuard)).screen (exampleProjection "request").queryRequest none
      "2026-01-01T00:00:00Z" = .ok (.error "AUTHENTICATION_UNKNOWN") := by
    rw [RequestAuthorizationService.screen, hn]
    rfl
  have hevaluate : (exampleService 0 ({} : ReplayGuard)).evaluate (exampleProjection "request").queryRequest none
      "2026-01-01T00:00:00Z" 0 = (.ok (.deny "AUTHENTICATION_UNKNOWN"), exampleService 0 ({} : ReplayGuard)) := by
    rw [RequestAuthorizationService.evaluate, hscreen]
  rw [verdict]
  simp only [exampleReadCall, nowOr, hevaluate]
  rfl

theorem exampleTokens [Runtime] : (tokens "query".toList).isEmpty = false := rfl

/-- A local store whose only source is the word of the query. -/
def exampleNotes [Runtime] : LocalStore where
  index := .sources [{
    sourceId := "src_example"
    versionId := "ver_example"
    projectId := "project"
    sourceName := "notes.md"
    contentFingerprint := sha256Bytes "query".toUTF8
    captureTime := "2026-01-01T00:00:00Z" }]
  blobs := [(sha256Bytes "query".toUTF8, "query".toUTF8)]

theorem exampleNotes_listed [Runtime] : ∃ record : SourceRecord, record.content = "query" ∧
    exampleNotes.listSources (some "project") false = .ok [record] := by
  let entry : SourceEntry := {
    sourceId := "src_example"
    versionId := "ver_example"
    projectId := "project"
    sourceName := "notes.md"
    contentFingerprint := sha256Bytes "query".toUTF8
    captureTime := "2026-01-01T00:00:00Z" }
  have hselected : selectVersions SourceEntry.toSourceVersion (some "project") false [entry] = [entry] := rfl
  refine ⟨⟨entry, "query"⟩, rfl, ?_⟩
  rw [LocalStore.listSources, exampleNotes, IndexFile.read, ok_bind, hselected]
  simp only [traverse, LocalStore.recordFromDict, entry, List.lookup_cons_self, fromUTF8?_toUTF8, bne_self_eq_false,
    Bool.false_eq_true, ↓reduceIte]
  rfl

/-- On a store with a source that the query finds, the read is answered as any denied read. -/
theorem denied_read_blank_iff_example :
    letI := asciiRuntime
    ((ReadOperationService.mk (.mk (.mk exampleNotes ⟨4000, by decide⟩) (some (exampleService 0 ({} : ReplayGuard))))).execute
      "search" .api none (exampleReadCall "request")).1 = blankResponse "search" (exampleRaw "request").toVal 4000 := by
  let := asciiRuntime
  refine ((denied_read_blank_iff (.mk exampleNotes ⟨4000, by decide⟩) (exampleService 0 ({} : ReplayGuard)) "search" .api
    (exampleReadCall "request")).1 exampleReadCall_decided).mpr fun e h => ?_
  obtain ⟨record, -, hlisted⟩ := exampleNotes_listed
  cases hlisted.symm.trans (h.listing (exampleRaw_stripped "request") (exampleRaw_read (by decide))).2

/-- The denied read is answered by the store that its listing is of. -/
theorem exampleReadCall_outcome [Runtime] (store : LocalStore) :
    ((ReadOperationService.mk (.mk (.mk store ⟨4000, by decide⟩) (some (exampleService 0 ({} : ReplayGuard))))).execute
      "search" .api none (exampleReadCall "request")).1 =
      SourceStore.listSources store (some (exampleProjection "request").projectConstraint) false >>= fun _ =>
        blankProjection (exampleProjection "request").queryRequest 4000 >>= respond "search" (exampleRaw "request") := by
  have hp := exampleRaw_read (show "request" ≠ "" by decide)
  have htokens : (tokens (exampleProjection "request").queryRequest.query.toList).isEmpty = false := exampleTokens
  have hraw : (exampleReadCall "request").raw = (exampleRaw "request").toVal := rfl
  rw [execute_authenticated, hraw, exampleRaw_stripped, ok_bind,
    handleAuthenticated_of_verdict { exampleReadCall "request" with raw := (exampleRaw "request").toVal } hp
      (exampleReadCall_decided _ _ (exampleRaw_stripped "request") hp),
    query_blank (ProjectionRequest.normalized_of_fromMapping hp) fun _ _ => .inl rfl, htokens,
    ProjectionRequest.queryRequest_projectConstraint]
  rcases SourceStore.listSources store (some (exampleProjection "request").projectConstraint) false with e | sources <;> rfl

/-- A caller that presents no authentication sees whether a blob of the project
is missing. -/
theorem denied_read_reveals :
    letI := asciiRuntime
    let outcome := fun store : LocalStore =>
      ((ReadOperationService.mk (.mk (.mk store ⟨4000, by decide⟩) (some (exampleService 0 ({} : ReplayGuard))))).execute
        "search" .api none (exampleReadCall "request")).1
    Decided (exampleService 0 ({} : ReplayGuard)) "search" (exampleReadCall "request") false ∧
      outcome exampleBroken = .error (valueError "source_blob_missing_or_invalid") ∧ ∃ response, outcome {} = .ok response := by
  let := asciiRuntime
  refine ⟨exampleReadCall_decided, ?_, ?_⟩
  · exact (exampleReadCall_outcome exampleBroken).trans rfl
  · have hp := exampleRaw_read (show "request" ≠ "" by decide)
    obtain ⟨projection, hblank, -, hprojected⟩ := blankProjection_ok (ProjectionRequest.normalized_of_fromMapping hp) 4000
    have hcursor : (exampleRaw "request").get "cursor" = .none := by rw [Dict.get, exampleRaw_get]; rfl
    refine ⟨responseOf "search" projection, (exampleReadCall_outcome {}).trans ?_⟩
    rw [hblank, ok_bind, respond_eq (by decide) hprojected, cursorMismatch, hcursor]
    rfl

/-! ## A read of the principal -/

section

variable [Runtime]

/-- The word is found. -/
theorem exampleEvidence {record : SourceRecord} (h : record.content = "query") (request : QueryRequest)
    (hmax : 0 < request.maxResults) : (evidenceOf request (tokens "query".toList) [record]).items ≠ [] := by
  have htokens : tokens "query".toList = ["query".toList] := rfl
  have hdedup : ["query".toList].dedup = ["query".toList] := by decide
  have hlines : splitlines "query".toList = ["query".toList] := by decide
  have hspans : matchingSpans "query" ["query".toList] = [⟨1, 1, "query", 1⟩] := by
    rw [matchingSpans, hdedup, hlines]
    rfl
  have hfound : ([record].flatMap (sourceEvidence (tokens "query".toList))).length = 1 := by
    rw [List.flatMap_singleton, sourceEvidence, h, htokens, hspans]
    rfl
  have hlength : (evidenceOf request (tokens "query".toList) [record]).items.length = min request.maxResults.toNat 1 := by
    rw [evidenceOf, List.length_take, (Keyed.sortBy_perm _ _).length_eq, hfound]
  intro e
  rw [e, List.length_nil] at hlength
  omega

theorem exampleNotes_query (requestId : String) (h : requestId ≠ "") :
    ∃ result, (LocalEvidenceRuntime.mk exampleNotes ⟨4000, by decide⟩).query (exampleQuery requestId) = .ok result ∧
      result.evidence ≠ [] := by
  obtain ⟨record, hcontent, hlisted⟩ := exampleNotes_listed
  have hsearch : search exampleNotes (exampleQuery requestId) =
      .ok (evidenceOf (exampleQuery requestId) (tokens "query".toList) [record]) := by
    have hquery : (exampleQuery requestId).query = "query" := rfl
    have hproject : (exampleQuery requestId).projectConstraint = "project" := rfl
    have hlisted : SourceStore.listSources exampleNotes (some "project") false = .ok [record] := hlisted
    simp only [search, exampleQuery_normalized h, ok_bind, hquery, exampleTokens, raiseIf, Bool.false_eq_true, ↓reduceIte, hproject,
      hlisted]
    rfl
  rw [LocalEvidenceRuntime.query, hsearch]
  exact ⟨_, rfl, exampleEvidence hcontent _ (show (0 : Int) < 20 by decide)⟩

/-- The call of the registered principal. -/
def exampleAuthorizedCall (requestId : String) : ReadCall :=
  { exampleReadCall requestId with authenticationRef := some "auth://example" }

/-- Its first call is authorized. -/
theorem exampleAuthorizedCall_verdict :
    verdict (exampleService 0 ({} : ReplayGuard)) (exampleQuery "request") (exampleAuthorizedCall "request") = .ok true := by
  obtain ⟨b, guard, hadmits⟩ := exampleEvaluate_admits
  refine verdict_true.mpr ⟨examplePrincipal 0, b, guard, hadmits, ?_⟩
  exact RequestAuthorizationService.revalidate_of_built (p := examplePrincipal 0) hadmits.screened hadmits.built
    (isValid_of_admits hadmits)

/-- It is answered with the evidence. -/
theorem exampleDisclosed : ∃ result projection,
    Disclosed (.mk exampleNotes ⟨4000, by decide⟩) "search" (exampleRaw "request").toVal (exampleRaw "request")
      (exampleProjection "request") result projection := by
  have hid : "request" ≠ "" := by decide
  obtain ⟨result, hresult, hevidence⟩ := exampleNotes_query "request" hid
  exact ⟨result, Disclosed.of_query (exampleRaw_stripped "request") (exampleRaw_read hid) hresult hevidence
    (by rw [Dict.get, exampleRaw_get]; rfl)⟩

end

end Pmiri
