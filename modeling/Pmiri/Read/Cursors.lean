import Pmiri.Collisions
import Pmiri.Read.Continuation
import Pmiri.Read.Isolation

/-!
# Cursors

Without an authorization service a cursor is accepted along with any request
that is the same after normalization, by the same operation, for as long as the
same evidence is disclosed for it, and along with no other.
-/

namespace Pmiri

open Py

section

variable [Runtime]

/-! ## What a cursor is hashed from -/

/-- The values that are hashed for a cursor. -/
def cursorValues (operation : String) (q : QueryRequest) (evidenceRefs : Val) : List Val :=
  let requestFingerprint := sha256Json q.asDict.toVal
  let binding := lineageOf requestFingerprint q.projectConstraint
  [q.asDict.toVal,
    (Dict.ofItems [("binding", binding.asDict.toVal), ("evidence", evidenceRefs)]).toVal,
    (Dict.ofItems [
      ("operation", .str operation),
      ("request_fingerprint", .str requestFingerprint),
      ("base_continuation", .str (continuationOf binding evidenceRefs))]).toVal]

/-- The cursor for a request and the evidence that is disclosed for it. -/
def cursorFor (operation : String) (q : QueryRequest) (evidenceRefs : Val) : String :=
  let requestFingerprint := sha256Json q.asDict.toVal
  operationContinuation operation (.str requestFingerprint)
    (continuationOf (lineageOf requestFingerprint q.projectConstraint) evidenceRefs)

theorem printed_cursorValues (operation : String) (q : QueryRequest) (refs : List String) {reads : String → Rat} :
    ∀ v ∈ cursorValues operation q (strList refs), v.Printed reads := by
  simp only [cursorValues, List.forall_mem_cons]
  refine ⟨?_, ?_, ?_, nofun⟩
  · exact Val.printed_ofItems (by simp only [List.forall_mem_cons]; exact ⟨trivial, trivial, trivial, trivial, trivial, nofun⟩)
  · refine Val.printed_ofItems (List.forall_mem_cons.mpr ⟨?_, List.forall_mem_singleton.mpr (Val.printed_strList refs)⟩)
    exact Val.printed_ofItems (by simp only [List.forall_mem_cons]; exact ⟨trivial, trivial, trivial, nofun⟩)
  · exact Val.printed_ofItems (by simp only [List.forall_mem_cons]; exact ⟨trivial, trivial, trivial, nofun⟩)

omit [Runtime] in
/-- The fields of a request can be read off its dictionary. -/
theorem QueryRequest.eq_of_asDict {q q' : QueryRequest} (h : ∀ k, (q.asDict.get k).sortKeys = (q'.asDict.get k).sortKeys) :
    q = q' := by
  have hid := h "request_id"
  have hproject := h "project_constraint"
  have hquery := h "query"
  have hpurpose := h "purpose"
  have hmax := h "max_results"
  obtain ⟨_, _, _, _, _⟩ := q
  obtain ⟨_, _, _, _, _⟩ := q'
  simp only [QueryRequest.asDict, Dict.ofItems, List.foldl_cons, List.foldl_nil, Dict.get_insert, String.reduceEq, ↓reduceIte,
    Val.sortKeys, Val.str.injEq, Val.int.injEq] at hid hproject hquery hpurpose hmax
  rw [hid, hproject, hquery, hpurpose, hmax]

/-- One cursor is for one operation, one request and one list of evidence. -/
theorem cursorFor_inj {operation operation' : String} {q q' : QueryRequest} {refs refs' : List String}
    (hcollide : NoneCollide (cursorValues operation q (strList refs) ++ cursorValues operation' q' (strList refs'))) :
    cursorFor operation q (strList refs) = cursorFor operation' q' (strList refs') ↔
      operation = operation' ∧ q = q' ∧ refs = refs' := by
  refine ⟨fun h => ?_, by rintro ⟨rfl, rfl, rfl⟩; rfl⟩
  have hprinted : ∀ v ∈ cursorValues operation q (strList refs) ++ cursorValues operation' q' (strList refs'),
      v.Printed fun _ => 0 :=
    List.forall_mem_append.mpr ⟨printed_cursorValues operation q refs, printed_cursorValues operation' q' refs'⟩
  have houter := hcollide.get_eq hprinted (by simp [cursorValues]) (by simp [cursorValues]) ((String.append_right_inj _).mp h)
  have hoperation := houter "operation"
  have hrequest := houter "request_fingerprint"
  have hbase := houter "base_continuation"
  simp only [Dict.ofItems, List.foldl_cons, List.foldl_nil, Dict.get_insert, String.reduceEq, ↓reduceIte, Val.sortKeys,
    Val.str.injEq] at hoperation hrequest hbase
  have hinner := hcollide.get_eq hprinted (by simp [cursorValues]) (by simp [cursorValues]) ((String.append_right_inj _).mp hbase)
  have hevidence := hinner "evidence"
  simp only [Dict.ofItems, List.foldl_cons, List.foldl_nil, Dict.get_insert, ↓reduceIte, Val.sortKeys_strList] at hevidence
  have hfields := hcollide.get_eq hprinted (by simp [cursorValues]) (by simp [cursorValues]) hrequest
  refine ⟨hoperation, QueryRequest.eq_of_asDict hfields, ?_⟩
  exact List.map_injective_iff.mpr (fun _ _ h => Val.str.inj h) (Val.list.inj hevidence)

/-! ## Projections -/

/-- The projection is bound to the request and to the evidence that it discloses. -/
structure BoundProjection (q : QueryRequest) (refs : List String) (projection : Dict) : Prop where
  projected : Projected projection
  cursor : ∀ operation, cursorOf operation projection = cursorFor operation q (strList refs)
  evidence : (itemDict projection "lineage").get "evidence_refs" = strList refs

/-- A projection with the lineage and the continuation of a request. -/
theorem Parts.boundProjection {q : QueryRequest} {refs : List String} {bare projection result lineage : Dict}
    (h : Parts bare result lineage refs) (hresult : projection.get "result" = bare.get "result")
    (hlineage : projection.get "lineage" =
      ((itemDict bare "lineage").merge (lineageOf (sha256Json q.asDict.toVal) q.projectConstraint).asDict).toVal)
    (hcontinuation : projection.get "continuation" = .str (continuationOf
      (lineageOf (sha256Json q.asDict.toVal) q.projectConstraint) ((itemDict bare "lineage").get "evidence_refs"))) :
    BoundProjection q refs projection := by
  rw [itemDict_of_get h.lineage, merge_publicLineage] at hlineage
  rw [itemDict_of_get h.lineage, h.evidence] at hcontinuation
  refine ⟨⟨⟨result, hresult.trans h.result⟩, ⟨_, refs.map .str, hlineage, ?_⟩, ⟨_, hcontinuation⟩⟩, fun operation => ?_, ?_⟩
  · simp only [Dict.getD_insert, String.reduceEq, ↓reduceIte, h.getD_evidence]
  · rw [cursorOf, itemDict_of_get hlineage, hcontinuation]
    simp only [Dict.get_insert, String.reduceEq, ↓reduceIte, cursorFor, Val.strText, lineageOf]
  · rw [itemDict_of_get hlineage]
    simpa only [Dict.get_insert, String.reduceEq, ↓reduceIte] using h.evidence

theorem boundProjection_of_disclose {q : QueryRequest} {result : QueryResult} {authorized : Bool} {projection : Dict}
    (h : disclose result authorized (lineageOf (sha256Json q.asDict.toVal) q.projectConstraint) = .ok projection) :
    ∃ refs, BoundProjection q refs projection := by
  obtain ⟨bare, hbare, h⟩ := bind_ok.mp h
  obtain rfl := Except.ok.inj h
  obtain ⟨r, lineage, refs, hparts⟩ := parts_of_projectQueryResult hbare
  refine ⟨refs, hparts.boundProjection (get_bindProjection (by simp)) ?_ ?_⟩
  · rw [bindProjection, Dict.get_insert, if_neg (by decide), Dict.get_insert_self]
  · rw [bindProjection, Dict.get_insert_self]

/-! ## Reads without an authorization service -/

/-- What `handle` or, with a flag, `handle_disclosed` makes of a request. -/
def answerFor {σ : Type} [SourceStore σ] (r : LocalEvidenceRuntime σ) (authorized : Option Bool) (q : QueryRequest) :
    Except Exc Dict := do
  let binding ← serverBinding q
  let result ← r.query q
  match authorized with
  | some authorized => disclose result authorized binding
  | none =>
    let result ← result.structured
    let lineage := itemDict result "lineage"
    return .ofItems [
      ("projection_version", .str PROJECTION_VERSION),
      ("request", result.get "request"),
      ("result", result.get "result"),
      ("evidence", result.get "evidence"),
      ("lineage", (lineage.merge binding.asDict).toVal),
      ("context", result.get "context"),
      ("continuation", .str (continuationOf binding (lineage.get "evidence_refs")))]

theorem boundProjection_of_answerFor {σ : Type} [SourceStore σ] {r : LocalEvidenceRuntime σ} {authorized : Option Bool}
    {q : QueryRequest} (hq : q.normalized = .ok q.asDict) {projection : Dict} (h : answerFor r authorized q = .ok projection) :
    ∃ refs, BoundProjection q refs projection := by
  rw [answerFor, serverBinding_of_normalized hq, ok_bind] at h
  obtain ⟨result, -, h⟩ := bind_ok.mp h
  cases authorized with
  | some authorized => exact boundProjection_of_disclose h
  | none =>
    obtain ⟨structured, hstructured, h⟩ := bind_ok.mp h
    obtain rfl := Except.ok.inj h
    exact ⟨_, (parts_of_structured hstructured).boundProjection (by simp [Dict.ofItems, Dict.get_insert])
      (by simp [Dict.ofItems, Dict.get_insert]) (by simp [Dict.ofItems])⟩

variable {σ κ ρ γ : Type} [SourceStore σ] [RegistryPort κ] [RatePort ρ] [ReplayPort γ]

/-- A read without an authorization service. -/
theorem project_none (r : LocalEvidenceRuntime σ) (adapter : Adapter) (authorized : Option Bool) (call : ReadCall) :
    ((ReadProjectionService.mk r (none : Option (RequestAuthorizationService κ ρ γ))).project adapter authorized call).1 =
      raiseIf call.authenticationRef.isSome (externalReadEmissionError "authorization_service_required") >>= fun _ =>
        ProjectionRequest.fromMapping call.raw >>= fun p => answerFor r authorized p.queryRequest := by
  simp only [ReadProjectionService.project]
  cases call.authenticationRef.isSome with
  | true => rfl
  | false =>
    cases adapter <;> rcases authorized with _ | authorized <;>
      rcases hp : ProjectionRequest.fromMapping call.raw with e | p <;>
      simp [ReadProjectionService.api, ReadProjectionService.mcp, ReadProjectionService.apiDisclosed,
        ReadProjectionService.mcpDisclosed, ReadProjectionService.unauthenticated, ReadProjectionService.disclosed,
        ReadProjectionService.handle, ReadProjectionService.handleDisclosed, answerFor, raiseIf, hp]

theorem execute_none (r : LocalEvidenceRuntime σ) (operation : String) (adapter : Adapter) (authorized : Option Bool)
    (call : ReadCall) :
    ((ReadOperationService.mk (.mk r (none : Option (RequestAuthorizationService κ ρ γ)))).execute operation adapter authorized
      call).1 = stripTransportOperation operation call.raw >>= fun payload =>
        (raiseIf call.authenticationRef.isSome (externalReadEmissionError "authorization_service_required") >>= fun _ =>
          ProjectionRequest.fromMapping payload.toVal >>= fun p => answerFor r authorized p.queryRequest) >>=
            respond operation payload := by
  simp only [ReadOperationService.execute]
  cases stripTransportOperation operation call.raw with
  | error e => rfl
  | ok payload => simp only [project_none, ok_bind]

/-- The request that is read from a transport's request. -/
def requestOf (operation : String) (raw : Val) : Except Exc QueryRequest := do
  let payload ← stripTransportOperation operation raw
  let p ← ProjectionRequest.fromMapping payload.toVal
  return p.queryRequest

/-- The evidence references that a response discloses. -/
def responseEvidenceRefs (response : Dict) : Val := (itemDict (itemDict response "projection") "lineage").get "evidence_refs"

/-- What the answer to a read without an authorization service is made of. -/
structure Answered (r : LocalEvidenceRuntime σ) (authorized : Option Bool) (operation : String) (raw : Val) (payload : Dict)
    (p : ProjectionRequest) (refs : List String) (projection : Dict) : Prop where
  stripped : stripTransportOperation operation raw = .ok payload
  request : ProjectionRequest.fromMapping payload.toVal = .ok p
  answer : answerFor r authorized p.queryRequest = .ok projection
  bound : BoundProjection p.queryRequest refs projection

namespace Answered

variable {r : LocalEvidenceRuntime σ} {authorized : Option Bool} {operation : String} {raw : Val} {payload projection : Dict}
  {p : ProjectionRequest} {refs : List String}

omit [RegistryPort κ] [RatePort ρ] [ReplayPort γ] in
theorem requestOf (h : Answered r authorized operation raw payload p refs projection) :
    requestOf operation raw = .ok p.queryRequest := by
  rw [Pmiri.requestOf, h.stripped, ok_bind, h.request]
  rfl

theorem evidenceRefs (h : Answered r authorized operation raw payload p refs projection) :
    responseEvidenceRefs (responseOf operation projection) = strList refs := by
  rw [responseEvidenceRefs, itemDict_responseOf, ← h.bound.evidence, itemDict, Dict.get_insert, if_neg (by decide), itemDict]

theorem respond (h : Answered r authorized operation raw payload p refs projection) :
    respond operation payload projection =
      if cursorMismatch operation payload projection then .error (externalReadEmissionError "read_cursor_binding_mismatch")
      else .ok (responseOf operation projection) := respond_eq (mem_of_stripped h.stripped) h.bound.projected payload

end Answered

/-- The answer, unless another cursor is presented. -/
theorem Answered.execute {r : LocalEvidenceRuntime σ} {authorized : Option Bool} {operation : String} {call : ReadCall}
    {payload projection : Dict} {p : ProjectionRequest} {refs : List String}
    (h : Answered r authorized operation call.raw payload p refs projection) (hreference : call.authenticationRef = none)
    {adapter : Adapter} :
    ((ReadOperationService.mk (.mk r (none : Option (RequestAuthorizationService κ ρ γ)))).execute operation adapter authorized
      call).1 =
      if cursorMismatch operation payload projection then .error (externalReadEmissionError "read_cursor_binding_mismatch")
      else .ok (responseOf operation projection) := by
  rw [execute_none, h.stripped, ok_bind, hreference, ← h.respond]
  simp only [Option.isSome_none, raiseIf, Bool.false_eq_true, ↓reduceIte, ok_bind, h.request, h.answer]

theorem answered_of_execute {r : LocalEvidenceRuntime σ} {operation : String} {adapter : Adapter} {authorized : Option Bool}
    {call : ReadCall} {response : Dict}
    (h : ((ReadOperationService.mk (.mk r (none : Option (RequestAuthorizationService κ ρ γ)))).execute operation adapter
      authorized call).1 = .ok response) :
    ∃ payload p refs projection, Answered r authorized operation call.raw payload p refs projection ∧
      response = responseOf operation projection := by
  rw [execute_none] at h
  obtain ⟨payload, hpayload, h⟩ := bind_ok.mp h
  obtain ⟨projection, hprojection, h⟩ := bind_ok.mp h
  obtain ⟨-, hprojection⟩ := seq_ok.mp hprojection
  obtain ⟨p, hp, hprojection⟩ := bind_ok.mp hprojection
  obtain ⟨refs, hbound⟩ := boundProjection_of_answerFor (ProjectionRequest.normalized_of_fromMapping hp) hprojection
  have hanswered : Answered r authorized operation call.raw payload p refs projection := ⟨hpayload, hp, hprojection, hbound⟩
  rw [hanswered.respond] at h
  split at h
  · cases h
  · exact ⟨payload, p, refs, projection, hanswered, (Except.ok.inj h).symm⟩

/-! ## The request with a cursor -/

omit [Runtime] [SourceStore σ] [RegistryPort κ] [RatePort ρ] [ReplayPort γ] in
theorem stripTransportOperation_map {operation key : String} {d : Dict} (value : Val) (hkey : key ≠ "operation") :
    stripTransportOperation operation (d.insert key value).toVal =
      (stripTransportOperation operation d.toVal).map (·.insert key value) := by
  have hwithout : (d.insert key value).without "operation" = (d.without "operation").insert key value := by
    rw [Dict.without, Dict.filterKeys_insert_of (by simpa using hkey), Dict.without]
  simp only [stripTransportOperation, Val.asDict_toVal, differs, Dict.get_insert, if_neg hkey.symm, hwithout]
  cases READ_OPERATIONS.contains operation with
  | false => rfl
  | true =>
    generalize (!(d.get "operation").isNone && !(d.get "operation").eq (.str operation)) = substituted
    cases substituted <;> rfl

omit [Runtime] [SourceStore σ] [RegistryPort κ] [RatePort ρ] [ReplayPort γ] in
/-- A well-formed cursor changes nothing but the cursor of the request. -/
theorem fromMapping_insert_cursor {payload : Dict} {cursor : String} (hcursor : ProjectionRequest.cursorWellFormed cursor = true)
    (hnone : payload.get "cursor" = .none) :
    ProjectionRequest.fromMapping (payload.insert "cursor" (.str cursor)).toVal =
      (ProjectionRequest.fromMapping payload.toVal).map fun p => { p with clientCursor := some cursor } := by
  have hkeys : (payload.insert "cursor" (.str cursor)).keysWithin ProjectionRequest.allowedFields =
      payload.keysWithin ProjectionRequest.allowedFields := by
    rw [Bool.eq_iff_iff, Dict.keysWithin_iff, Dict.keysWithin_iff]
    refine ⟨fun h k hk => h k (Dict.mem_keys_insert.mpr (.inl hk)), fun h k hk => ?_⟩
    rcases Dict.mem_keys_insert.mp hk with hk | rfl
    exacts [h k hk, by decide]
  simp only [ProjectionRequest.fromMapping, Val.asDict_toVal, ProjectionRequest.ofDict, hkeys, Dict.getD_insert, Dict.get_insert,
    String.reduceEq, ↓reduceIte, hnone]
  cases payload.keysWithin ProjectionRequest.allowedFields with
  | false => rfl
  | true =>
    generalize [payload.get "request_id", payload.get "project_constraint", payload.get "query",
      payload.getD "purpose" (.str "local_read")].all Val.isStr = typed
    generalize ProjectionRequest.isOptStr (payload.get "authorization_ref") = referenced
    cases typed with
    | false => rfl
    | true =>
      cases referenced with
      | false => rfl
      | true =>
        split
        · simp only [ProjectionRequest.queryRequest, ProjectionRequest.optText, Val.isStr, Val.strText, Option.any_some, hcursor,
            ↓reduceIte, Bool.false_eq_true, Option.any_none, Bool.not_true]
          generalize QueryRequest.normalized _ = normalized
          cases normalized <;> rfl
        · rfl

/-- The request with a cursor is answered as the request is, if the cursor is
the answer's. -/
theorem execute_insert_cursor (r : LocalEvidenceRuntime σ) (operation : String) (adapter : Adapter) (authorized : Option Bool)
    (call : ReadCall) {d : Dict} {cursor : String} (hcursor : ProjectionRequest.cursorWellFormed cursor = true)
    (hnone : d.get "cursor" = .none) :
    let service := ReadOperationService.mk (.mk r (none : Option (RequestAuthorizationService κ ρ γ)))
    (service.execute operation adapter authorized { call with raw := (d.insert "cursor" (.str cursor)).toVal }).1 =
      (service.execute operation adapter authorized { call with raw := d.toVal }).1 >>= fun response =>
        if cursor = responseCursor response then .ok response
        else .error (externalReadEmissionError "read_cursor_binding_mismatch") := by
  simp only [execute_none, stripTransportOperation_map (.str cursor) (show "cursor" ≠ "operation" by decide)]
  rcases hpayload : stripTransportOperation operation d.toVal with e | payload
  · rfl
  have hpayloadCursor : payload.get "cursor" = .none := by
    obtain ⟨-, h⟩ := seq_ok.mp hpayload
    rw [Val.asDict_toVal] at h
    obtain ⟨-, h⟩ := seq_ok.mp h
    obtain rfl := Except.ok.inj h
    rw [Dict.without, Dict.get_filterKeys, if_pos (by decide), hnone]
  simp only [Except.map, ok_bind, fromMapping_insert_cursor hcursor hpayloadCursor]
  cases call.authenticationRef.isSome with
  | true => rfl
  | false =>
    rcases hp : ProjectionRequest.fromMapping payload.toVal with e | p
    · rfl
    rcases hprojection : answerFor r authorized p.queryRequest with e | projection
    · simp only [raiseIf, Bool.false_eq_true, ↓reduceIte, ok_bind, ProjectionRequest.queryRequest] at hprojection ⊢
      rw [hprojection]
      rfl
    obtain ⟨refs, hbound⟩ := boundProjection_of_answerFor (ProjectionRequest.normalized_of_fromMapping hp) hprojection
    have hanswered : Answered r authorized operation d.toVal payload p refs projection := ⟨hpayload, hp, hprojection, hbound⟩
    have hcontinued := respond_eq (mem_of_stripped hpayload) hbound.projected (payload.insert "cursor" (.str cursor))
    have halone : cursorMismatch operation payload projection = false := by simp [cursorMismatch, hpayloadCursor, Val.isNone]
    simp only [raiseIf, Bool.false_eq_true, ↓reduceIte, ok_bind, ProjectionRequest.queryRequest] at hprojection ⊢
    rw [hprojection, ok_bind, ok_bind, hcontinued, hanswered.respond, halone, if_neg Bool.false_ne_true, ok_bind,
      responseCursor_responseOf]
    simp only [cursorMismatch, Dict.get_insert_self, Val.isNone, differs, Val.str_eq_str, Bool.not_false, Bool.true_and,
      Bool.not_eq_true', beq_eq_false_iff_ne]
    by_cases h : cursor = cursorOf operation projection
    · rw [if_neg (not_not.mpr h), if_pos h]
    · rw [if_pos h, if_neg h]

/-- What the cursor of a response is hashed from. -/
def cursorInputs (operation : String) (raw : Val) (response : Dict) : List Val :=
  match requestOf operation raw with
  | .ok q => cursorValues operation q (responseEvidenceRefs response)
  | .error _ => []

/-- The request as it is fingerprinted. -/
def normalizedRequest (operation : String) (raw : Val) : Except Exc Dict := requestOf operation raw >>= QueryRequest.normalized

omit [RegistryPort κ] [RatePort ρ] [ReplayPort γ] in
theorem Answered.normalizedRequest {r : LocalEvidenceRuntime σ} {authorized : Option Bool} {operation : String} {raw : Val}
    {payload projection : Dict} {p : ProjectionRequest} {refs : List String}
    (h : Answered r authorized operation raw payload p refs projection) :
    normalizedRequest operation raw = .ok p.queryRequest.asDict := by
  rw [Pmiri.normalizedRequest, h.requestOf, ok_bind, ProjectionRequest.normalized_of_fromMapping h.request]

theorem Answered.cursorInputs {r : LocalEvidenceRuntime σ} {authorized : Option Bool} {operation : String} {raw : Val}
    {payload projection : Dict} {p : ProjectionRequest} {refs : List String}
    (h : Answered r authorized operation raw payload p refs projection) :
    cursorInputs operation raw (responseOf operation projection) = cursorValues operation p.queryRequest (strList refs) := by
  rw [Pmiri.cursorInputs, h.requestOf, h.evidenceRefs]

omit [SourceStore σ] [RegistryPort κ] [RatePort ρ] [ReplayPort γ] in
theorem responseCursor_wellFormed (operation : String) (projection : Dict) :
    ProjectionRequest.cursorWellFormed (responseCursor (responseOf operation projection)) = true := by
  rw [responseCursor_responseOf]
  exact ProjectionRequest.cursorWellFormed_cursor _

end

section

variable [Runtime] {σ σ' κ ρ γ : Type} [ProjectStore σ] [ProjectStore σ'] [RegistryPort κ] [RatePort ρ] [ReplayPort γ]

/-- A cursor that is handed out without an authorization service is accepted
along with another request, on any store, exactly if the operation, the
normalized request and the evidence references that are disclosed are the same.
What stores hold of other projects does not matter. -/
theorem cursor_accepted_iff (r : LocalEvidenceRuntime σ) (r' : LocalEvidenceRuntime σ') (operation operation' : String)
    (adapter adapter' : Adapter) (authorized authorized' : Option Bool) (call call' : ReadCall) (d d' : Dict)
    (hnone : d'.get "cursor" = .none) (response : Dict)
    (hfirst : ((ReadOperationService.mk (.mk r (none : Option (RequestAuthorizationService κ ρ γ)))).execute operation adapter
      authorized { call with raw := d.toVal }).1 = .ok response) :
    let read := fun raw : Dict => ((ReadOperationService.mk (.mk r' (none : Option (RequestAuthorizationService κ ρ γ)))).execute
      operation' adapter' authorized' { call' with raw := raw.toVal }).1
    let continued := read (d'.insert "cursor" (.str (responseCursor response)))
    (∀ e, read d' = .error e → continued = .error e) ∧
    (∀ response', read d' = .ok response' →
      NoneCollide (cursorInputs operation d.toVal response ++ cursorInputs operation' d'.toVal response') →
      (continued = .ok response' ∨ continued = .error (externalReadEmissionError "read_cursor_binding_mismatch")) ∧
      (continued = .ok response' ↔ operation = operation' ∧
        normalizedRequest operation d.toVal = normalizedRequest operation' d'.toVal ∧
        responseEvidenceRefs response = responseEvidenceRefs response')) ∧
    ∀ project recs, r.compiler = r'.compiler → ProjectStore.HoldsFor r.store project recs →
      ProjectStore.HoldsFor r'.store project recs → ScopedTo d.toVal project → d.get "cursor" = .none →
      ((ReadOperationService.mk (.mk r' (none : Option (RequestAuthorizationService κ ρ γ)))).execute operation adapter authorized
        { call with raw := (d.insert "cursor" (.str (responseCursor response))).toVal }).1 = .ok response := by
  intro read continued
  obtain ⟨payload, p, refs, projection, hanswered, rfl⟩ := answered_of_execute hfirst
  have hcontinued : continued = read d' >>= fun response' => if responseCursor (responseOf operation projection) =
      responseCursor response' then .ok response' else .error (externalReadEmissionError "read_cursor_binding_mismatch") :=
    execute_insert_cursor r' operation' adapter' authorized' call' (responseCursor_wellFormed ..) hnone
  refine ⟨fun e he => ?_, fun response' hresponse' hcollide => ?_, fun project recs hcompiler hholds hholds' hscoped hcursor => ?_⟩
  · rw [hcontinued, he]
    rfl
  · rw [hresponse', ok_bind] at hcontinued
    obtain ⟨payload', p', refs', projection', hanswered', rfl⟩ := answered_of_execute hresponse'
    rw [responseCursor_responseOf, responseCursor_responseOf, hanswered.bound.cursor, hanswered'.bound.cursor] at hcontinued
    rw [hanswered.cursorInputs, hanswered'.cursorInputs] at hcollide
    have hsame : continued = .ok (responseOf operation' projection') ↔ cursorFor operation p.queryRequest (strList refs) =
        cursorFor operation' p'.queryRequest (strList refs') := by
      rw [hcontinued]
      split <;> simp_all
    refine ⟨by rw [hcontinued]; split <;> simp, ?_⟩
    rw [hsame, cursorFor_inj hcollide, hanswered.normalizedRequest, hanswered'.normalizedRequest, hanswered.evidenceRefs,
      hanswered'.evidenceRefs, Except.ok.injEq]
    have hq : p.queryRequest = p'.queryRequest ↔ p.queryRequest.asDict = p'.queryRequest.asDict :=
      ⟨congrArg _, fun h => QueryRequest.eq_of_asDict fun k => by rw [h]⟩
    have hrefs : refs = refs' ↔ strList refs = strList refs' :=
      ⟨congrArg _, fun h => List.map_injective_iff.mpr (fun _ _ h => Val.str.inj h) (Val.list.inj h)⟩
    rw [hq, hrefs]
  · rw [execute_insert_cursor r' operation adapter authorized call (responseCursor_wellFormed ..) hcursor]
    obtain ⟨-, -, hexecute⟩ := project_isolation r r' hcompiler project recs hholds hholds'
      (none : Option (RequestAuthorizationService κ ρ γ))
    rw [← (hexecute operation adapter authorized { call with raw := d.toVal } hscoped).1, hfirst, ok_bind, if_pos rfl]

end

section

variable [Runtime]

/-- A read of the stores that hold the same of the project. -/
theorem exampleLocalStore_read :
    ∃ response, ((ReadOperationService.mk (.mk (.mk exampleLocalStore ⟨4000, by decide⟩) (none : Option
      (RequestAuthorizationService AuthenticationRegistry FixedWindowRateLimiter ReplayGuard)))).execute "search" .api none
        { exampleReadCall "request" with raw := (exampleRaw "request").toVal }).1 = .ok response := by
  have hlisted : SourceStore.listSources exampleLocalStore (some "project") false = _ :=
    ProjectStore.listSources_of_holdsFor exampleLocalStore_holdsFor false
  have hnormalized : (exampleQuery "request").normalized = .ok (exampleQuery "request").asDict := exampleQuery_normalized (by decide)
  have hquery : ∃ result, (LocalEvidenceRuntime.mk exampleLocalStore ⟨4000, by decide⟩).query (exampleQuery "request") = .ok result ∧
      result.request = exampleQuery "request" := by
    have hsearch := search_ok.mpr ⟨⟨_, hnormalized⟩, List.cons_ne_nil _ _, _, hlisted, rfl⟩
    rw [LocalEvidenceRuntime.query, hsearch]
    exact ⟨_, rfl, rfl⟩
  obtain ⟨result, hresult, hrequest⟩ := hquery
  obtain ⟨projection, hprojection⟩ : ∃ projection, answerFor (.mk exampleLocalStore ⟨4000, by decide⟩) none (exampleQuery "request") =
      .ok projection := by
    rw [answerFor, serverBinding_of_normalized hnormalized, ok_bind, hresult, ok_bind, QueryResult.structured, hrequest, hnormalized]
    exact ⟨_, rfl⟩
  obtain ⟨refs, hbound⟩ := boundProjection_of_answerFor hnormalized hprojection
  have hanswered : Answered (.mk exampleLocalStore ⟨4000, by decide⟩) none "search" (exampleRaw "request").toVal
      (exampleRaw "request") (exampleProjection "request") refs projection :=
    ⟨exampleRaw_stripped "request", exampleRaw_read (by decide), hprojection, hbound⟩
  have hcursor : cursorMismatch "search" (exampleRaw "request") projection = false := by
    rw [cursorMismatch, Dict.get, exampleRaw_get]
    rfl
  have hcall : Answered (.mk exampleLocalStore ⟨4000, by decide⟩) none "search"
      ({ exampleReadCall "request" with raw := (exampleRaw "request").toVal } : ReadCall).raw (exampleRaw "request")
      (exampleProjection "request") refs projection := hanswered
  exact ⟨responseOf "search" projection, (hcall.execute rfl).trans (if_neg (by rw [hcursor]; decide))⟩

end

/-- The other store accepts the cursor, and answers alike. -/
theorem cursor_accepted_iff_example :
    letI := asciiRuntime
    ∃ response, ((ReadOperationService.mk (.mk (.mk exampleSQLiteStore ⟨4000, by decide⟩) (none : Option
      (RequestAuthorizationService AuthenticationRegistry FixedWindowRateLimiter ReplayGuard)))).execute "search" .api none
        { exampleReadCall "request" with
          raw := ((exampleRaw "request").insert "cursor" (.str (responseCursor response))).toVal }).1 = .ok response := by
  let := asciiRuntime
  obtain ⟨response, hresponse⟩ := exampleLocalStore_read
  have hcursor : (exampleRaw "request").get "cursor" = .none := by
    rw [Dict.get, exampleRaw_get]
    rfl
  have hscoped : ScopedTo (exampleRaw "request").toVal "project" := by
    intro d hd
    rw [Val.asDict_toVal] at hd
    rw [← Option.some.inj hd, Dict.get, exampleRaw_get]
    rfl
  obtain ⟨-, -, hsame⟩ := cursor_accepted_iff (.mk exampleLocalStore ⟨4000, by decide⟩) (.mk exampleSQLiteStore ⟨4000, by decide⟩)
    "search" "search" .api .api none none (exampleReadCall "request") (exampleReadCall "request") (exampleRaw "request")
    (exampleRaw "request") hcursor response hresponse
  exact ⟨response, hsame "project" _ rfl exampleLocalStore_holdsFor exampleSQLiteStore_holdsFor hscoped hcursor⟩

end Pmiri
