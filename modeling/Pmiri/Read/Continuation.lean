import Pmiri.Read.Revocation

/-!
# Continuations

A read that discloses evidence hands out a cursor, and the cursor is accepted
along with the same request, if the read is authorized again. It is the replay
guard that has seen the request.
-/

namespace Pmiri

open Py

/-! ## The request with its cursor -/

/-- The request with a cursor is stripped as the request is. -/
theorem stripTransportOperation_insert {operation key : String} {d payload : Dict} (value : Val) (hkey : key ≠ "operation")
    (h : stripTransportOperation operation d.toVal = .ok payload) :
    stripTransportOperation operation (d.insert key value).toVal = .ok (payload.insert key value) := by
  simp only [stripTransportOperation, Val.asDict_toVal, seq_ok, raiseIf_ok] at h ⊢
  obtain ⟨hknown, hsame, h⟩ := h
  obtain rfl := Except.ok.inj h
  refine ⟨hknown, ?_, ?_⟩
  · simpa only [differs, Dict.get_insert, if_neg hkey.symm] using hsame
  · rw [Dict.without, Dict.filterKeys_insert_of (by simpa using hkey)]
    rfl

namespace ProjectionRequest

theorem ofDict_insert_cursor {payload : Dict} {p : ProjectionRequest} {cursor : String}
    (hcursor : cursorWellFormed cursor = true) (h : ofDict payload = .ok p) :
    ofDict (payload.insert "cursor" (.str cursor)) = .ok { p with clientCursor := some cursor } := by
  simp only [ofDict, seq_ok, raiseIf_ok] at h
  obtain ⟨hkeys, htypes, hauthorization, -, h⟩ := h
  have hkeys' : (payload.insert "cursor" (.str cursor)).keysWithin allowedFields = true := by
    rw [Bool.not_eq_false', Dict.keysWithin_iff] at hkeys
    refine Dict.keysWithin_iff.mpr fun k hk => ?_
    rcases Dict.mem_keys_insert.mp hk with hk | rfl
    · exact hkeys k hk
    · decide
  split at h
  · rename_i maxResults hmax
    obtain ⟨n, hn, h⟩ := bind_ok.mp h
    obtain ⟨-, h⟩ := seq_ok.mp h
    obtain rfl := Except.ok.inj h
    simp only [ofDict, Dict.getD_insert, Dict.get_insert, String.reduceEq, ↓reduceIte, hmax, seq_ok, raiseIf_ok]
    refine ⟨by simpa using hkeys', htypes, hauthorization, rfl, bind_ok.mpr ⟨n, hn, ?_⟩⟩
    simp [optText, Val.isStr, Val.strText, hcursor, raiseIf, pure, Except.pure]
  · cases h

variable [Runtime]

/-- A cursor that is handed out is well formed. -/
theorem cursorWellFormed_cursor (v : Val) : cursorWellFormed ("cursor_" ++ sha256Json v) = true := by
  have hhex := isSha256_sha256Json v
  have hlength : (sha256Json v).length = 64 := by
    simp only [isSha256, isHex, Bool.and_eq_true, beq_iff_eq] at hhex
    exact hhex.1
  have hlist : ("cursor_" ++ sha256Json v).toList = "cursor_".toList ++ (sha256Json v).toList := String.toList_append
  have hdrop : ("cursor_" ++ sha256Json v).toList.drop 7 = (sha256Json v).toList := by
    rw [hlist]
    exact List.drop_left' rfl
  rw [cursorWellFormed, hdrop, String.ofList_toList, hhex, hlist, String.length_append, hlength]
  simp only [Bool.and_true, Bool.and_eq_true, beq_iff_eq, List.isPrefixOf_iff_prefix]
  exact ⟨rfl, List.prefix_append _ _⟩

end ProjectionRequest

section

variable [Runtime] {σ κ ρ γ : Type} [SourceStore σ] [RegistryPort κ] [RatePort ρ] [ReplayPort γ]

/-! ## Reads that disclose evidence -/

/-- The same request with the cursor of the response has the same answer. -/
theorem Disclosed.continued {r : LocalEvidenceRuntime σ} {operation : String} {d payload : Dict} {p : ProjectionRequest}
    {result : QueryResult} {projection : Dict} (h : Disclosed r operation d.toVal payload p result projection) :
    Disclosed r operation (d.insert "cursor" (.str (cursorOf operation projection))).toVal
      (payload.insert "cursor" (.str (cursorOf operation projection)))
      { p with clientCursor := some (cursorOf operation projection) } result projection where
  stripped := stripTransportOperation_insert _ (by decide) h.stripped
  request := by
    have hp := h.request
    simp only [ProjectionRequest.fromMapping, Val.asDict_toVal] at hp ⊢
    exact ProjectionRequest.ofDict_insert_cursor (ProjectionRequest.cursorWellFormed_cursor _) hp
  retrieved := h.retrieved
  evidence := h.evidence
  disclosed := h.disclosed
  cursor := by simp [cursorMismatch, differs, Val.eq_refl]

theorem verdict_of_handleAuthenticated {r : LocalEvidenceRuntime σ} {a : RequestAuthorizationService κ ρ γ} (call : ReadCall)
    {p : ProjectionRequest} (hp : ProjectionRequest.fromMapping call.raw = .ok p) {projection : Dict}
    (h : ((ReadProjectionService.mk r (some a)).handleAuthenticated call).1 = .ok projection) :
    ∃ authorized, verdict a p.queryRequest call = .ok authorized := by
  rcases he : a.evaluate p.queryRequest call.authenticationRef (nowOr call.now call.utcAtEvaluation) call.limiterClock with
    ⟨e | evaluation, after⟩
  · rw [ReadProjectionService.handleAuthenticated_of_raise call hp he] at h
    cases h
  rw [ReadProjectionService.handleAuthenticated_of_evaluation call hp he] at h
  simp only [ReadProjectionService.handleDisclosed, hp, ok_bind] at h
  simp only [verdict, he, ok_bind]
  rcases hb : evaluation.binding with _ | b
  · exact ⟨_, rfl⟩
  · simp only [hb, Option.map_some] at h
    obtain ⟨result, -, h⟩ := bind_ok.mp h
    obtain ⟨authorized, hauthorized, -⟩ := bind_ok.mp h
    exact ⟨authorized, hauthorized⟩

/-- A read that shows evidence is authorized. -/
theorem disclosed_of_execute {r : LocalEvidenceRuntime σ} {a : RequestAuthorizationService κ ρ γ} {operation : String}
    {adapter : Adapter} {call : ReadCall} {response : Dict}
    (h : ((ReadOperationService.mk (.mk r (some a))).execute operation adapter none call).1 = .ok response)
    (hevidence : responseEvidence response ≠ .list []) :
    ∃ payload p result projection, Disclosed r operation call.raw payload p result projection ∧
      verdict a p.queryRequest call = .ok true ∧ response = responseOf operation projection := by
  rw [execute_authenticated] at h
  obtain ⟨payload, hpayload, h⟩ := bind_ok.mp h
  obtain ⟨projection, hprojection, h⟩ := bind_ok.mp h
  have hop := mem_of_stripped hpayload
  rcases hp : ProjectionRequest.fromMapping payload.toVal with e | p
  · rw [ReadProjectionService.handleAuthenticated_of_error { call with raw := payload.toVal } hp] at hprojection
    cases hprojection
  obtain ⟨authorized, hverdict⟩ :=
    verdict_of_handleAuthenticated { call with raw := payload.toVal } hp hprojection
  rw [handleAuthenticated_of_verdict { call with raw := payload.toVal } hp hverdict] at hprojection
  obtain ⟨result, hresult, hprojection⟩ := bind_ok.mp hprojection
  by_cases hblank : authorized = false ∨ result.evidence = []
  · obtain ⟨hrequest, -⟩ := LocalEvidenceRuntime.query_ok hresult
    have hdisclose := disclose_blank hblank
    rw [hrequest, hprojection] at hdisclose
    obtain ⟨projection', hblank', hempty, hprojected⟩ :=
      blankProjection_ok (ProjectionRequest.normalized_of_fromMapping hp) result.context.bound
    obtain rfl := Except.ok.inj (hdisclose.trans hblank')
    exact absurd ((evidence_of_respond hop hprojected h).trans hempty.evidence) hevidence
  · rw [not_or, Bool.not_eq_false] at hblank
    obtain ⟨rfl, hresultEvidence⟩ := hblank
    obtain ⟨binding, -, hdisclosed⟩ := bind_ok.mp hprojection
    rw [respond_eq hop (projected_of_disclose hdisclosed)] at h
    split at h
    · cases h
    · rename_i hcursor
      exact ⟨payload, p, result, projection, ⟨hpayload, hp, hresult, hresultEvidence, hprojection, by simpa using hcursor⟩, hverdict,
        (Except.ok.inj h).symm⟩

/-! ## The same request again -/

omit [RatePort ρ] [ReplayPort γ] in
/-- A binding that is revalidated is valid, and so is the principal that it is of. -/
theorem revalidated_of_revalidate {a : RequestAuthorizationService κ ρ γ} {q : QueryRequest} {b : RequestAuthorizationBinding}
    {p : AuthenticatedPrincipal} {now : String} (hp : resolve a.registry (some b.authenticationRef) = .ok (some p))
    (h : a.revalidate q b now = .ok true) :
    p.isValid now a.policyEpoch = .ok true ∧ b.isValid now a.policyEpoch = .ok true := by
  rw [RequestAuthorizationService.revalidate, falseOn_true] at h
  obtain ⟨d, -, h⟩ := bind_ok.mp h
  rw [hp, ok_bind] at h
  obtain ⟨⟨hvalid, -⟩, -, -, hbinding⟩ := RequestAuthorizationService.revalidatePrincipal_ok.mp h
  exact ⟨hvalid, hbinding⟩

/-- What can be built for a request at one time can be built at another. -/
theorem buildBinding_at {operation : String} {q : QueryRequest} {p : AuthenticatedPrincipal} {issuedAt : String}
    {b : RequestAuthorizationBinding} (h : RequestAuthorizationService.buildBinding operation q p issuedAt = .ok b)
    (issuedAt' : String) : ∃ b', RequestAuthorizationService.buildBinding operation q p issuedAt' = .ok b' := by
  obtain ⟨d, hd, h⟩ := bind_ok.mp h
  obtain ⟨purpose, hpurpose, h⟩ := bind_ok.mp h
  obtain ⟨hrequested, h⟩ := seq_ok.mp h
  obtain ⟨subject, hsubject, -⟩ := bind_ok.mp h
  simp only [RequestAuthorizationService.buildBinding, hd, hpurpose, hrequested, hsubject, ok_bind]
  exact ⟨_, rfl⟩

omit [Runtime] [SourceStore σ] [RegistryPort κ] [RatePort ρ] [ReplayPort γ] in
theorem requestId_of_stripped {operation : String} {d payload : Dict} {p : ProjectionRequest}
    (hpayload : stripTransportOperation operation d.toVal = .ok payload)
    (hp : ProjectionRequest.fromMapping payload.toVal = .ok p) : p.requestId = (d.get "request_id").strText := by
  simp only [stripTransportOperation, Val.asDict_toVal, seq_ok] at hpayload
  obtain rfl := Except.ok.inj hpayload.2.2
  have hget : (d.without "operation").get "request_id" = d.get "request_id" := by
    rw [Dict.without, Dict.get_filterKeys, if_pos (by decide)]
  simp only [ProjectionRequest.fromMapping, Val.asDict_toVal, ProjectionRequest.ofDict, seq_ok] at hp
  obtain ⟨-, -, -, -, hp⟩ := hp
  split at hp
  · obtain ⟨n, -, hp⟩ := bind_ok.mp hp
    obtain ⟨-, hp⟩ := seq_ok.mp hp
    obtain rfl := Except.ok.inj hp
    rw [hget]
  · cases hp

/-- What an authenticated read leaves behind is what its evaluation does. -/
theorem execute_snd {r : LocalEvidenceRuntime σ} {a : RequestAuthorizationService κ ρ γ} {operation : String} (call : ReadCall)
    {payload : Dict} {p : ProjectionRequest} (hpayload : stripTransportOperation operation call.raw = .ok payload)
    (hp : ProjectionRequest.fromMapping payload.toVal = .ok p) (adapter : Adapter) :
    ((ReadOperationService.mk (.mk r (some a))).execute operation adapter none call).2 =
      ⟨r, some (a.evaluate p.queryRequest call.authenticationRef call.evaluatedAt call.limiterClock).2⟩ := by
  rw [execute_eq, hpayload]
  rcases he : a.evaluate p.queryRequest call.authenticationRef call.evaluatedAt call.limiterClock with ⟨e | evaluation, after⟩
  · simp only [ReadProjectionService.handleAuthenticated_of_raise { call with raw := payload.toVal } hp he]
  · simp only [ReadProjectionService.handleAuthenticated_of_evaluation { call with raw := payload.toVal } hp he]

/-- The same request of the same principal is authorized again exactly if the
attestation of the principal still holds, the clock does not go back and the
guard admits the request id once more. -/
theorem verdict_again_iff [IdGuard γ] {a again : RequestAuthorizationService κ ρ γ} {q : QueryRequest} {call second : ReadCall}
    {p : AuthenticatedPrincipal} (hfirst : verdict a q call = .ok true) (hreference : second.authenticationRef = call.authenticationRef)
    (hp : resolve a.registry call.authenticationRef = .ok (some p)) (hreached : RegistryPort.Reached again.registry)
    (hp' : resolve again.registry call.authenticationRef = .ok (some p)) (hepoch : again.policyEpoch = a.policyEpoch)
    (hoperation : again.operation = a.operation)
    (hinterval : ∀ now ∈ [second.evaluatedAt, second.revalidatedAt], validInterval p.issuedAt p.validUntil now = .ok true)
    (hrate : (RatePort.consume again.rateLimiter (p.principalRef ++ ":" ++ a.operation) second.limiterClock).1 = true) :
    verdict again q second = .ok true ↔
      (∀ now ∈ [second.evaluatedAt, second.revalidatedAt], p.trustZoneAttestation.isValid p.principalRef now = .ok true) ∧
        (∃ t u, parseTime second.evaluatedAt = .ok t ∧ parseTime second.revalidatedAt = .ok u ∧ t ≤ u) ∧
        ReplayPort.Accepts again.replayGuard q.requestId p.validUntil second.evaluatedAt := by
  obtain ⟨p₁, b₁, guard₁, hadmits₁, -⟩ := verdict_true.mp hfirst
  obtain ⟨hnormalized, hp₁, hvalid₁, hscope⟩ := RequestAuthorizationService.screen_ok.mp hadmits₁.screened
  obtain rfl : p = p₁ := Option.some.inj (Except.ok.inj (hp.symm.trans hp₁))
  obtain ⟨hactive, hprincipalEpoch, -⟩ := AuthenticatedPrincipal.isValid_true hvalid₁
  have hcurrent : ∀ now ∈ [second.evaluatedAt, second.revalidatedAt],
      (p.isValid now again.policyEpoch = .ok true ↔ p.trustZoneAttestation.isValid p.principalRef now = .ok true) := by
    intro now hnow
    rw [AuthenticatedPrincipal.isValid, if_pos (by simp [hactive, hepoch, hprincipalEpoch]), hinterval now hnow, pyAnd_ok_true]
    simp
  rw [verdict_true]
  constructor
  · rintro ⟨p₂, b₂, guard₂, hadmits₂, hrevalidate⟩
    obtain ⟨-, hp₂, hvalid₂, -⟩ := RequestAuthorizationService.screen_ok.mp hadmits₂.screened
    rw [hreference] at hp₂
    obtain rfl : p = p₂ := Option.some.inj (Except.ok.inj (hp'.symm.trans hp₂))
    have hi := RequestAuthorizationService.buildBinding_issued hadmits₂.built
    have hbinding : resolve again.registry (some b₂.authenticationRef) = .ok (some p) := by
      rw [hi.principal.1, ← resolve_some hreached hp', hp']
    obtain ⟨hlater, hordered⟩ := revalidated_of_revalidate hbinding hrevalidate
    have hordered := (RequestAuthorizationBinding.isValid_true.mp hordered).2
    rw [hi.validity.1] at hordered
    obtain ⟨t, u, -, ht, hu, -, hle, -⟩ := validInterval_true.mp hordered
    refine ⟨?_, ⟨t, u, ht, hu, hle⟩, b₂.fingerprint, guard₂, hi.validity.2 ▸ hadmits₂.fresh⟩
    intro now hnow
    refine (hcurrent now hnow).mp ?_
    rcases List.mem_pair.mp hnow with rfl | rfl
    exacts [hvalid₂, hlater]
  · rintro ⟨hattested, ⟨t, u, ht, hu, hle⟩, fingerprint, guard, hfresh⟩
    obtain ⟨b₂, hb₂⟩ := buildBinding_at hadmits₁.built second.evaluatedAt
    obtain ⟨guard₂, hfresh⟩ := IdGuard.blind hfresh b₂.fingerprint
    have hi := RequestAuthorizationService.buildBinding_issued hb₂
    rw [← hoperation] at hb₂ hscope
    have hscreen : ∀ now ∈ [second.evaluatedAt, second.revalidatedAt],
        again.screen q call.authenticationRef now = .ok (.ok p) := fun now hnow =>
      RequestAuthorizationService.screen_ok.mpr ⟨hnormalized, hp', (hcurrent now hnow).mpr (hattested now hnow), hscope⟩
    refine ⟨p, b₂, guard₂, ⟨?_, by rwa [hoperation], hb₂, ?_⟩, ?_⟩
    · rw [hreference]
      exact hscreen _ (by simp)
    · rwa [hi.validity.2]
    · refine RequestAuthorizationService.revalidate_of_built (resolve_some hreached hp' ▸ hscreen _ (by simp)) hb₂ ?_
      refine RequestAuthorizationBinding.isValid_true.mpr ⟨?_, ?_⟩
      · rw [hi.principal.2.2.1, hepoch, hprincipalEpoch]
      · obtain ⟨-, u', c, -, hu', hc, -, hlast⟩ := validInterval_true.mp (hinterval second.revalidatedAt (by simp))
        obtain rfl : u = u' := Except.ok.inj (hu.symm.trans hu')
        rw [hi.validity.1, hi.validity.2]
        exact validInterval_true.mpr ⟨t, u, c, ht, hu, hc, hle, hlast⟩

/-- The cursor of a response. -/
def responseCursor (response : Dict) : String := ((itemDict response "projection").get "continuation").strText

omit [SourceStore σ] [RegistryPort κ] [RatePort ρ] [ReplayPort γ] in
theorem responseCursor_responseOf (operation : String) (projection : Dict) :
    responseCursor (responseOf operation projection) = cursorOf operation projection := by
  rw [responseCursor, itemDict_responseOf, Dict.get_insert_self, Val.strText]

/-- The cursor of a response that shows evidence is accepted with the same
request, and shows the same evidence, exactly if the attestation of the
principal still holds, the clock does not go back between the two checks, and
the replay guard admits the request id once more. -/
theorem continuation_accepted_iff [IdGuard γ] (r : LocalEvidenceRuntime σ) (a again : RequestAuthorizationService κ ρ γ)
    (operation : String) (adapter adapter' : Adapter) (call second : ReadCall) (d : Dict) (p : AuthenticatedPrincipal)
    (response : Dict) (hraw : call.raw = d.toVal)
    (hfirst : ((ReadOperationService.mk (.mk r (some a))).execute operation adapter none call).1 = .ok response)
    (hevidence : responseEvidence response ≠ .list [])
    (hsecond : second.raw = (d.insert "cursor" (.str (responseCursor response))).toVal)
    (hreference : second.authenticationRef = call.authenticationRef)
    (hp : resolve a.registry call.authenticationRef = .ok (some p)) (hreached : RegistryPort.Reached again.registry)
    (hp' : resolve again.registry call.authenticationRef = .ok (some p)) (hepoch : again.policyEpoch = a.policyEpoch)
    (hoperation : again.operation = a.operation)
    (hinterval : ∀ now ∈ [second.evaluatedAt, second.revalidatedAt], validInterval p.issuedAt p.validUntil now = .ok true)
    (hrate : (RatePort.consume again.rateLimiter (p.principalRef ++ ":" ++ a.operation) second.limiterClock).1 = true) :
    (∃ response', ((ReadOperationService.mk (.mk r (some again))).execute operation adapter' none second).1 = .ok response' ∧
        responseEvidence response' = responseEvidence response) ↔
      (∀ now ∈ [second.evaluatedAt, second.revalidatedAt], p.trustZoneAttestation.isValid p.principalRef now = .ok true) ∧
        (∃ t u, parseTime second.evaluatedAt = .ok t ∧ parseTime second.revalidatedAt = .ok u ∧ t ≤ u) ∧
        ReplayPort.Accepts again.replayGuard (d.get "request_id").strText p.validUntil second.evaluatedAt := by
  obtain ⟨payload, request, result, projection, hdisclosed, hverdict, rfl⟩ := disclosed_of_execute hfirst hevidence
  rw [hraw] at hdisclosed
  have hrequestId : request.queryRequest.requestId = (d.get "request_id").strText := requestId_of_stripped hdisclosed.stripped hdisclosed.request
  rw [← hrequestId, ← verdict_again_iff hverdict hreference hp hreached hp' hepoch hoperation hinterval hrate]
  rw [responseCursor_responseOf] at hsecond
  have hcontinued := hdisclosed.continued
  rw [← hsecond] at hcontinued
  constructor
  · rintro ⟨response', hresponse', hsame⟩
    obtain ⟨payload', request', result', projection', hdisclosed', hverdict', -⟩ :=
      disclosed_of_execute hresponse' (hsame ▸ hevidence)
    obtain rfl := Except.ok.inj (hcontinued.stripped.symm.trans hdisclosed'.stripped)
    obtain rfl := Except.ok.inj (hcontinued.request.symm.trans hdisclosed'.request)
    exact hverdict'
  · exact fun h => ⟨_, hcontinued.execute second rfl h adapter', rfl⟩

end

section

variable [Runtime]

/-- The second call of the principal, with a cursor. -/
def exampleContinued (cursor : String) : ReadCall :=
  { exampleAuthorizedCall "request" with raw := ((exampleRaw "request").insert "cursor" (.str cursor)).toVal }

omit [Runtime] in
theorem exampleResolves {γ : Type} (guard : γ) : resolve (exampleService 0 guard).registry (some "auth://example") =
    .ok (some (examplePrincipal 0)) := rfl

end

/-- With a guard that has not seen the request, the cursor is accepted. -/
theorem continuation_accepted_iff_example :
    letI := asciiRuntime
    ∃ response, responseEvidence response ≠ .list [] ∧
      ∃ response', ((ReadOperationService.mk (.mk (.mk exampleNotes ⟨4000, by decide⟩) (some (exampleService 0 ({} : ReplayGuard))))).execute
        "search" .mcp none (exampleContinued (responseCursor response))).1 = .ok response' ∧
          responseEvidence response' = responseEvidence response := by
  generalize asciiRuntime = runtime
  obtain ⟨result, projection, hdisclosed⟩ := exampleDisclosed
  have hfirst := hdisclosed.execute (exampleAuthorizedCall "request") rfl exampleAuthorizedCall_verdict .api
  have hevidence : responseEvidence (responseOf "search" projection) ≠ .list [] := by
    rw [hdisclosed.responseEvidence, evidenceList]
    simpa using hdisclosed.evidence
  have hreached : AuthenticationRegistry.Reachable (exampleService 0 ({} : ReplayGuard)).registry :=
    .register .fresh (show AuthenticationRegistry.register ⟨[]⟩ (examplePrincipal 0) = _ from rfl)
  have hinterval : ∀ now ∈ ["2026-01-01T00:00:00Z", "2026-01-01T00:00:00Z"],
      validInterval "2026-01-01T00:00:00Z" "2026-12-31T00:00:00Z" now = .ok true := by
    intro now hnow
    rcases List.mem_pair.mp hnow with rfl | rfl <;> exact validInterval_example
  have hrate := exampleLimiter_admits (show 0 < 60 by decide)
  have hiff := continuation_accepted_iff (.mk exampleNotes ⟨4000, by decide⟩) (exampleService 0 ({} : ReplayGuard))
    (exampleService 0 ({} : ReplayGuard)) "search" .api .mcp (exampleAuthorizedCall "request")
    (exampleContinued (responseCursor (responseOf "search" projection))) (exampleRaw "request") (examplePrincipal 0)
    (responseOf "search" projection) rfl hfirst hevidence rfl rfl (exampleResolves _) hreached (exampleResolves _) rfl rfl
    hinterval hrate
  refine ⟨responseOf "search" projection, hevidence, hiff.mpr ⟨?_, ⟨_, _, parseTime_exampleNow, parseTime_exampleNow, le_rfl⟩, ?_⟩⟩
  · intro now hnow
    exact (if_pos (by decide)).trans (hinterval now hnow)
  · exact ⟨"", _, (ReplayGuard.consume_eq parseTime_exampleNow parseTime_exampleUntil).trans rfl⟩

/-- The cursor of a response is refused to the caller that it was handed to. -/
theorem continuation_refused :
    letI := asciiRuntime
    let service := ReadOperationService.mk (.mk (.mk exampleNotes ⟨4000, by decide⟩) (some (exampleService 0 ({} : ReplayGuard))))
    let first := service.execute "search" .api none (exampleAuthorizedCall "request")
    ∃ response, first.1 = .ok response ∧ responseEvidence response ≠ .list [] ∧
      ¬ ∃ response', (first.2.execute "search" .api none (exampleContinued (responseCursor response))).1 = .ok response' ∧
        responseEvidence response' = responseEvidence response := by
  generalize asciiRuntime = runtime
  intro service first
  obtain ⟨result, projection, hdisclosed⟩ := exampleDisclosed
  have hfirst := hdisclosed.execute (exampleAuthorizedCall "request") rfl exampleAuthorizedCall_verdict .api
  have hevidence : responseEvidence (responseOf "search" projection) ≠ .list [] := by
    rw [hdisclosed.responseEvidence, evidenceList]
    simpa using hdisclosed.evidence
  refine ⟨responseOf "search" projection, hfirst, hevidence, ?_⟩
  rintro ⟨response', hresponse', hsame⟩
  obtain ⟨b, guard, hadmits⟩ := exampleEvaluate_admits
  have huntil : b.validUntil = "2026-12-31T00:00:00Z" := (RequestAuthorizationService.buildBinding_issued hadmits.built).validity.2
  have hguard : guard = ⟨100000, [("request", b.fingerprint, 63934272000000000)], ["request"]⟩ := by
    have hfresh := hadmits.fresh
    rw [huntil] at hfresh
    have hconsumed := (ReplayGuard.consume_eq parseTime_exampleNow parseTime_exampleUntil).symm.trans hfresh
    exact (Prod.mk.inj (Except.ok.inj hconsumed)).2.symm
  have hafter := RequestAuthorizationService.evaluate_of_admits hadmits
  have hsnd : first.2 = ⟨⟨exampleNotes, ⟨4000, by decide⟩⟩, _⟩ :=
    (execute_snd (exampleAuthorizedCall "request") hdisclosed.stripped hdisclosed.request .api).trans
      (congrArg (fun e => ReadOperationService.mk (.mk _ (some (Prod.snd e)))) hafter)
  rw [hsnd] at hresponse'
  obtain ⟨payload', request', result', projection', hdisclosed', hverdict', -⟩ := disclosed_of_execute hresponse' (hsame ▸ hevidence)
  have hcontinued := hdisclosed.continued
  rw [← responseCursor_responseOf] at hcontinued
  obtain rfl := Except.ok.inj (hcontinued.stripped.symm.trans hdisclosed'.stripped)
  obtain rfl := Except.ok.inj (hcontinued.request.symm.trans hdisclosed'.request)
  obtain ⟨p, b', guard', hadmits', -⟩ := verdict_true.mp hverdict'
  obtain ⟨-, hp, -⟩ := RequestAuthorizationService.screen_ok.mp hadmits'.screened
  obtain rfl : examplePrincipal 0 = p := Option.some.inj (Except.ok.inj ((exampleResolves guard).symm.trans hp))
  have hfresh := hadmits'.fresh
  rw [(RequestAuthorizationService.buildBinding_issued hadmits'.built).validity.2] at hfresh
  subst hguard
  have hrefused : (.ok (false, _) : Except Exc (Bool × ReplayGuard)) = .ok (true, guard') :=
    (ReplayGuard.consume_eq parseTime_exampleNow parseTime_exampleUntil).symm.trans hfresh
  cases hrefused

end Pmiri
