import Pmiri.Interleaving
import Pmiri.Read.Disclosure

/-!
# Reads under revocation

An authenticated read in its steps: it is evaluated, it retrieves, it is
revalidated, it is projected. Between two of them anyone may revoke or register
principals, change the policy epoch or the store, and take steps of other
reads. What is disclosed was backed when it was revalidated.
-/

namespace Pmiri

open Py

/-- What reads share: the store, and the service with its registry, its epoch,
its limiter and its guard. -/
structure ReadEnvironment (σ κ ρ γ : Type) where
  store : σ
  authorization : RequestAuthorizationService κ ρ γ

/-- A read whose request has been evaluated. -/
structure EvaluatedRead where
  payload : Dict
  request : ProjectionRequest
  evaluation : AuthorizationEvaluation

/-- How far a read has come. -/
inductive ReadPhase
  | called
  | evaluated (read : EvaluatedRead)
  | retrieved (read : EvaluatedRead) (result : QueryResult)
  | revalidated (read : EvaluatedRead) (result : QueryResult) (authorized : Bool)
  | answered (outcome : Except Exc Dict)

structure ReadTask where
  operation : String
  call : ReadCall
  phase : ReadPhase := .called

def ReadTask.fresh (c : String × ReadCall) : ReadTask := ⟨c.1, c.2, .called⟩

section

variable [Runtime] {σ κ ρ γ : Type} [SourceStore σ] [RegistryPort κ] [RatePort ρ] [ReplayPort γ]

namespace ReadTask

/-- What revalidation says of the read. -/
def authorized (t : ReadTask) (authorization : RequestAuthorizationService κ ρ γ) (read : EvaluatedRead) : Except Exc Bool :=
  match read.evaluation.binding with
  | some binding =>
    pyAnd (.ok read.evaluation.allowed)
      (authorization.revalidate read.request.queryRequest binding (nowOr t.call.now t.call.utcAtRevalidation))
  | none => .ok read.evaluation.allowed

omit [SourceStore σ] [RegistryPort κ] [RatePort ρ] [ReplayPort γ] in
/-- The response to the read. -/
def response (t : ReadTask) (read : EvaluatedRead) (result : QueryResult) (authorized : Bool) : Except Exc Dict := do
  let binding ← match read.evaluation.binding.map (·.publicLineage) with
    | some binding => .ok binding
    | none => serverBinding read.request.queryRequest
  let projection ← disclose result authorized binding
  respond t.operation read.payload projection

/-- The phase after the next step, and the service that it leaves behind. -/
def next (compiler : ContextCompiler) (t : ReadTask) (env : ReadEnvironment σ κ ρ γ) :
    ReadPhase → ReadPhase × RequestAuthorizationService κ ρ γ
  | .called =>
    match stripTransportOperation t.operation t.call.raw with
    | .error e => (.answered (.error e), env.authorization)
    | .ok payload =>
      match ProjectionRequest.fromMapping payload.toVal with
      | .error e => (.answered (.error e), env.authorization)
      | .ok request =>
        let (evaluation, authorization) := env.authorization.evaluate request.queryRequest t.call.authenticationRef
          (nowOr t.call.now t.call.utcAtEvaluation) t.call.limiterClock
        match evaluation with
        | .error e => (.answered (.error e), authorization)
        | .ok evaluation => (.evaluated ⟨payload, request, evaluation⟩, authorization)
  | .evaluated read =>
    match (LocalEvidenceRuntime.mk env.store compiler).query read.request.queryRequest with
    | .error e => (.answered (.error e), env.authorization)
    | .ok result => (.retrieved read result, env.authorization)
  | .retrieved read result =>
    match t.authorized env.authorization read with
    | .error e => (.answered (.error e), env.authorization)
    | .ok authorized => (.revalidated read result authorized, env.authorization)
  | .revalidated read result authorized => (.answered (t.response read result authorized), env.authorization)
  | .answered outcome => (.answered outcome, env.authorization)

def proceed (compiler : ContextCompiler) (env : ReadEnvironment σ κ ρ γ) (_ : Unit) (t : ReadTask) :
    ReadEnvironment σ κ ρ γ × ReadTask :=
  let (phase, authorization) := t.next compiler env t.phase
  ({ env with authorization }, { t with phase })

end ReadTask

/-- Reads over an environment that others act on. -/
def Reads.step (compiler : ContextCompiler) {ι : Type} (act : ReadEnvironment σ κ ρ γ → ι → ReadEnvironment σ κ ρ γ) :
    Interleaving.State (ReadEnvironment σ κ ρ γ) ReadTask → Interleaving.Op (String × ReadCall) ι Unit →
      Interleaving.State (ReadEnvironment σ κ ρ γ) ReadTask :=
  Interleaving.step ReadTask.fresh act (ReadTask.proceed compiler)

/-! ## What is disclosed -/

/-- The response carries evidence, context text, or another disposition than `EMPTY`. -/
def Discloses (response : Dict) : Prop :=
  let projection := itemDict response "projection"
  projection.get "evidence" ≠ .list [] ∨ (itemDict projection "context").get "text" ≠ .str "" ∨
    (itemDict projection "result").get "disposition" ≠ .str "EMPTY"

theorem not_discloses_blank {operation : String} {raw : Val} {bound : Nat} {response : Dict}
    (h : blankResponse operation raw bound = .ok response) : ¬ Discloses response := by
  obtain ⟨payload, hpayload, h⟩ := bind_ok.mp h
  obtain ⟨p, hp, h⟩ := bind_ok.mp h
  obtain ⟨-, h⟩ := seq_ok.mp h
  obtain ⟨projection, hblank, hempty, hprojected⟩ := blankProjection_ok (ProjectionRequest.normalized_of_fromMapping hp) bound
  rw [hblank, ok_bind, respond_eq (mem_of_stripped hpayload) hprojected] at h
  split at h
  · cases h
  · obtain rfl := Except.ok.inj h
    rw [Discloses, itemDict_responseOf]
    simp only [itemDict, Dict.get_insert, String.reduceEq, ↓reduceIte]
    have htext := hempty.text
    have hdisposition := hempty.disposition
    rw [itemDict] at htext hdisposition
    simp [hempty.evidence, htext, hdisposition]

/-! ## What a read has been through -/

/-- The read is of the call, and its evaluation has the binding of the request. -/
structure EvaluatedRead.Of (read : EvaluatedRead) (operation : String) (call : ReadCall) : Prop where
  payload : stripTransportOperation operation call.raw = .ok read.payload
  request : ProjectionRequest.fromMapping read.payload.toVal = .ok read.request
  lineage : ∀ b, read.evaluation.binding = some b → serverBinding read.request.queryRequest = .ok b.publicLineage
  allowed : read.evaluation.allowed = true → ∃ b, read.evaluation.binding = some b

/-- The result is one for the request. -/
structure EvaluatedRead.Retrieves (read : EvaluatedRead) (compiler : ContextCompiler) (result : QueryResult) : Prop where
  request : result.request = read.request.queryRequest
  bound : result.context.bound = compiler.maxChars
  tokens : (tokens read.request.query.toList).isEmpty = false

namespace ReadTask

def Consistent (compiler : ContextCompiler) (t : ReadTask) : Prop :=
  match t.phase with
  | .called => True
  | .evaluated read => read.Of t.operation t.call
  | .retrieved read result | .revalidated read result _ => read.Of t.operation t.call ∧ read.Retrieves compiler result
  | .answered outcome => ∀ response, outcome = .ok response →
      outcome = blankResponse t.operation t.call.raw compiler.maxChars ∨ Discloses response

theorem of_evaluate {t : ReadTask} {a after : RequestAuthorizationService κ ρ γ} {payload : Dict} {request : ProjectionRequest}
    {evaluation : AuthorizationEvaluation} (hpayload : stripTransportOperation t.operation t.call.raw = .ok payload)
    (hrequest : ProjectionRequest.fromMapping payload.toVal = .ok request)
    (h : a.evaluate request.queryRequest t.call.authenticationRef (nowOr t.call.now t.call.utcAtEvaluation)
      t.call.limiterClock = (.ok evaluation, after)) : (EvaluatedRead.mk payload request evaluation).Of t.operation t.call := by
  refine ⟨hpayload, hrequest, fun b hb => publicLineage_of_evaluate h hb, fun hallowed => ?_⟩
  obtain ⟨p, b, rfl, -⟩ := RequestAuthorizationService.evaluate_allow h hallowed
  exact ⟨b, rfl⟩

theorem retrieves_of_query {r : LocalEvidenceRuntime σ} {read : EvaluatedRead} {result : QueryResult} {operation : String}
    {call : ReadCall} (hread : read.Of operation call) (h : r.query read.request.queryRequest = .ok result) :
    read.Retrieves r.compiler result := by
  obtain ⟨result', hresult, hquery⟩ := query_of_normalized r (ProjectionRequest.normalized_of_fromMapping hread.request)
  rw [hquery] at h
  obtain ⟨htokens, h⟩ := seq_ok.mp h
  obtain ⟨sources, -, h⟩ := bind_ok.mp h
  obtain rfl := Except.ok.inj h
  exact ⟨(hresult sources).1, (hresult sources).2, raiseIf_ok.mp htokens⟩

/-- What a step does to a phase. -/
inductive Moves (compiler : ContextCompiler) (env : ReadEnvironment σ κ ρ γ) (t : ReadTask) : ReadPhase → ReadPhase → Prop
  | refused {phase : ReadPhase} {e : Exc} : Moves compiler env t phase (.answered (.error e))
  | evaluated {read : EvaluatedRead} (h : read.Of t.operation t.call) : Moves compiler env t .called (.evaluated read)
  | retrieved {read : EvaluatedRead} {result : QueryResult}
      (h : (LocalEvidenceRuntime.mk env.store compiler).query read.request.queryRequest = .ok result) :
      Moves compiler env t (.evaluated read) (.retrieved read result)
  | revalidated {read : EvaluatedRead} {result : QueryResult} {authorized : Bool}
      (h : t.authorized env.authorization read = .ok authorized) :
      Moves compiler env t (.retrieved read result) (.revalidated read result authorized)
  | responded {read : EvaluatedRead} {result : QueryResult} {authorized : Bool} :
      Moves compiler env t (.revalidated read result authorized) (.answered (t.response read result authorized))
  | answered {outcome : Except Exc Dict} : Moves compiler env t (.answered outcome) (.answered outcome)

theorem moves_next (compiler : ContextCompiler) (env : ReadEnvironment σ κ ρ γ) (t : ReadTask) (phase : ReadPhase) :
    Moves compiler env t phase (t.next compiler env phase).1 := by
  cases phase with
  | called =>
    simp only [next]
    split
    · exact .refused
    · rename_i payload hpayload
      split
      · exact .refused
      · rename_i request hrequest
        split
        · exact .refused
        · rename_i evaluation hevaluation
          exact .evaluated (of_evaluate hpayload hrequest (Prod.ext hevaluation rfl))
  | evaluated read =>
    simp only [next]
    split
    · exact .refused
    · rename_i result hquery
      exact .retrieved hquery
  | retrieved read result =>
    simp only [next]
    split
    · exact .refused
    · rename_i authorized hauthorized
      exact .revalidated hauthorized
  | revalidated read result authorized => exact .responded
  | answered outcome => exact .answered

/-- Without an authorization, or without evidence, the response carries nothing
of the result. -/
theorem response_blank {compiler : ContextCompiler} {t : ReadTask} {read : EvaluatedRead} {result : QueryResult}
    (hread : read.Of t.operation t.call) (hresult : read.Retrieves compiler result) {authorized : Bool}
    (h : authorized = false ∨ result.evidence = []) :
    t.response read result authorized = blankResponse t.operation t.call.raw compiler.maxChars := by
  have hblank := disclose_blank h
  rw [hresult.request, hresult.bound] at hblank
  simp only [blankResponse, hread.payload, hread.request, ok_bind, hresult.tokens, raiseIf, Bool.false_eq_true, ↓reduceIte,
    ← hblank]
  rcases hb : read.evaluation.binding with _ | b
  · simp only [ReadTask.response, hb, Option.map_none]
    cases serverBinding read.request.queryRequest <;> rfl
  · simp only [ReadTask.response, hb, Option.map_some, hread.lineage b hb, ok_bind]

theorem response_discloses {t : ReadTask} {read : EvaluatedRead} {result : QueryResult} {response : Dict}
    (hop : t.operation ∈ READ_OPERATIONS) (h : t.response read result true = .ok response) (hevidence : result.evidence ≠ []) :
    Discloses response := by
  have hshown : ∀ binding projection, disclose result true binding = .ok projection →
      respond t.operation read.payload projection = .ok response → Discloses response := by
    intro binding projection hprojection hresponse
    refine .inl ?_
    have h := evidence_of_respond hop (projected_of_disclose hprojection) hresponse
    rw [evidence_of_disclose hprojection hevidence, responseEvidence] at h
    simpa [h, evidenceList] using hevidence
  rcases hb : read.evaluation.binding with _ | b
  · simp only [ReadTask.response, hb, Option.map_none] at h
    obtain ⟨binding, -, h⟩ := bind_ok.mp h
    obtain ⟨projection, hprojection, h⟩ := bind_ok.mp h
    exact hshown binding projection hprojection h
  · simp only [ReadTask.response, hb, Option.map_some] at h
    obtain ⟨binding, -, h⟩ := bind_ok.mp h
    obtain ⟨projection, hprojection, h⟩ := bind_ok.mp h
    exact hshown binding projection hprojection h

theorem Consistent.proceed {compiler : ContextCompiler} {t : ReadTask} (h : t.Consistent compiler)
    (env : ReadEnvironment σ κ ρ γ) : (ReadTask.proceed compiler env () t).2.Consistent compiler := by
  have hmoves := moves_next compiler env t t.phase
  simp only [Consistent, ReadTask.proceed] at h ⊢
  revert h hmoves
  generalize t.phase = phase
  generalize (t.next compiler env phase).1 = phase'
  intro h hmoves
  cases hmoves with
  | refused => exact fun response he => by cases he
  | evaluated hread => exact hread
  | retrieved hquery => exact ⟨h, retrieves_of_query h hquery⟩
  | revalidated _ => exact h
  | @responded read result authorized =>
    intro response hresponse
    by_cases hshown : authorized = false ∨ result.evidence = []
    · exact .inl (response_blank h.1 h.2 hshown)
    · rw [not_or, Bool.not_eq_false] at hshown
      obtain ⟨rfl, hevidence⟩ := hshown
      exact .inr (response_discloses (mem_of_stripped h.1.payload) hresponse hevidence)
  | answered => exact h

/-- The response has been authorized, or it is one that carries something. -/
def Passed (compiler : ContextCompiler) (t : ReadTask) : Prop :=
  match t.phase with
  | .called | .evaluated _ | .retrieved _ _ => False
  | .revalidated _ _ authorized => authorized = true
  | .answered outcome => ∃ response, outcome = .ok response ∧ outcome ≠ blankResponse t.operation t.call.raw compiler.maxChars

/-- A read passes when it is revalidated and backed. -/
theorem backed_of_passed {compiler : ContextCompiler} {t : ReadTask} {env : ReadEnvironment σ κ ρ γ} (h : t.Consistent compiler)
    (hbefore : ¬ t.Passed compiler) (hafter : (ReadTask.proceed compiler env () t).2.Passed compiler) :
    ∃ read result b p, t.phase = .retrieved read result ∧ read.Of t.operation t.call ∧ read.evaluation.binding = some b ∧
      Backed env.authorization read.request.queryRequest b (nowOr t.call.now t.call.utcAtRevalidation) p := by
  have hmoves := moves_next compiler env t t.phase
  obtain ⟨operation, call, phase⟩ := t
  simp only [Consistent, Passed, ReadTask.proceed] at h hbefore hafter
  simp only at hmoves
  revert h hbefore hafter hmoves
  generalize (next compiler ⟨operation, call, phase⟩ env phase).1 = phase'
  intro h hbefore hafter hmoves
  cases hmoves with
  | refused => simp at hafter
  | evaluated => cases hafter
  | retrieved => cases hafter
  | @revalidated read result authorized hauthorized =>
    obtain rfl : authorized = true := hafter
    simp only [ReadTask.authorized] at hauthorized
    rcases hb : read.evaluation.binding with _ | b
    · simp only [hb, Except.ok.injEq] at hauthorized
      obtain ⟨b, hb'⟩ := h.1.allowed hauthorized
      cases hb.symm.trans hb'
    · simp only [hb, pyAnd_ok_true] at hauthorized
      obtain ⟨p, hp⟩ := backed_of_revalidate hauthorized.2
      exact ⟨read, result, b, p, rfl, h.1, hb, hp⟩
  | @responded read result authorized =>
    obtain rfl : authorized = false := Bool.not_eq_true _ |>.mp hbefore
    obtain ⟨response, -, hne⟩ := hafter
    exact absurd (response_blank h.1 h.2 (.inl rfl)) hne
  | answered => exact absurd hafter hbefore

end ReadTask

omit [RatePort ρ] [ReplayPort γ] in
/-- What is left of a read, once it is evaluated, with nothing in between. -/
theorem ReadTask.handleDisclosed_eq {read : EvaluatedRead} {t : ReadTask} {r : LocalEvidenceRuntime σ}
    {a : RequestAuthorizationService κ ρ γ} (hread : read.Of t.operation t.call) {raw : Val} (hraw : raw = read.payload.toVal) :
    ((ReadProjectionService.mk r (some a)).handleDisclosed raw read.evaluation.allowed
        (read.evaluation.binding.map (·.publicLineage)) (read.evaluation.binding.map fun binding request =>
          a.revalidate request binding (nowOr t.call.now t.call.utcAtRevalidation)) >>= respond t.operation read.payload) =
      r.query read.request.queryRequest >>= fun result => t.authorized a read >>= fun authorized =>
        t.response read result authorized := by
  have hbinding := serverBinding_of_normalized (ProjectionRequest.normalized_of_fromMapping hread.request)
  subst hraw
  rcases hb : read.evaluation.binding with _ | b
  · simp only [ReadProjectionService.handleDisclosed, hread.request, Option.map_none, hbinding, ok_bind, ReadTask.authorized,
      ReadTask.response, hb]
    cases r.query read.request.queryRequest <;> rfl
  · simp only [ReadProjectionService.handleDisclosed, hread.request, Option.map_some, ok_bind, ReadTask.authorized,
      ReadTask.response, hb]
    rcases r.query read.request.queryRequest with e | result
    · rfl
    · rw [ok_bind, ok_bind]
      cases pyAnd (.ok read.evaluation.allowed)
        (a.revalidate read.request.queryRequest b (nowOr t.call.now t.call.utcAtRevalidation)) <;> rfl

namespace ReadTask

/-- A read of the environment with nothing in between. -/
def proceedAlone (compiler : ContextCompiler) : Nat → ReadEnvironment σ κ ρ γ × ReadTask → ReadEnvironment σ κ ρ γ × ReadTask
  | 0, s => s
  | n + 1, s => proceedAlone compiler n (s.2.proceed compiler s.1 ())

theorem proceedAlone_answered (compiler : ContextCompiler) (n : Nat) (env : ReadEnvironment σ κ ρ γ) (operation : String)
    (call : ReadCall) (outcome : Except Exc Dict) :
    proceedAlone compiler n (env, ⟨operation, call, .answered outcome⟩) = (env, ⟨operation, call, .answered outcome⟩) := by
  induction n with
  | zero => rfl
  | succ n ih => exact ih

theorem proceedAlone_evaluated (compiler : ContextCompiler) (env : ReadEnvironment σ κ ρ γ) {t : ReadTask} {read : EvaluatedRead}
    (hphase : t.phase = .evaluated read) :
    proceedAlone compiler 3 (env, t) = (env, ⟨t.operation, t.call, .answered
      ((LocalEvidenceRuntime.mk env.store compiler).query read.request.queryRequest >>= fun result =>
        t.authorized env.authorization read >>= fun authorized => t.response read result authorized)⟩) := by
  obtain ⟨operation, call, phase⟩ := t
  obtain rfl : phase = .evaluated read := hphase
  have h : proceedAlone compiler 3 (env, ⟨operation, call, .evaluated read⟩) =
      proceedAlone compiler 2 (proceed compiler env () ⟨operation, call, .evaluated read⟩) := rfl
  rw [h, proceed]
  simp only [next]
  rcases (LocalEvidenceRuntime.mk env.store compiler).query read.request.queryRequest with e | result
  · exact proceedAlone_answered ..
  have h : proceedAlone compiler 2 (env, ⟨operation, call, .retrieved read result⟩) =
      proceedAlone compiler 1 (proceed compiler env () ⟨operation, call, .retrieved read result⟩) := rfl
  simp only [h, proceed, next, ok_bind]
  rcases hauthorized : authorized ⟨operation, call, .retrieved read result⟩ env.authorization read with e | authorized
  all_goals
    simp only [ReadTask.authorized] at hauthorized ⊢
    rw [hauthorized]
    rfl

end ReadTask

/-! ## Runs -/

theorem run_alone (compiler : ContextCompiler) {ι : Type} (act : ReadEnvironment σ κ ρ γ → ι → ReadEnvironment σ κ ρ γ)
    (n : Nat) (env : ReadEnvironment σ κ ρ γ) (t : ReadTask) :
    Machine.run (Reads.step compiler act) ⟨env, [t]⟩ (List.replicate n (.proceed 0 ())) =
      ⟨(ReadTask.proceedAlone compiler n (env, t)).1, [(ReadTask.proceedAlone compiler n (env, t)).2]⟩ := by
  induction n generalizing env t with
  | zero => rfl
  | succ n ih => exact ih ..

/-- A read with nothing in between is a call of the service. -/
theorem run_undisturbed (compiler : ContextCompiler) {ι : Type} (act : ReadEnvironment σ κ ρ γ → ι → ReadEnvironment σ κ ρ γ)
    (env : ReadEnvironment σ κ ρ γ) (operation : String) (adapter : Adapter) (call : ReadCall) :
    let s := Machine.run (Reads.step compiler act) { shared := env } (.start (operation, call) :: List.replicate 4 (.proceed 0 ()))
    let executed := (ReadOperationService.mk (.mk ⟨env.store, compiler⟩ (some env.authorization))).execute operation adapter
      none call
    s.tasks = [⟨operation, call, .answered executed.1⟩] ∧ executed.2 = ⟨⟨env.store, compiler⟩, some s.shared.authorization⟩ ∧
      s.shared.store = env.store := by
  intro s executed
  have hrun : s = ⟨_, _⟩ := run_alone compiler act 4 env ⟨operation, call, .called⟩
  obtain ⟨store, authorization⟩ := env
  have hfirst : ReadTask.proceedAlone compiler 4 (⟨store, authorization⟩, ⟨operation, call, .called⟩) =
      ReadTask.proceedAlone compiler 3 (ReadTask.proceed compiler ⟨store, authorization⟩ () ⟨operation, call, .called⟩) := rfl
  simp only [hrun, hfirst, ReadTask.proceed, executed, execute_eq]
  rcases hpayload : stripTransportOperation operation call.raw with e | payload
  · simp only [ReadTask.next, hpayload, ReadTask.proceedAlone_answered]
    trivial
  have hraw : ({ call with raw := payload.toVal } : ReadCall).raw = payload.toVal := rfl
  simp only [ReadTask.next, hpayload]
  rcases hrequest : ProjectionRequest.fromMapping payload.toVal with e | request
  · simp only [ReadTask.proceedAlone_answered]
    rw [← hraw] at hrequest
    rw [ReadProjectionService.handleAuthenticated_of_error _ hrequest]
    exact ⟨rfl, rfl, trivial⟩
  rcases hevaluate : authorization.evaluate request.queryRequest call.authenticationRef
    (nowOr call.now call.utcAtEvaluation) call.limiterClock with ⟨e | evaluation, after⟩
  · simp only [hevaluate, ReadTask.proceedAlone_answered]
    rw [← hraw] at hrequest
    rw [ReadProjectionService.handleAuthenticated_of_raise _ hrequest hevaluate]
    exact ⟨rfl, rfl, trivial⟩
  have hread := ReadTask.of_evaluate (t := ⟨operation, call, .called⟩) hpayload hrequest hevaluate
  have hrest := ReadTask.handleDisclosed_eq (r := ⟨store, compiler⟩) (a := after) hread hraw
  have halone := ReadTask.proceedAlone_evaluated compiler ⟨store, after⟩
    (t := ⟨operation, call, .evaluated ⟨payload, request, evaluation⟩⟩) rfl
  simp only [hevaluate, halone]
  rw [← hraw] at hrequest
  rw [ReadProjectionService.handleAuthenticated_of_evaluation _ hrequest hevaluate]
  exact ⟨congrArg (fun o => [ReadTask.mk operation call (.answered o)]) hrest.symm, rfl, trivial⟩

/-- The read was backed when it was revalidated: after it had retrieved, there
was a principal registered for its binding, active, within its interval, of the
current epoch, and with the request in its scope. -/
def BackedInRun (compiler : ContextCompiler) {ι : Type} (act : ReadEnvironment σ κ ρ γ → ι → ReadEnvironment σ κ ρ γ)
    (env : ReadEnvironment σ κ ρ γ) (ops : List (Interleaving.Op (String × ReadCall) ι Unit)) (n : Nat) (t : ReadTask) : Prop :=
  ∃ before after read result b p, ops = before ++ .proceed n () :: after ∧
    let s := Machine.run (Reads.step compiler act) { shared := env } before
    s.tasks[n]? = some { t with phase := .retrieved read result } ∧ read.Of t.operation t.call ∧
      read.evaluation.binding = some b ∧
      Backed s.shared.authorization read.request.queryRequest b (nowOr t.call.now t.call.utcAtRevalidation) p

/-- In every run of reads in an environment that others act on: a read that
discloses anything was backed when it was revalidated, and what else is
answered depends on the request and the context bound alone. -/
theorem no_disclosure_after_revocation (compiler : ContextCompiler) {ι : Type}
    (act : ReadEnvironment σ κ ρ γ → ι → ReadEnvironment σ κ ρ γ) (env : ReadEnvironment σ κ ρ γ)
    (ops : List (Interleaving.Op (String × ReadCall) ι Unit)) (n : Nat) (t : ReadTask) (response : Dict)
    (ht : (Machine.run (Reads.step compiler act) { shared := env } ops).tasks[n]? = some t)
    (hanswered : t.phase = .answered (.ok response)) :
    (Discloses response → BackedInRun compiler act env ops n t) ∧
      (¬ BackedInRun compiler act env ops n t ∨ ¬ Discloses response →
        .ok response = blankResponse t.operation t.call.raw compiler.maxChars) := by
  have hconsistent := Interleaving.tasks_invariant ReadTask.fresh act (ReadTask.proceed compiler)
    (ReadTask.Consistent compiler) (fun c => trivial) (fun env _ t h => h.proceed env)
    (show ∀ t ∈ (Interleaving.State.mk env ([] : List ReadTask)).tasks, ReadTask.Consistent compiler t by simp)
  by_cases hblank : .ok response = blankResponse t.operation t.call.raw compiler.maxChars
  · exact ⟨fun h => absurd h (not_discloses_blank hblank.symm), fun _ => hblank⟩
  have hdiscloses : Discloses response := by
    have h := hconsistent ops t (List.mem_of_getElem? ht)
    simp only [ReadTask.Consistent, hanswered] at h
    exact (h response rfl).resolve_left hblank
  suffices BackedInRun compiler act env ops n t from
    ⟨fun _ => this, fun h => absurd h (by simp [this, hdiscloses])⟩
  have hpassed : t.Passed compiler := by
    simp only [ReadTask.Passed, hanswered]
    exact ⟨response, rfl, hblank⟩
  obtain ⟨before, ⟨⟩, after, u, hops, hu, hbefore, hoperation, hcall, hafter⟩ := Interleaving.exists_proceed ReadTask.fresh act
    (ReadTask.proceed compiler) (fun u => u.operation = t.operation ∧ u.call = t.call ∧ u.Passed compiler)
    (fun c h => h.2.2) (by simp) ht ⟨rfl, rfl, hpassed⟩
  have hoperation : u.operation = t.operation := hoperation
  have hcall : u.call = t.call := hcall
  obtain ⟨read, result, b, p, hphase, hread, hb, hbacked⟩ :=
    ReadTask.backed_of_passed (hconsistent before u (List.mem_of_getElem? hu)) (fun h => hbefore ⟨hoperation, hcall, h⟩) hafter
  have htask : u = { t with phase := .retrieved read result } := by
    obtain ⟨operation, call, phase⟩ := u
    obtain rfl : operation = t.operation := hoperation
    obtain rfl : call = t.call := hcall
    obtain rfl : phase = .retrieved read result := hphase
    rfl
  rw [hoperation, hcall] at hread
  rw [hcall] at hbacked
  exact ⟨before, after, read, result, b, p, hops, htask ▸ hu, hread, hb, hbacked⟩

end

/-- The read of the principal discloses what it was backed for. -/
theorem no_disclosure_after_revocation_example :
    letI := asciiRuntime
    let env : ReadEnvironment LocalStore AuthenticationRegistry FixedWindowRateLimiter ReplayGuard :=
      ⟨exampleNotes, exampleService 0 {}⟩
    let call := ("search", exampleAuthorizedCall "request")
    ∃ t response, t.phase = .answered (.ok response) ∧ Discloses response ∧
      BackedInRun ⟨4000, by decide⟩ (fun env () => env) env (.start call :: List.replicate 4 (.proceed 0 ())) 0 t := by
  let := asciiRuntime
  intro env call
  obtain ⟨result, projection, hdisclosed⟩ := exampleDisclosed
  have hrun := (run_undisturbed ⟨4000, by decide⟩ (fun env () => env) env "search" .api (exampleAuthorizedCall "request")).1
  have hexecuted := hdisclosed.execute (exampleAuthorizedCall "request") rfl exampleAuthorizedCall_verdict .api
  simp only [env, hexecuted] at hrun
  have hdiscloses : Discloses (responseOf "search" projection) := by
    refine .inl ?_
    have hevidence := hdisclosed.responseEvidence
    rw [responseEvidence] at hevidence
    rw [hevidence, evidenceList]
    simpa using hdisclosed.evidence
  let t : ReadTask := ⟨"search", exampleAuthorizedCall "request", .answered (.ok (responseOf "search" projection))⟩
  refine ⟨t, _, rfl, hdiscloses, (no_disclosure_after_revocation _ _ env _ 0 t _ ?_ rfl).1 hdiscloses⟩
  exact (congrArg (fun tasks : List ReadTask => tasks[0]?) hrun).trans rfl

end Pmiri
