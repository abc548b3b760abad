import Pmiri.ControlPlane.Withdrawal
import Pmiri.Http.Posts
import Pmiri.Read.Revocation

/-!
# The assembled server

`server.py`: the loopback server over a store and a control plane, and what its
posts may disclose. The reads of the posts interleave with each other, with the
transactions of others on the control plane, and with changes of the store.
Nobody is disclosed anything whose principal was not registered.
-/

namespace Pmiri

open Py

/-! ## Assembly -/

inductive ServerError where
  | configuration (reason : String)
  | http (reason : String)
  | raised (e : Exc)
deriving DecidableEq

/-- The ports that a deployment injects: whether every required method of theirs can be called, and what the epoch store
gives. -/
structure ServerAuthorizationAdapters (κ ρ γ : Type) where
  registry : κ
  replayGuard : γ
  rateLimiter : ρ
  callable : Bool
  epoch : Except Raised Val

/-- `_current_epoch` -/
def currentEpoch {κ ρ γ : Type} (adapters : ServerAuthorizationAdapters κ ρ γ) : Except ServerError Int :=
  if !adapters.callable then .error (.configuration "authorization_adapters_invalid")
  else
    match adapters.epoch with
    | .error _ => .error (.configuration "authorization_epoch_unavailable")
    | .ok (.int epoch) => if epoch < 0 then .error (.configuration "authorization_epoch_invalid") else .ok epoch
    | .ok _ => .error (.configuration "authorization_epoch_invalid")

/-- The control plane with its tables, as `initialize` of the four ports leaves it. -/
def ControlPlane.initialize (c : ControlPlane) : Except Exc ControlPlane := do
  let policyEpoch ← c.policyEpoch.initialized 0
  return { c with policyEpoch }

/-- The local ports on a control plane. -/
def localAdapters (c : ControlPlane) : ServerAuthorizationAdapters SQLiteAuthenticationRegistry SQLiteRateLimiter SQLiteReplayGuard where
  registry := c.registry
  replayGuard := c.replays
  rateLimiter := { rows := c.windows }
  callable := true
  epoch :=
    match c.policyEpoch.get with
    | .ok epoch => .ok (.int epoch)
    | .error e => .error (.exc e)

/-- A server, and what its reads share. -/
structure AssembledServer (σ κ ρ γ : Type) where
  http : LocalReadHTTPServer
  environment : ReadEnvironment σ κ ρ γ

/-- The checks of `LocalReadHTTPServer` on its limit. -/
def requestLimit (maxRequestBytes : Val) : Except ServerError Int :=
  match maxRequestBytes with
  | .int n => if 1 ≤ n ∧ n ≤ 8 * 1024 * 1024 then .ok n else .error (.http "request_limit_invalid")
  | _ => .error (.http "request_limit_invalid")

/-- `build_local_read_server` from where it has its adapters; `epochRow` is the row of the epoch store. -/
def assemble {σ κ ρ γ : Type} (store : σ) (adapters : ServerAuthorizationAdapters κ ρ γ) (epochRow : Option Int)
    (audited : Bool) (maxRequestBytes : Val) : Except ServerError (AssembledServer σ κ ρ γ) := do
  let epoch ← currentEpoch adapters
  let limit ← requestLimit maxRequestBytes
  return {
    http := ⟨limit, audited⟩
    environment := ⟨store, {
      registry := adapters.registry
      currentPolicyEpoch := epoch
      policyEpochStore := epochRow
      rateLimiter := adapters.rateLimiter
      replayGuard := adapters.replayGuard }⟩ }

/-- `build_local_read_server` without injected adapters: `store` is the store if its database is a file, and
`cipherCallable` says of a cipher that its methods can be called. -/
def buildLocalReadServer {σ : Type} (store : Option σ) (control : ControlPlane) (cipherCallable audited : Bool)
    (maxRequestBytes : Val) :
    Except ServerError (AssembledServer σ SQLiteAuthenticationRegistry SQLiteRateLimiter SQLiteReplayGuard) :=
  if !cipherCallable then .error (.configuration "blob_cipher_invalid")
  else
    match store with
    | none => .error (.configuration "storage_not_initialized")
    | some store =>
      match control.initialize with
      | .error e => .error (.raised e)
      | .ok control => assemble store (localAdapters control) control.policyEpoch.row audited maxRequestBytes

/-! ## What others do -/

/-- Others commit a transaction on the control plane, or leave another store. -/
inductive ServerAct (σ : Type)
  | transaction (t : Transaction)
  | store (s : σ)

abbrev LocalEnvironment (σ : Type) := ReadEnvironment σ SQLiteAuthenticationRegistry SQLiteRateLimiter SQLiteReplayGuard

/-- The database, as the ports of the service see it. -/
def LocalEnvironment.control {σ : Type} (env : LocalEnvironment σ) : ControlPlane where
  registry := env.authorization.registry
  policyEpoch := ⟨env.authorization.policyEpochStore⟩

def ServerAct.act {σ : Type} (env : LocalEnvironment σ) : ServerAct σ → LocalEnvironment σ
  | .transaction t => { env with authorization := { env.authorization with
      registry := ((LocalEnvironment.control env).act t).registry
      policyEpochStore := ((LocalEnvironment.control env).act t).policyEpoch.row } }
  | .store s => { env with store := s }

/-- A run of the reads of a server. -/
abbrev ServerOp (σ : Type) := Interleaving.Op (String × ReadCall) (ServerAct σ) Unit

/-- The principal is registered in the run. -/
def Registers {σ : Type} (ops : List (ServerOp σ)) (p : AuthenticatedPrincipal) : Prop :=
  .act (.transaction (.register p)) ∈ ops

/-! ## Who is registered -/

/-- Every row is reached by registrations and revocations, and is of a principal that is registered in the run. -/
structure RegisteredOnly {σ : Type} (ops : List (ServerOp σ)) (r : SQLiteAuthenticationRegistry) : Prop where
  reachable : r.Reachable
  registered : ∀ row ∈ r.rows, Registers ops row.payload

theorem RegisteredOnly.act {σ : Type} {ops : List (ServerOp σ)} {env : LocalEnvironment σ}
    (h : RegisteredOnly ops env.authorization.registry) {a : ServerAct σ} (ha : .act a ∈ ops) :
    RegisteredOnly ops (a.act env).authorization.registry := by
  cases a with
  | store s => exact h
  | transaction t =>
    cases t with
    | register p =>
      simp only [ServerAct.act, ControlPlane.act, LocalEnvironment.control]
      split
      · rename_i registry hregistry
        refine ⟨h.reachable.register hregistry, ?_⟩
        rw [SQLiteAuthenticationRegistry.register] at hregistry
        split at hregistry
        · split at hregistry
          · cases hregistry
          · split at hregistry
            · cases hregistry
            · obtain rfl := Except.ok.inj hregistry
              exact h.registered
        · obtain rfl := Except.ok.inj hregistry
          intro row hrow
          rcases List.mem_append.mp hrow with hrow | hrow
          · exact h.registered row hrow
          · obtain rfl := List.mem_singleton.mp hrow
            exact ha
      · exact h
    | revoke authenticationRef time =>
      refine ⟨h.reachable.revoke, ?_⟩
      intro row hrow
      obtain ⟨row', hrow', rfl⟩ := List.mem_map.mp hrow
      have hpayload : (PrincipalRow.revoked authenticationRef time row').payload = row'.payload := by
        rw [PrincipalRow.revoked]
        split <;> rfl
      rw [hpayload]
      exact h.registered row' hrow'
    | initialized initialEpoch =>
      simp only [ServerAct.act, ControlPlane.act, LocalEnvironment.control]
      split <;> exact h
    | advance newEpoch =>
      simp only [ServerAct.act, ControlPlane.act, LocalEnvironment.control]
      split <;> exact h
    | bump =>
      simp only [ServerAct.act, ControlPlane.act, LocalEnvironment.control]
      split <;> exact h

section

variable [Runtime]

/-- Whoever is found under a reference was registered under it. -/
theorem RegisteredOnly.resolved {σ : Type} {ops : List (ServerOp σ)} {r : SQLiteAuthenticationRegistry} (h : RegisteredOnly ops r)
    {a : Option String} {p : AuthenticatedPrincipal} (hresolve : resolve r a = .ok (some p)) :
    a = some p.authenticationRef ∧ ∃ q, Registers ops q ∧ q.authenticationRef = p.authenticationRef := by
  have ha := resolve_some h.reachable hresolve
  refine ⟨ha, ?_⟩
  rw [ha, resolve] at hresolve
  split at hresolve
  · cases hresolve
  · obtain ⟨row, hrow, -, href, -⟩ := SQLiteAuthenticationRegistry.principalOfRow_some hresolve
    obtain ⟨hmem, -⟩ := SQLiteAuthenticationRegistry.authenticationRef_of_row hrow
    exact ⟨row.payload, h.registered row hmem, href.symm⟩

theorem registry_evaluate {κ ρ γ : Type} [RegistryPort κ] [RatePort ρ] [ReplayPort γ] (s : RequestAuthorizationService κ ρ γ)
    (request : QueryRequest) (authenticationRef : Option String) (current : String) (clock : Rat) :
    (s.evaluate request authenticationRef current clock).2.registry = s.registry := by
  rw [RequestAuthorizationService.evaluate]
  split
  · rfl
  · rfl
  · dsimp only
    split
    · rfl
    · split
      · rfl
      · split <;> rfl

theorem registry_proceed {σ κ ρ γ : Type} [SourceStore σ] [RegistryPort κ] [RatePort ρ] [ReplayPort γ] (compiler : ContextCompiler)
    (env : ReadEnvironment σ κ ρ γ) (t : ReadTask) : (t.proceed compiler env ()).1.authorization.registry = env.authorization.registry := by
  simp only [ReadTask.proceed]
  cases t.phase with
  | called =>
    simp only [ReadTask.next]
    split
    · rfl
    · split
      · rfl
      · split
        · exact registry_evaluate ..
        · exact registry_evaluate ..
  | evaluated read =>
    simp only [ReadTask.next]
    split <;> rfl
  | retrieved read result =>
    simp only [ReadTask.next]
    split <;> rfl
  | revalidated read result authorized => rfl
  | answered outcome => rfl

/-! ## Reads -/

/-- The evaluated request that a read has. -/
def ReadPhase.read? : ReadPhase → Option EvaluatedRead
  | .evaluated read | .retrieved read _ | .revalidated read _ _ => some read
  | .called | .answered _ => none

/-- The read has the binding of a principal under its own reference, and it passes only if such a principal is registered. -/
structure Accounted {σ : Type} (compiler : ContextCompiler) (ops : List (ServerOp σ)) (t : ReadTask) : Prop where
  consistent : t.Consistent compiler
  linked : ∀ read b, t.phase.read? = some read → read.evaluation.binding = some b →
    t.call.authenticationRef = some b.authenticationRef
  passed : t.Passed compiler → ∃ q, Registers ops q ∧ t.call.authenticationRef = some q.authenticationRef

/-- A binding is that of the principal that the reference resolves to. -/
theorem authenticationRef_of_evaluate {κ ρ γ : Type} [RegistryPort κ] [RatePort ρ] [ReplayPort γ]
    {s after : RequestAuthorizationService κ ρ γ} {request : QueryRequest} {authenticationRef : Option String} {current : String}
    {clock : Rat} {evaluation : AuthorizationEvaluation} {b : RequestAuthorizationBinding} (hreached : RegistryPort.Reached s.registry)
    (h : s.evaluate request authenticationRef current clock = (.ok evaluation, after)) (hb : evaluation.binding = some b) :
    authenticationRef = some b.authenticationRef := by
  cases hallowed : evaluation.allowed with
  | false =>
    obtain ⟨reason, rfl⟩ := RequestAuthorizationService.evaluate_deny h hallowed
    cases hb
  | true =>
    obtain ⟨p, b', rfl, hadmits⟩ := RequestAuthorizationService.evaluate_allow h hallowed
    obtain rfl := Option.some.inj hb
    obtain ⟨-, hresolve, -⟩ := RequestAuthorizationService.screen_ok.mp hadmits.screened
    rw [(RequestAuthorizationService.buildBinding_issued hadmits.built).principal.1]
    exact resolve_some hreached hresolve

theorem linked_proceed {σ : Type} [SourceStore σ] {compiler : ContextCompiler} {env : LocalEnvironment σ} {t : ReadTask}
    (hreached : env.authorization.registry.Reachable)
    (h : ∀ read b, t.phase.read? = some read → read.evaluation.binding = some b → t.call.authenticationRef = some b.authenticationRef)
    {read : EvaluatedRead} {b : RequestAuthorizationBinding} (hread : (t.next compiler env t.phase).1.read? = some read)
    (hb : read.evaluation.binding = some b) : t.call.authenticationRef = some b.authenticationRef := by
  cases hphase : t.phase with
  | called =>
    simp only [hphase, ReadTask.next] at hread
    split at hread
    · cases hread
    · split at hread
      · cases hread
      · rename_i request hrequest
        rcases hevaluate : env.authorization.evaluate request.queryRequest t.call.authenticationRef
          (nowOr t.call.now t.call.utcAtEvaluation) t.call.limiterClock with ⟨e | evaluation, after⟩
        · simp only [hevaluate] at hread
          cases hread
        · simp only [hevaluate] at hread
          cases hread
          exact authenticationRef_of_evaluate hreached hevaluate hb
  | evaluated read' =>
    simp only [hphase, ReadTask.next] at hread
    split at hread
    · cases hread
    · exact h read b (by rw [hphase]; exact hread) hb
  | retrieved read' result =>
    simp only [hphase, ReadTask.next] at hread
    split at hread
    · cases hread
    · exact h read b (by rw [hphase]; exact hread) hb
  | revalidated read' result authorized =>
    rw [hphase] at hread
    cases hread
  | answered outcome =>
    rw [hphase] at hread
    cases hread

theorem Accounted.proceed {σ : Type} [SourceStore σ] {compiler : ContextCompiler} {ops : List (ServerOp σ)} {t : ReadTask}
    (h : Accounted compiler ops t) {env : LocalEnvironment σ} (hregistered : RegisteredOnly ops env.authorization.registry) :
    Accounted compiler ops (t.proceed compiler env ()).2 := by
  constructor
  · exact h.consistent.proceed env
  · intro read b hread hb
    exact linked_proceed hregistered.reachable h.linked hread hb
  · intro hpassed
    by_cases hbefore : t.Passed compiler
    · exact h.passed hbefore
    · obtain ⟨read, result, b, p, hphase, -, hb, hbacked⟩ := ReadTask.backed_of_passed h.consistent hbefore hpassed
      obtain ⟨href, q, hq, hqref⟩ := hregistered.resolved hbacked.registered
      have hcall := h.linked read b (by rw [hphase]; rfl) hb
      exact ⟨q, hq, hcall.trans (href.trans (congrArg some hqref.symm))⟩

/-! ## Runs -/

/-- In every run from a registry without principals, each read is accounted for. -/
theorem accounted_run {σ : Type} [SourceStore σ] (compiler : ContextCompiler) {env : LocalEnvironment σ}
    (hempty : env.authorization.registry = {}) (ops : List (ServerOp σ)) :
    ∀ t ∈ (Machine.run (Reads.step compiler ServerAct.act) { shared := env } ops).tasks, Accounted compiler ops t := by
  let inv (s : Interleaving.State (LocalEnvironment σ) ReadTask) : Prop :=
    RegisteredOnly ops s.shared.authorization.registry ∧ ∀ t ∈ s.tasks, Accounted compiler ops t
  have hstep (s : Interleaving.State (LocalEnvironment σ) ReadTask) (op : ServerOp σ) (h : inv s) (hop : op ∈ ops) :
      inv (Reads.step compiler ServerAct.act s op) := by
    obtain ⟨hregistered, htasks⟩ := h
    cases op with
    | act a => exact ⟨hregistered.act hop, htasks⟩
    | start call =>
      refine ⟨hregistered, fun t ht => ?_⟩
      rcases List.mem_append.mp ht with ht | ht
      · exact htasks t ht
      · obtain rfl := List.mem_singleton.mp ht
        constructor
        · trivial
        · intro read b hread
          cases hread
        · intro hpassed
          exact False.elim hpassed
    | proceed n k =>
      simp only [Reads.step, Interleaving.step]
      split
      · exact ⟨hregistered, htasks⟩
      · rename_i u hu
        have hproceeded := (htasks u (List.mem_of_getElem? hu)).proceed hregistered
        refine ⟨?_, fun t ht => ?_⟩
        · show RegisteredOnly ops (ReadTask.proceed compiler s.shared () u).1.authorization.registry
          rw [registry_proceed]
          exact hregistered
        · rcases List.mem_or_eq_of_mem_set ht with ht | rfl
          · exact htasks t ht
          · exact hproceeded
  have hfresh : inv { shared := env } := by
    refine ⟨⟨?_, ?_⟩, by simp⟩
    · rw [hempty]
      exact .fresh
    · rw [hempty]
      simp
  exact (Machine.run_invariant _ inv hstep hfresh (Machine.along_of_forall _ fun op hop => hop)).2

variable [FloatText]

/-- A post is served by the reads of a run: the response it gets is that of a read with its reference. -/
def ServedBy {σ κ ρ γ : Type} (s : Interleaving.State (ReadEnvironment σ κ ρ γ) ReadTask) (post : Post) : Prop :=
  ∀ operation raw authenticationRef response, post.apiAuthenticated operation raw authenticationRef = .ok response →
    ∃ t ∈ s.tasks, t.call.authenticationRef = some authenticationRef ∧ t.phase = .answered (.ok response)

open LocalReadHTTPServer in
/-- A 200 carries what the read operation answers for the reference in the header. -/
theorem answer_of_200 {server : LocalReadHTTPServer} {post : Post} {body : Dict}
    (h : (200, body) ∈ responses (server.doPost post).1) :
    ∃ operation raw authenticationRef, post.headers "X-PMIRI-Authentication-Ref" = some authenticationRef ∧
      post.apiAuthenticated operation raw authenticationRef = .ok body := by
  have hreject (status : Nat) (hstatus : status ≠ 200) (operation : Option String) :
      (200, body) ∉ responses (server.reject post status operation) := by
    rw [reject]
    split
    · dsimp only
      split <;> simp [responses, hstatus.symm]
    · simp [responses, hstatus.symm]
  have hemit (operation : String) (response : Dict) (h : (200, body) ∈ responses (server.emit post operation response)) :
      body = response := by
    rw [emit] at h
    split at h
    · split at h
      · simp [responses] at h
      · split at h
        · simp [responses] at h
        · simpa [responses] using h
    · simpa [responses] using h
  rw [doPost] at h
  split at h
  · simp [responses] at h
  · rename_i parsed _
    have hroute : (200, body) ∈ responses (server.route post parsed) := h
    rw [route] at hroute
    split at hroute
    · exact absurd hroute (hreject 404 (by decide) _)
    · dsimp only at hroute
      split at hroute
      · exact absurd hroute (hreject 404 (by decide) _)
      · split at hroute
        · exact absurd hroute (hreject 415 (by decide) _)
        · split at hroute
          · exact absurd hroute (hreject _ (by split <;> decide) _)
          · rw [answer] at hroute
            split at hroute
            · exact absurd hroute (hreject _ (badRequest_ne_ok _) _)
            · split at hroute
              · exact absurd hroute (hreject 401 (by decide) _)
              · exact absurd hroute (hreject 401 (by decide) _)
              · rename_i authenticationRef _ href
                split at hroute
                · exact absurd hroute (hreject _ (badRequest_ne_ok _) _)
                · rename_i response hresponse
                  exact ⟨_, _, authenticationRef, href, hemit _ response hroute ▸ hresponse⟩

/-- A server that is assembled on a control plane without principals is closed: in every run of its reads, with whatever
transactions and changes of the store in between, a post of which the 200 discloses anything had in its header the
reference of a principal that was registered in the run. -/
theorem discloses_to_registered {σ : Type} [SourceStore σ] {store : Option σ} {control : ControlPlane}
    {cipherCallable audited : Bool} {maxRequestBytes : Val}
    {server : AssembledServer σ SQLiteAuthenticationRegistry SQLiteRateLimiter SQLiteReplayGuard}
    (hbuilt : buildLocalReadServer store control cipherCallable audited maxRequestBytes = .ok server)
    (hempty : control.registry = {}) (compiler : ContextCompiler) (ops : List (ServerOp σ)) {post : Post}
    (hserved : ServedBy (Machine.run (Reads.step compiler ServerAct.act) { shared := server.environment } ops) post)
    {body : Dict} (hbody : (200, body) ∈ LocalReadHTTPServer.responses (server.http.doPost post).1) (hdiscloses : Discloses body) :
    ∃ p, Registers ops p ∧ post.headers "X-PMIRI-Authentication-Ref" = some p.authenticationRef := by
  have hregistry : server.environment.authorization.registry = {} := by
    unfold buildLocalReadServer at hbuilt
    split at hbuilt
    · cases hbuilt
    · split at hbuilt
      · cases hbuilt
      · split at hbuilt
        · cases hbuilt
        · rename_i control' hcontrol
          obtain ⟨policyEpoch, -, hcontrol⟩ := bind_ok.mp hcontrol
          obtain rfl := Except.ok.inj hcontrol
          obtain ⟨epoch, -, hbuilt⟩ := bind_ok.mp hbuilt
          obtain ⟨limit, -, hbuilt⟩ := bind_ok.mp hbuilt
          obtain rfl := Except.ok.inj hbuilt
          exact hempty
  obtain ⟨operation, raw, authenticationRef, hheader, hanswer⟩ := answer_of_200 hbody
  obtain ⟨t, ht, href, hphase⟩ := hserved operation raw authenticationRef body hanswer
  have haccounted := accounted_run compiler hregistry ops t ht
  have hpassed : t.Passed compiler := by
    simp only [ReadTask.Passed, hphase]
    refine ⟨body, rfl, fun hblank => ?_⟩
    exact not_discloses_blank hblank.symm hdiscloses
  obtain ⟨q, hq, hqref⟩ := haccounted.passed hpassed
  exact ⟨q, hq, hheader.trans (href.symm.trans hqref)⟩

/-! A search with the reference of a principal that was registered before. -/

omit [Runtime] [FloatText] in
def examplePost (response : Dict) : Post where
  target := "/v1/read/search"
  headers := fun name =>
    if name = "Content-Type" then some "application/json"
    else if name = "Content-Length" then some "2"
    else if name = "X-PMIRI-Authentication-Ref" then some "auth://example"
    else none
  body := fun _ => .ok "\x7b\x7d".toUTF8
  apiAuthenticated := fun _ _ authenticationRef =>
    if authenticationRef = "auth://example" then .ok response else .error (.exc (valueError "unknown"))
  append := fun _ => .ok ()
  clock := .first

/-- What the reads share, before anyone is registered. -/
def emptyEnvironment : LocalEnvironment LocalStore where
  store := exampleNotes
  authorization := {
    registry := {}
    policyEpochStore := some 0
    rateLimiter := {}
    replayGuard := {} }

omit [FloatText] in
theorem exampleControl_built : buildLocalReadServer (some exampleNotes) {} true false (.int 1048576) =
    .ok ⟨⟨1048576, false⟩, emptyEnvironment⟩ := rfl

/-- What the reads share, once the principal is registered. -/
def registeredEnvironment (p : AuthenticatedPrincipal) : LocalEnvironment LocalStore where
  store := exampleNotes
  authorization := {
    registry := ⟨[⟨p.authenticationRef, p.fingerprint, p, none⟩]⟩
    policyEpochStore := some 0
    rateLimiter := {}
    replayGuard := {} }

end

theorem examplePost_read (response : Dict) :
    ∃ raw, @LocalReadHTTPServer.readRequest withoutFloats (examplePost response) 2 = .ok raw := ⟨_, rfl⟩

theorem urlsplit_search :
    letI := asciiRuntime
    ∃ parsed : SplitResult, urlsplit "/v1/read/search".toList = some parsed ∧ parsed.query.isEmpty = true ∧
      parsed.path = "/v1/read/search".toList := ⟨_, rfl, rfl, rfl⟩

theorem examplePost_type (response : Dict) :
    letI := asciiRuntime
    LocalReadHTTPServer.contentType (examplePost response) = "application/json".toList := by
  show @LocalReadHTTPServer.contentType asciiRuntime (examplePost Dict.empty) = _
  decide +kernel

open LocalReadHTTPServer in
theorem examplePost_answered (response : Dict) :
    letI := asciiRuntime
    letI := withoutFloats
    responses (doPost ⟨1048576, false⟩ (examplePost response)).1 = [(200, response)] := by
  let := asciiRuntime
  let := withoutFloats
  obtain ⟨parsed, hsplit, hquery, hpath⟩ := urlsplit_search
  obtain ⟨raw, hread⟩ := examplePost_read response
  have hanswer (operation : String) : answer ⟨1048576, false⟩ (examplePost response) operation 2 =
      [.increment .emitted, .send 200 response] := by
    simp only [answer, hread]
    rfl
  have htype := examplePost_type response
  have hlength : contentLength (examplePost response) = 2 := by
    show contentLength (examplePost Dict.empty) = _
    decide +kernel
  have hroute : route ⟨1048576, false⟩ (examplePost response) parsed = [.increment .emitted, .send 200 response] := by
    have hprefixed : (!parsed.query.isEmpty || !readPath.isPrefixOf parsed.path) = false := by
      rw [hquery, hpath]
      rfl
    have hoperation : String.ofList (parsed.path.drop readPath.length) = "search" := by
      rw [hpath]
      rfl
    have hknown : (!READ_OPERATIONS.contains "search" || "search".toList.contains '/') = false := rfl
    simp only [route, hprefixed, hoperation, hknown, htype, hlength, hanswer]
    rfl
  have hslash : ¬ ['/', '/'].isPrefixOf "/v1/read/search".toList = true := by decide
  have htarget : (examplePost response).path = "/v1/read/search".toList := if_neg hslash
  rw [doPost, htarget, hsplit]
  simp only [hroute]
  rfl

section

variable [Runtime]

/-- The service of a server allows the search of a registered principal. -/
theorem registered_verdict : ∃ p, p.authenticationRef = "auth://example" ∧
    verdict (registeredEnvironment p).authorization (exampleQuery "request") (exampleAuthorizedCall "request") = .ok true := by
  obtain ⟨p, href, hepoch, hpayload, hvalid, hchained, hprojects, hoperations, hpurposes, huntil⟩ := exists_registered
  let s := (registeredEnvironment p).authorization
  have hresolve : resolve s.registry (some p.authenticationRef) = .ok (some p) := by
    simp [resolve, href, s, registeredEnvironment, RegistryPort.lookup, SQLiteAuthenticationRegistry.row,
      SQLiteAuthenticationRegistry.principalOfRow, hpayload]
  have hid : "request" ≠ "" := by decide
  have hscreen : s.screen (exampleQuery "request") (some p.authenticationRef) "2026-01-01T00:00:00Z" = .ok (.ok p) :=
    RequestAuthorizationService.screen_ok.mpr ⟨⟨_, exampleQuery_normalized hid⟩, hresolve, hvalid,
      by rw [hprojects]; exact List.mem_singleton.mpr rfl, by rw [hoperations]; exact List.mem_singleton.mpr rfl,
      by rw [hpurposes]; exact List.mem_singleton.mpr rfl⟩
  obtain ⟨b, hb⟩ := RequestAuthorizationService.buildBinding_of_chained hchained
    (by simp [exampleQuery]) ⟨_, exampleQuery_normalized hid⟩ (by rw [hprojects]; exact List.mem_singleton.mpr rfl)
    "2026-01-01T00:00:00Z"
  have hadmits : s.Admits (exampleQuery "request") (some p.authenticationRef) "2026-01-01T00:00:00Z" 0 p b
      ⟨[("request", b.fingerprint, 63934272000000000)]⟩ := by
    refine ⟨hscreen, ?_, hb, ?_⟩
    · have hopen : ¬ (60 : Rat) ≤ 0 := by decide
      simp [RatePort.consume, s, registeredEnvironment, hopen]
    · rw [(RequestAuthorizationService.buildBinding_issued hb).validity.2, huntil]
      exact (SQLiteReplayGuard.consume_eq parseTime_exampleNow parseTime_exampleUntil).trans rfl
  refine ⟨p, href, verdict_true.mpr ⟨p, b, _, href ▸ hadmits, ?_⟩⟩
  exact RequestAuthorizationService.revalidate_of_built hscreen hb (isValid_of_admits hadmits)

/-- The principal is registered, and its search runs through. -/
theorem run_registered : ∃ p ops t response, p.authenticationRef = "auth://example" ∧ Registers ops p ∧
    t ∈ (Machine.run (Reads.step ⟨4000, by decide⟩ ServerAct.act) { shared := emptyEnvironment } ops).tasks ∧
    t.call.authenticationRef = some "auth://example" ∧ t.phase = .answered (.ok response) ∧ Discloses response := by
  obtain ⟨p, href, hverdict⟩ := registered_verdict
  obtain ⟨result, projection, hdisclosed⟩ := exampleDisclosed
  let call := exampleAuthorizedCall "request"
  refine ⟨p, .act (.transaction (.register p)) :: .start ("search", call) :: List.replicate 4 (.proceed 0 ()),
    ⟨"search", call, .answered (.ok (responseOf "search" projection))⟩, responseOf "search" projection, href,
    List.mem_cons_self, ?_, rfl, rfl, ?_⟩
  · have hrun := (run_undisturbed ⟨4000, by decide⟩ ServerAct.act (registeredEnvironment p) "search" .api call).1
    have hexecuted := hdisclosed.execute call rfl hverdict .api
    rw [Machine.run_cons]
    have hfirst : Reads.step ⟨4000, by decide⟩ ServerAct.act { shared := emptyEnvironment }
        (.act (.transaction (.register p))) = { shared := registeredEnvironment p } := rfl
    rw [hfirst, hrun]
    exact List.mem_singleton.mpr (congrArg (fun o => ReadTask.mk "search" call (.answered o)) hexecuted.symm)
  · refine .inl ?_
    have hevidence := hdisclosed.responseEvidence
    rw [responseEvidence] at hevidence
    rw [hevidence, evidenceList]
    simpa using hdisclosed.evidence

end

theorem discloses_to_registered_example :
    letI := asciiRuntime
    letI := withoutFloats
    ∃ response p, Discloses response ∧
      (200, response) ∈ LocalReadHTTPServer.responses (LocalReadHTTPServer.doPost ⟨1048576, false⟩ (examplePost response)).1 ∧
      (examplePost response).headers "X-PMIRI-Authentication-Ref" = some (AuthenticatedPrincipal.authenticationRef p) := by
  let := asciiRuntime
  let := withoutFloats
  obtain ⟨-, ops, t, response, -, -, ht, href, hphase, hdiscloses⟩ := run_registered
  have hanswered : (200, response) ∈ LocalReadHTTPServer.responses
      (LocalReadHTTPServer.doPost ⟨1048576, false⟩ (examplePost response)).1 := by
    rw [examplePost_answered]
    exact List.mem_singleton.mpr rfl
  have hserved : ServedBy (Machine.run (Reads.step ⟨4000, by decide⟩ ServerAct.act) { shared := emptyEnvironment } ops)
      (examplePost response) := by
    intro operation raw authenticationRef answer hanswer
    simp only [examplePost] at hanswer
    split at hanswer
    · rename_i hknown
      obtain rfl := Except.ok.inj hanswer
      exact ⟨t, ht, href.trans (congrArg some hknown.symm), hphase⟩
    · cases hanswer
  obtain ⟨p, -, hheader⟩ := discloses_to_registered exampleControl_built rfl _ ops hserved hanswered hdiscloses
  exact ⟨response, p, hdiscloses, hanswered, hheader⟩

end Pmiri
