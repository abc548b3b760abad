import Pmiri.ControlPlane.Workers
import Pmiri.RequestAuth.Replay

/-!
# Withdrawn authority

What a task answers rests on what it has read since it was called, and the
control plane does not go back: a principal that was revoked, or that the
policy epoch has passed, is not granted anything by a call that comes later.
-/

namespace Pmiri

open Py

section

variable [Runtime]

/-! ## A call alone -/

/-- The service of a worker on the control plane. -/
def Worker.service (w : Worker) (c : ControlPlane) :
    RequestAuthorizationService SQLiteAuthenticationRegistry SQLiteRateLimiter SQLiteReplayGuard where
  registry := c.registry
  policyEpochStore := c.policyEpoch.row
  rateLimiter := ⟨w.maxRequests, w.windowSeconds, c.windows⟩
  replayGuard := c.replays
  operation := w.operation

/-- Four transactions of an evaluation with nothing between them. -/
def EvaluationCall.alone (call : EvaluationCall) (c : ControlPlane) (clock : Rat) : ControlPlane × EvaluationPhase :=
  let (c, phase) := call.proceed c clock .called
  let (c, phase) := call.proceed c clock phase
  let (c, phase) := call.proceed c clock phase
  call.proceed c clock phase

/-- An evaluation that nothing comes between is the one of the service. -/
theorem EvaluationCall.alone_eq (call : EvaluationCall) (c : ControlPlane) (clock : Rat) {epoch : Int}
    (he : c.policyEpoch.row = some epoch) :
    (call.alone c clock).2 =
      .answered ((call.worker.service c).evaluate call.request call.authenticationRef call.current clock).1 := by
  have hget : c.policyEpoch.get = .ok epoch := SQLitePolicyEpoch.get_ok.mpr he
  have hepoch : (call.worker.service c).policyEpoch = epoch := by
    simp only [Worker.service, RequestAuthorizationService.policyEpoch, he, Option.getD_some]
  simp only [alone, RequestAuthorizationService.evaluate, RequestAuthorizationService.screen, hepoch]
  rcases hn : call.request.normalized with e | d
  · simp [EvaluationCall.proceed, hn, bind, Except.bind]
  rcases hr : resolve c.registry call.authenticationRef with e | _ | p
  · simp [EvaluationCall.proceed, hn, hr, Worker.service, bind, Except.bind]
  · simp [EvaluationCall.proceed, hn, hr, Worker.service, bind, Except.bind, pure, Except.pure]
  rcases hs : RequestAuthorizationService.screenPrincipal call.worker.operation call.request call.current epoch p with
    e | reason | q
  · simp [EvaluationCall.proceed, hn, hr, hget, hs, Worker.service, bind, Except.bind]
  · simp [EvaluationCall.proceed, hn, hr, hget, hs, Worker.service, bind, Except.bind]
  obtain rfl : p = q := (RequestAuthorizationService.screenPrincipal_ok.mp hs).1
  have hscreen : call.proceed c clock (.resolved p) = (c, .screened p) := by
    simp only [EvaluationCall.proceed, hget, hs]
  have hcalled : call.proceed c clock .called = (c, .resolved p) := by simp only [EvaluationCall.proceed, hn, hr]
  simp only [hcalled, hscreen, Worker.service, hr, hs, ok_bind]
  obtain ⟨⟨admitted, limiter⟩, hlimit⟩ : ∃ x, RatePort.consume (⟨call.worker.maxRequests, call.worker.windowSeconds, c.windows⟩ :
    SQLiteRateLimiter) (p.principalRef ++ ":" ++ call.worker.operation) clock = x := ⟨_, rfl⟩
  simp only [EvaluationCall.proceed, hlimit]
  cases admitted with
  | false => simp
  | true =>
    rcases hb : RequestAuthorizationService.buildBinding call.worker.operation call.request p call.current with e | b
    · simp
    rcases hconsume : ReplayPort.consume c.replays call.request.requestId b.fingerprint b.validUntil call.current with
      e | ⟨_ | _, guard⟩ <;> simp [hconsume]

/-- So is a revalidation. -/
theorem RevalidationCall.alone_eq (call : RevalidationCall) (c : ControlPlane) {epoch : Int}
    (he : c.policyEpoch.row = some epoch) :
    call.proceed c (call.proceed c .called) =
      .answered ((call.worker.service c).revalidate call.request call.binding call.current) := by
  have hget : c.policyEpoch.get = .ok epoch := SQLitePolicyEpoch.get_ok.mpr he
  have hepoch : (call.worker.service c).policyEpoch = epoch := by
    simp only [Worker.service, RequestAuthorizationService.policyEpoch, he, Option.getD_some]
  simp only [RequestAuthorizationService.revalidate, hepoch]
  rcases hn : call.request.normalized with e | d
  · simp [RevalidationCall.proceed, hn, bind, Except.bind]
  have hcalled : call.proceed c .called = .epochRead d epoch := by simp only [RevalidationCall.proceed, hn, hget]
  rw [hcalled]
  rcases hr : resolve c.registry (some call.binding.authenticationRef) with e | _ | p
  · simp [RevalidationCall.proceed, hr, Worker.service, bind, Except.bind]
  · simp [RevalidationCall.proceed, hr, Worker.service, falseOn, pure, Except.pure]
  · simp [RevalidationCall.proceed, hr, Worker.service]

/-! ## What an answer rests on -/

/-- Since `base` the reference has resolved to the principal. -/
def ResolvedSince (base : ControlPlane) (a : Option String) (p : AuthenticatedPrincipal) : Prop :=
  ∃ c, base ≤ c ∧ resolve c.registry a = .ok (some p)

/-- Since `base` the policy epoch has been the principal's. -/
def CurrentSince (base : ControlPlane) (p : AuthenticatedPrincipal) : Prop :=
  ∃ c, base ≤ c ∧ c.policyEpoch.row = some p.policyEpoch

namespace WorkerTask

omit [Runtime] in
/-- The task was answered with an ALLOW, or with `True`. -/
def Granted : WorkerTask → Prop
  | .evaluation _ (.answered (.ok ev)) => ev.allowed = true
  | .revalidation _ (.answered (.ok valid)) => valid = true
  | _ => False

omit [Runtime] in
/-- The binding that was returned, or that was revalidated. -/
def binding : WorkerTask → Option RequestAuthorizationBinding
  | .evaluation _ (.answered (.ok ev)) => ev.binding
  | .evaluation _ _ => none
  | .revalidation call _ => some call.binding

omit [Runtime] in
/-- The reference that the task resolves. -/
def authenticationRef : WorkerTask → Option String
  | .evaluation call _ => call.authenticationRef
  | .revalidation call _ => some call.binding.authenticationRef

/-- The binding was built for a principal who since `base` has been resolved and
current. -/
def BuiltSince (base : ControlPlane) (a : Option String) (b : RequestAuthorizationBinding) : Prop :=
  ∃ operation request issuedAt p, RequestAuthorizationService.buildBinding operation request p issuedAt = .ok b ∧
    ResolvedSince base a p ∧ CurrentSince base p

/-- All that a task has read, it has read since `base`. -/
def ReadSince (base : ControlPlane) : WorkerTask → Prop
  | .evaluation call phase =>
    match phase with
    | .called => True
    | .resolved p => ResolvedSince base call.authenticationRef p
    | .screened p => ResolvedSince base call.authenticationRef p ∧ CurrentSince base p
    | .bound b => BuiltSince base call.authenticationRef b
    | .answered outcome => ∀ ev, outcome = .ok ev → ev.allowed = true →
        ∃ b, ev.binding = some b ∧ BuiltSince base call.authenticationRef b
  | .revalidation call phase =>
    match phase with
    | .called => True
    | .epochRead _ epoch => ∃ c, base ≤ c ∧ c.policyEpoch.row = some epoch
    | .answered outcome => outcome = .ok true → BuiltSince base (some call.binding.authenticationRef) call.binding

theorem readSince_fresh (base : ControlPlane) (call : WorkerCall) : (fresh call).ReadSince base := by
  cases call <;> trivial

/-- An answer that is no ALLOW rests on nothing. -/
theorem readSince_denied {base : ControlPlane} {call : EvaluationCall} {outcome : Except Exc AuthorizationEvaluation}
    (h : ∀ ev, outcome = .ok ev → ev.allowed = false) :
    (evaluation call (.answered outcome)).ReadSince base := by
  intro ev hev hallowed
  rw [h ev hev] at hallowed
  cases hallowed

theorem readSince_caught {base : ControlPlane} {call : EvaluationCall} {e : Exc} :
    (evaluation call (.answered (RequestAuthorizationService.denyCaught e))).ReadSince base :=
  readSince_denied fun _ h => RequestAuthorizationService.denyCaught_allowed h

/-- Each transaction reads what is there since `base`. -/
theorem ReadSince.proceed {base c : ControlPlane} (hc : base ≤ c) {clock : Rat} {t : WorkerTask} (h : t.ReadSince base) :
    (t.proceed c clock).2.ReadSince base := by
  cases t with
  | evaluation call phase =>
    simp only [WorkerTask.proceed]
    cases phase with
    | called =>
      rw [EvaluationCall.proceed]
      split
      · exact readSince_caught
      · split
        · exact readSince_caught
        · exact readSince_denied fun ev hev => by cases hev; rfl
        · rename_i p hp
          exact ⟨c, hc, hp⟩
    | resolved p =>
      rw [EvaluationCall.proceed]
      split
      · exact readSince_caught
      · rename_i epoch hepoch
        split
        · exact readSince_caught
        · exact readSince_denied fun ev hev => by cases hev; rfl
        · rename_i q hq
          obtain ⟨rfl, hvalid, -⟩ := RequestAuthorizationService.screenPrincipal_ok.mp hq
          refine ⟨h, c, hc, ?_⟩
          rw [(AuthenticatedPrincipal.isValid_true hvalid).2.1]
          exact SQLitePolicyEpoch.get_ok.mp hepoch
    | screened p =>
      rw [EvaluationCall.proceed]
      dsimp only
      split
      · exact readSince_denied fun ev hev => by cases hev; rfl
      · split
        · exact readSince_caught
        · rename_i b hb
          exact ⟨_, _, _, p, hb, h⟩
    | bound b =>
      rw [EvaluationCall.proceed]
      split
      · exact readSince_caught
      · exact readSince_denied fun ev hev => by cases hev; rfl
      · exact fun ev hev _ => ⟨b, by cases hev; rfl, h⟩
    | answered outcome => exact h
  | revalidation call phase =>
    simp only [WorkerTask.proceed]
    have hfalse : ∀ e : Exc, falseOn Exc.isTypeValueOrKeyError (.error e) ≠ .ok true := fun e he => by
      rw [falseOn_true] at he
      cases he
    cases phase with
    | called =>
      rw [RevalidationCall.proceed]
      split
      · exact fun he => absurd he (hfalse _)
      · split
        · exact fun he => absurd he (hfalse _)
        · rename_i epoch hepoch
          exact ⟨c, hc, SQLitePolicyEpoch.get_ok.mp hepoch⟩
    | epochRead normalized epoch =>
      rw [RevalidationCall.proceed]
      split
      · exact fun he => absurd he (hfalse _)
      · exact fun he => by cases he
      · rename_i p hp
        intro he
        obtain ⟨⟨hvalid, -⟩, -, hb, -⟩ := RequestAuthorizationService.revalidatePrincipal_ok.mp (falseOn_true.mp he)
        obtain ⟨c', hc', hepoch⟩ := h
        refine ⟨_, _, _, p, hb, ⟨c, hc, hp⟩, c', hc', ?_⟩
        rw [(AuthenticatedPrincipal.isValid_true hvalid).2.1, hepoch]
    | answered outcome => exact h

theorem ReadSince.of_granted {base : ControlPlane} {t : WorkerTask} (h : t.ReadSince base) (hg : t.Granted) :
    ∃ b, t.binding = some b ∧ BuiltSince base t.authenticationRef b := by
  unfold Granted at hg
  split at hg
  · exact h _ rfl hg
  · exact ⟨_, rfl, h (hg ▸ rfl)⟩
  · cases hg

end WorkerTask

/-! ## Withdrawals -/

/-- The principal registered under the reference was revoked, or the policy
epoch has passed its own. -/
def ControlPlane.Withdrawn (c : ControlPlane) (authenticationRef : String) : Prop :=
  ∃ row, c.registry.row authenticationRef = some row ∧
    (row.revokedAt.isSome ∨ ∃ epoch, c.policyEpoch.row = some epoch ∧ row.payload.policyEpoch < epoch)

omit [Runtime] in
/-- What has become of the epoch since. -/
theorem CurrentSince.le {base : ControlPlane} {p : AuthenticatedPrincipal} (h : CurrentSince base p) {epoch : Int}
    (he : base.policyEpoch.row = some epoch) : epoch ≤ p.policyEpoch := by
  obtain ⟨c, hc, hepoch⟩ := h
  obtain ⟨epoch', he', hle⟩ := hc.epoch epoch he
  rwa [Option.some.inj (he'.symm.trans hepoch)] at hle

/-- What has become of a row since. -/
theorem ResolvedSince.row {base : ControlPlane} {authenticationRef : String} {p : AuthenticatedPrincipal}
    (h : ResolvedSince base (some authenticationRef) p) {row : PrincipalRow}
    (hrow : base.registry.row authenticationRef = some row) :
    row.revokedAt = none ∧ p.policyEpoch = row.payload.policyEpoch := by
  obtain ⟨c, hc, hresolve⟩ := h
  obtain ⟨row', hrow', hpayload, hrevoked⟩ := hc.rows authenticationRef row hrow
  rw [resolve] at hresolve
  split at hresolve
  · cases hresolve
  · obtain ⟨r, hr, hnone, -, hepoch⟩ := SQLiteAuthenticationRegistry.principalOfRow_some hresolve
    obtain rfl : row' = r := Option.some.inj (hrow'.symm.trans hr)
    refine ⟨Option.not_isSome_iff_eq_none.mp fun hsome => ?_, by rw [hepoch, hpayload]⟩
    have := hrevoked hsome
    rw [hnone] at this
    cases this

/-- From any state of the workers: the epoch does not decrease, the bumps that
commit return higher and higher epochs, and no call that comes later grants a
binding to a principal whose epoch has passed, nor anything for a reference
whose principal is withdrawn. -/
theorem withdrawal_holds (base : Workers) (ops : List (Interleaving.Op WorkerCall Transaction Rat)) :
    (∀ epoch, base.shared.policyEpoch.row = some epoch →
      ∃ epoch', (Machine.run Workers.step base ops).shared.policyEpoch.row = some epoch' ∧ epoch ≤ epoch') ∧
    (∃ returned, (Machine.run Workers.step base ops).shared.bumped = base.shared.bumped ++ returned ∧
      returned.Pairwise (· < ·)) ∧
    ∀ t ∈ (Machine.run Workers.step base ops).since base, t.Granted → ∃ b, t.binding = some b ∧
      (∀ epoch, base.shared.policyEpoch.row = some epoch → ∀ operation request p issuedAt,
        RequestAuthorizationService.buildBinding operation request p issuedAt = .ok b → ¬ p.policyEpoch < epoch) ∧
      ∀ authenticationRef, base.shared.Withdrawn authenticationRef → t.authenticationRef ≠ some authenticationRef := by
  obtain ⟨hlater, -⟩ := Interleaving.run_le WorkerTask.fresh ControlPlane.act (fun c clock t => t.proceed c clock)
    ControlPlane.le_act WorkerTask.le_proceed base ops
  refine ⟨hlater.epoch, ?_, fun t ht hg => ?_⟩
  · obtain ⟨more, hmore, hsorted, -⟩ := hlater.bumps
    exact ⟨more, hmore, hsorted⟩
  · have hread := Interleaving.since_invariant WorkerTask.fresh ControlPlane.act (fun c clock t => t.proceed c clock)
      ControlPlane.le_act WorkerTask.le_proceed (WorkerTask.ReadSince base.shared) base
      (WorkerTask.readSince_fresh base.shared) (fun c clock t hc h => h.proceed hc) ops t ht
    obtain ⟨b, hb, _, _, _, q, hq, hresolved, hcurrent⟩ := hread.of_granted hg
    refine ⟨b, hb, fun epoch he operation request p issuedAt hp => ?_, fun authenticationRef ⟨row, hrow, hwithdrawn⟩ href => ?_⟩
    · -- both principals have the epoch of the binding
      have hepoch : p.policyEpoch = q.policyEpoch :=
        (RequestAuthorizationService.buildBinding_issued hp).principal.2.2.1.symm.trans
          (RequestAuthorizationService.buildBinding_issued hq).principal.2.2.1
      exact not_lt.mpr (hepoch ▸ hcurrent.le he)
    · rw [href] at hresolved
      obtain ⟨hnone, hepoch⟩ := hresolved.row hrow
      rcases hwithdrawn with hrevoked | ⟨epoch, he, hlt⟩
      · rw [hnone] at hrevoked
        cases hrevoked
      · exact absurd (hcurrent.le he) (not_le.mpr (hepoch ▸ hlt))

end

/-! ## A registered principal -/

section

variable [Runtime]

theorem exists_attestation : ∃ a, TrustZoneAttestation.issue a.principalRef a.zoneId a.issuerRef a.evidenceRefs
        a.issuedAt a.validUntil a.status = .ok a ∧ a.principalRef = "principal://example" ∧
        a.issuedAt = "2026-01-01T00:00:00Z" ∧ a.validUntil = "2026-12-31T00:00:00Z" ∧ a.status = ACTIVE ∧
        a.attestationId ≠ "" := by
  have hissue : ∃ id fingerprint, id ≠ "" ∧ TrustZoneAttestation.issue "principal://example" "local" "issuer://local"
      ["evidence://example"] "2026-01-01T00:00:00Z" "2026-12-31T00:00:00Z" = .ok ⟨id, "principal://example", "local",
        "issuer://local", ["evidence://example"], "2026-01-01T00:00:00Z", "2026-12-31T00:00:00Z", ACTIVE, fingerprint⟩ := by
    simp only [TrustZoneAttestation.issue, sortedSet_singleton, validInterval_example, pyNot, pyOr, raiseIfM, raiseIf,
      Except.map, Except.bind]
    exact ⟨_, _, by simp, rfl⟩
  obtain ⟨id, fingerprint, hid, hissue⟩ := hissue
  exact ⟨⟨id, "principal://example", "local", "issuer://local", ["evidence://example"], "2026-01-01T00:00:00Z",
    "2026-12-31T00:00:00Z", ACTIVE, fingerprint⟩, hissue, rfl, rfl, rfl, rfl, hid⟩

/-- A principal that the registry gives back as it was registered. -/
theorem exists_registered : ∃ p, p.authenticationRef = "auth://example" ∧ p.policyEpoch = 0 ∧
    principalFromPayload p = .ok p ∧ p.isValid "2026-01-01T00:00:00Z" 0 = .ok true ∧ p.Chained ∧
    p.allowedProjects = ["project"] ∧ p.allowedOperations = [READ_OPERATION] ∧ p.allowedPurposes = ["provider_call"] ∧
    p.validUntil = "2026-12-31T00:00:00Z" := by
  obtain ⟨a, hissue, hprincipal, hissued, huntil, hstatus, hid⟩ := exists_attestation
  have hverified : ∃ fingerprint, AuthenticatedPrincipal.verified "auth://example" "principal://example" "service"
      "service://example" a ["project"] [READ_OPERATION] ["provider_call"] "policy://local" "local-policy-0.1" 0
      "2026-01-01T00:00:00Z" "2026-12-31T00:00:00Z" = .ok ⟨"auth://example", "principal://example", "service",
        "service://example", none, none, a, ["project"], [READ_OPERATION], ["provider_call"], [], "policy://local",
        "local-policy-0.1", 0, "2026-01-01T00:00:00Z", "2026-12-31T00:00:00Z", ACTIVE, fingerprint⟩ := by
    simp only [AuthenticatedPrincipal.verified, sortedSet_singleton, sortedSet_nil, validInterval_example, hprincipal, pyNot,
      raiseIfM, raiseIf, Except.map, Except.bind]
    exact ⟨_, rfl⟩
  obtain ⟨fingerprint, hverified⟩ := hverified
  refine ⟨⟨"auth://example", "principal://example", "service", "service://example", none, none, a, ["project"],
    [READ_OPERATION], ["provider_call"], [], "policy://local", "local-policy-0.1", 0, "2026-01-01T00:00:00Z",
    "2026-12-31T00:00:00Z", ACTIVE, fingerprint⟩, rfl, rfl, ?_, ?_, ⟨?_, hid, ?_⟩, rfl, rfl, rfl, rfl⟩
  · simp only [principalFromPayload, hissue, ok_bind, bne_self_eq_false, raiseIf, Bool.false_eq_true, ↓reduceIte, hverified]
    rfl
  · simp [AuthenticatedPrincipal.isValid, ACTIVE, validInterval_example, pyAnd, Except.bind, TrustZoneAttestation.isValid,
      hprincipal, hissued, huntil, hstatus]
  · simp
  · simp

omit [Runtime] in
/-- The principal, and the same one withdrawn under another reference. -/
def exampleWorkers (p : AuthenticatedPrincipal) : Workers where
  shared := {
    registry := ⟨[⟨"auth://example", p.fingerprint, p, none⟩, ⟨"auth://revoked", p.fingerprint, p, some 0⟩]⟩
    policyEpoch := ⟨some 0⟩ }

omit [Runtime] in
def exampleEvaluationCall : EvaluationCall where
  worker := {}
  request := exampleQuery "request"
  authenticationRef := some "auth://example"
  current := "2026-01-01T00:00:00Z"

/-- An evaluation that runs through is granted. -/
theorem exampleWorkers_grants : ∃ p t, t ∈ (Machine.run Workers.step (exampleWorkers p)
      [.start (.evaluate exampleEvaluationCall), .proceed 0 0, .proceed 0 0, .proceed 0 0, .proceed 0 0]).since
        (exampleWorkers p) ∧ t.Granted ∧ t.authenticationRef = some "auth://example" := by
  obtain ⟨p, href, hepoch, hpayload, hvalid, hchained, hprojects, hoperations, hpurposes, huntil⟩ := exists_registered
  let c : ControlPlane := (exampleWorkers p).shared
  let s := exampleEvaluationCall.worker.service c
  have hresolve : resolve s.registry (some "auth://example") = .ok (some p) := by
    simp [resolve, s, c, Worker.service, exampleWorkers, RegistryPort.lookup, SQLiteAuthenticationRegistry.row,
      SQLiteAuthenticationRegistry.principalOfRow, hpayload]
  have hid : "request" ≠ "" := by decide
  have hscreen : s.screen (exampleQuery "request") (some "auth://example") "2026-01-01T00:00:00Z" = .ok (.ok p) :=
    RequestAuthorizationService.screen_ok.mpr ⟨⟨_, exampleQuery_normalized hid⟩, hresolve, hvalid,
      by rw [hprojects]; exact List.mem_singleton.mpr rfl, by rw [hoperations]; exact List.mem_singleton.mpr rfl,
      by rw [hpurposes]; exact List.mem_singleton.mpr rfl⟩
  obtain ⟨b, hb⟩ := RequestAuthorizationService.buildBinding_of_chained hchained
    (by simp [exampleQuery]) ⟨_, exampleQuery_normalized hid⟩ (by rw [hprojects]; exact List.mem_singleton.mpr rfl)
    "2026-01-01T00:00:00Z"
  have hadmits : s.Admits (exampleQuery "request") (some "auth://example") "2026-01-01T00:00:00Z" 0 p b
      ⟨[("request", b.fingerprint, 63934272000000000)]⟩ := by
    refine ⟨hscreen, ?_, hb, ?_⟩
    · have hopen : ¬ (60 : Rat) ≤ 0 := by decide
      simp [RatePort.consume, s, c, Worker.service, exampleWorkers, exampleEvaluationCall, hopen]
    · rw [(RequestAuthorizationService.buildBinding_issued hb).validity.2, huntil]
      exact (SQLiteReplayGuard.consume_eq parseTime_exampleNow parseTime_exampleUntil).trans rfl
  have halone := exampleEvaluationCall.alone_eq c 0 (show c.policyEpoch.row = some 0 from rfl)
  rw [show exampleEvaluationCall.request = exampleQuery "request" from rfl,
    show exampleEvaluationCall.authenticationRef = some "auth://example" from rfl,
    show exampleEvaluationCall.current = "2026-01-01T00:00:00Z" from rfl,
    RequestAuthorizationService.evaluate_of_admits hadmits] at halone
  refine ⟨p, .evaluation exampleEvaluationCall (exampleEvaluationCall.alone c 0).2, List.mem_singleton.mpr rfl, ?_, rfl⟩
  rw [halone]
  rfl

end

theorem withdrawal_holds_example :
    letI := asciiRuntime
    ∃ p t b, t ∈ (Machine.run Workers.step (exampleWorkers p)
        [.start (.evaluate exampleEvaluationCall), .proceed 0 0, .proceed 0 0, .proceed 0 0, .proceed 0 0]).since
          (exampleWorkers p) ∧ t.binding = some b ∧ t.authenticationRef ≠ some "auth://revoked" := by
  let := asciiRuntime
  obtain ⟨p, t, ht, hg, -⟩ := exampleWorkers_grants
  obtain ⟨b, hb, -, hwithdrawn⟩ := (withdrawal_holds (exampleWorkers p) _).2.2 t ht hg
  exact ⟨p, t, b, ht, hb, hwithdrawn "auth://revoked" ⟨⟨"auth://revoked", p.fingerprint, p, some 0⟩, rfl, .inl rfl⟩⟩

end Pmiri
