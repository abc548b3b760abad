import Pmiri.ControlPlane.Tables
import Pmiri.Interleaving

/-!
# Workers on one control plane

Registrations, revocations and changes of the policy epoch are one transaction
each. `evaluate` and `revalidate` of a worker are several, and between two of
them anything else may happen.
-/

namespace Pmiri

open Py

/-- The database, and the epochs that calls of `bump` have returned, in the
order they were committed in. -/
structure ControlPlane where
  registry : SQLiteAuthenticationRegistry := {}
  policyEpoch : SQLitePolicyEpoch := {}
  replays : SQLiteReplayGuard := {}
  windows : List (String × Rat × Nat) := []
  bumped : List Int := []

/-- The calls that are one transaction. -/
inductive Transaction
  | register (p : AuthenticatedPrincipal)
  | revoke (authenticationRef : String) (time : Rat)
  | initialized (initialEpoch : Nat)
  | advance (newEpoch : Int)
  | bump

/-- A transaction that raises is rolled back. -/
def ControlPlane.act (c : ControlPlane) : Transaction → ControlPlane
  | .register p =>
    match c.registry.register p with
    | .ok registry => { c with registry }
    | .error _ => c
  | .revoke authenticationRef time => { c with registry := (c.registry.revoke authenticationRef time).2 }
  | .initialized initialEpoch =>
    match c.policyEpoch.initialized initialEpoch with
    | .ok policyEpoch => { c with policyEpoch }
    | .error _ => c
  | .advance newEpoch =>
    match c.policyEpoch.advance newEpoch with
    | .ok policyEpoch => { c with policyEpoch }
    | .error _ => c
  | .bump =>
    match c.policyEpoch.bump with
    | .ok (epoch, policyEpoch) => { c with policyEpoch, bumped := c.bumped ++ [epoch] }
    | .error _ => c

/-! ## Time -/

/-- What a control plane may become: the epoch does not decrease, bumps return
higher and higher epochs, and a registered principal stays the one of its
reference, and revoked if it is. -/
structure ControlPlane.Later (a b : ControlPlane) : Prop where
  epoch : ∀ e, a.policyEpoch.row = some e → ∃ e', b.policyEpoch.row = some e' ∧ e ≤ e'
  bumps : ∃ more, b.bumped = a.bumped ++ more ∧ more.Pairwise (· < ·) ∧ ∀ n ∈ more,
    (∀ e, a.policyEpoch.row = some e → e < n) ∧ ∃ e', b.policyEpoch.row = some e' ∧ n ≤ e'
  rows : ∀ authenticationRef row, a.registry.row authenticationRef = some row → ∃ row',
    b.registry.row authenticationRef = some row' ∧ row'.payload = row.payload ∧ (row.revokedAt.isSome → row'.revokedAt.isSome)

namespace ControlPlane

/-- A transaction on the other tables. -/
theorem later_of_eq {a b : ControlPlane} (hr : b.registry = a.registry) (he : b.policyEpoch = a.policyEpoch)
    (hb : b.bumped = a.bumped) : Later a b := by
  refine ⟨fun e h => ⟨e, he ▸ h, le_rfl⟩, ⟨[], by rw [hb, List.append_nil], .nil, nofun⟩, fun ref row h => ⟨row, hr ▸ h, rfl, id⟩⟩

theorem Later.trans {a b c : ControlPlane} (h : Later a b) (h' : Later b c) : Later a c := by
  refine ⟨fun e he => ?_, ?_, fun ref row hrow => ?_⟩
  · obtain ⟨e', he', hle⟩ := h.epoch e he
    obtain ⟨e'', he'', hle'⟩ := h'.epoch e' he'
    exact ⟨e'', he'', hle.trans hle'⟩
  · obtain ⟨more, hmore, hsorted, hbounds⟩ := h.bumps
    obtain ⟨more', hmore', hsorted', hbounds'⟩ := h'.bumps
    refine ⟨more ++ more', by rw [hmore', hmore, List.append_assoc], ?_, fun n hn => ?_⟩
    · refine List.pairwise_append.mpr ⟨hsorted, hsorted', fun n hn m hm => ?_⟩
      obtain ⟨e, he, hle⟩ := (hbounds n hn).2
      exact hle.trans_lt ((hbounds' m hm).1 e he)
    · rcases List.mem_append.mp hn with hn | hn
      · obtain ⟨e, he, hle⟩ := (hbounds n hn).2
        obtain ⟨e', he', hle'⟩ := h'.epoch e he
        exact ⟨(hbounds n hn).1, e', he', hle.trans hle'⟩
      · refine ⟨fun e he => ?_, (hbounds' n hn).2⟩
        obtain ⟨e', he', hle⟩ := h.epoch e he
        exact hle.trans_lt ((hbounds' n hn).1 e' he')
  · obtain ⟨row', hrow', hpayload, hrevoked⟩ := h.rows ref row hrow
    obtain ⟨row'', hrow'', hpayload', hrevoked'⟩ := h'.rows ref row' hrow'
    exact ⟨row'', hrow'', hpayload'.trans hpayload, fun hr => hrevoked' (hrevoked hr)⟩

instance : Preorder ControlPlane where
  le := Later
  le_refl _ := later_of_eq rfl rfl rfl
  le_trans _ _ _ := Later.trans

/-- The rows keep their principals. -/
theorem later_registry {c : ControlPlane} {registry : SQLiteAuthenticationRegistry}
    (h : ∀ ref row, c.registry.row ref = some row → ∃ row', registry.row ref = some row' ∧ row'.payload = row.payload ∧
      (row.revokedAt.isSome → row'.revokedAt.isSome)) : c ≤ { c with registry } :=
  ⟨fun e he => ⟨e, he, le_rfl⟩, ⟨[], (List.append_nil _).symm, .nil, nofun⟩, h⟩

/-- The epoch moves on. -/
theorem later_policyEpoch {c : ControlPlane} {policyEpoch : SQLitePolicyEpoch}
    (h : ∀ e, c.policyEpoch.row = some e → ∃ e', policyEpoch.row = some e' ∧ e ≤ e') : c ≤ { c with policyEpoch } :=
  ⟨h, ⟨[], (List.append_nil _).symm, .nil, nofun⟩, fun _ row hrow => ⟨row, hrow, rfl, id⟩⟩

theorem le_act (c : ControlPlane) (t : Transaction) : c ≤ c.act t := by
  cases t with
  | register p =>
    simp only [act]
    split
    · rename_i registry hregister
      exact later_registry fun ref row hrow => ⟨row, SQLiteAuthenticationRegistry.row_register hregister hrow, rfl, id⟩
    · exact le_rfl
  | revoke authenticationRef time =>
    refine later_registry fun ref row hrow => ⟨row.revoked authenticationRef time, ?_, ?_, fun hr => ?_⟩
    · rw [SQLiteAuthenticationRegistry.row_revoke, hrow, Option.map_some]
    · unfold PrincipalRow.revoked
      split <;> rfl
    · unfold PrincipalRow.revoked
      split
      · rfl
      · exact hr
  | initialized initialEpoch =>
    simp only [act]
    split
    · rename_i policyEpoch hinitialized
      obtain ⟨epoch, -, h⟩ := bind_ok.mp hinitialized
      obtain rfl := Except.ok.inj h
      exact later_policyEpoch fun e he => ⟨e, by simp only [he, Option.getD_some], le_rfl⟩
    · exact le_rfl
  | advance newEpoch =>
    simp only [act]
    split
    · rename_i policyEpoch hadvance
      obtain ⟨current, hcurrent, hle, hnew⟩ := SQLitePolicyEpoch.advance_ok hadvance
      exact later_policyEpoch fun e he => ⟨newEpoch, hnew, Option.some.inj (hcurrent.symm.trans he) ▸ hle⟩
    · exact le_rfl
  | bump =>
    simp only [act]
    split
    · rename_i epoch policyEpoch hbump
      obtain ⟨current, hcurrent, hnext, hnew⟩ := SQLitePolicyEpoch.bump_ok hbump
      have hlt : ∀ e, c.policyEpoch.row = some e → e < epoch := fun e he => by
        obtain rfl : current = e := Option.some.inj (hcurrent.symm.trans he)
        omega
      refine ⟨fun e he => ⟨epoch, hnew, (hlt e he).le⟩, ⟨[epoch], rfl, List.pairwise_singleton _ _, fun n hn => ?_⟩,
        fun _ row hrow => ⟨row, hrow, rfl, id⟩⟩
      obtain rfl := List.mem_singleton.mp hn
      exact ⟨hlt, n, hnew, le_rfl⟩
    · exact le_rfl

end ControlPlane

/-! ## Tasks -/

/-- A worker: the operation of its service, and the limits of its limiter. -/
structure Worker where
  operation : String := READ_OPERATION
  maxRequests : Nat := 60
  windowSeconds : Nat := 60

structure EvaluationCall where
  worker : Worker
  request : QueryRequest
  authenticationRef : Option String
  current : String

structure RevalidationCall where
  worker : Worker
  request : QueryRequest
  binding : RequestAuthorizationBinding
  current : String

inductive WorkerCall
  | evaluate (call : EvaluationCall)
  | revalidate (call : RevalidationCall)

/-- How far an evaluation has come. -/
inductive EvaluationPhase
  | called
  | resolved (p : AuthenticatedPrincipal)
  | screened (p : AuthenticatedPrincipal)
  | bound (binding : RequestAuthorizationBinding)
  | answered (outcome : Except Exc AuthorizationEvaluation)

inductive RevalidationPhase
  | called
  | epochRead (normalized : Dict) (epoch : Int)
  | answered (outcome : Except Exc Bool)

inductive WorkerTask
  | evaluation (call : EvaluationCall) (phase : EvaluationPhase)
  | revalidation (call : RevalidationCall) (phase : RevalidationPhase)

def WorkerTask.fresh : WorkerCall → WorkerTask
  | .evaluate call => .evaluation call .called
  | .revalidate call => .revalidation call .called

section

variable [Runtime]

open RequestAuthorizationService in
/-- The next transaction of an evaluation; `clock` is the reading of the
limiter's clock. -/
def EvaluationCall.proceed (call : EvaluationCall) (c : ControlPlane) (clock : Rat) :
    EvaluationPhase → ControlPlane × EvaluationPhase
  | .called =>
    match call.request.normalized with
    | .error e => (c, .answered (denyCaught e))
    | .ok _ =>
      match resolve c.registry call.authenticationRef with
      | .error e => (c, .answered (denyCaught e))
      | .ok none => (c, .answered (.ok (.deny "AUTHENTICATION_UNKNOWN")))
      | .ok (some p) => (c, .resolved p)
  | .resolved p =>
    match c.policyEpoch.get with
    | .error e => (c, .answered (denyCaught e))
    | .ok epoch =>
      match screenPrincipal call.worker.operation call.request call.current epoch p with
      | .error e => (c, .answered (denyCaught e))
      | .ok (.error reason) => (c, .answered (.ok (.deny reason)))
      | .ok (.ok p) => (c, .screened p)
  | .screened p =>
    let limiter : SQLiteRateLimiter := ⟨call.worker.maxRequests, call.worker.windowSeconds, c.windows⟩
    let (admitted, limiter) := RatePort.consume limiter (p.principalRef ++ ":" ++ call.worker.operation) clock
    let c := { c with windows := limiter.rows }
    if !admitted then (c, .answered (.ok (.deny "RATE_LIMITED")))
    else
      match buildBinding call.worker.operation call.request p call.current with
      | .error e => (c, .answered (denyCaught e))
      | .ok binding => (c, .bound binding)
  | .bound binding =>
    match ReplayPort.consume c.replays call.request.requestId binding.fingerprint binding.validUntil call.current with
    | .error e => (c, .answered (denyCaught e))
    | .ok (false, replays) => ({ c with replays }, .answered (.ok (.deny "REQUEST_REPLAY")))
    | .ok (true, replays) => ({ c with replays }, .answered (.ok (.allow binding)))
  | .answered outcome => (c, .answered outcome)

open RequestAuthorizationService in
/-- The next transaction of a revalidation. -/
def RevalidationCall.proceed (call : RevalidationCall) (c : ControlPlane) : RevalidationPhase → RevalidationPhase
  | .called =>
    match call.request.normalized with
    | .error e => .answered (falseOn Exc.isTypeValueOrKeyError (.error e))
    | .ok normalized =>
      match c.policyEpoch.get with
      | .error e => .answered (falseOn Exc.isTypeValueOrKeyError (.error e))
      | .ok epoch => .epochRead normalized epoch
  | .epochRead normalized epoch =>
    match resolve c.registry (some call.binding.authenticationRef) with
    | .error e => .answered (falseOn Exc.isTypeValueOrKeyError (.error e))
    | .ok none => .answered (.ok false)
    | .ok (some p) =>
      .answered (falseOn Exc.isTypeValueOrKeyError
        (revalidatePrincipal call.worker.operation call.request call.binding call.current epoch normalized p))
  | .answered outcome => .answered outcome

namespace WorkerTask

def proceed (c : ControlPlane) (clock : Rat) : WorkerTask → ControlPlane × WorkerTask
  | .evaluation call phase => ((call.proceed c clock phase).1, .evaluation call (call.proceed c clock phase).2)
  | .revalidation call phase => (c, .revalidation call (call.proceed c phase))

/-- A task leaves the registry and the epoch as they are. -/
theorem le_proceed (c : ControlPlane) (clock : Rat) (t : WorkerTask) : c ≤ (t.proceed c clock).1 := by
  cases t with
  | revalidation call phase => exact le_rfl
  | evaluation call phase =>
    simp only [proceed]
    cases phase with
    | called => rw [EvaluationCall.proceed]; split <;> [skip; split] <;> exact le_rfl
    | resolved p => rw [EvaluationCall.proceed]; split <;> [skip; split] <;> exact le_rfl
    | screened p =>
      rw [EvaluationCall.proceed]
      dsimp only
      split <;> [skip; split] <;> exact ControlPlane.later_of_eq rfl rfl rfl
    | bound binding => rw [EvaluationCall.proceed]; split <;> exact ControlPlane.later_of_eq rfl rfl rfl
    | answered outcome => exact le_rfl

end WorkerTask

/-- Workers on a control plane. -/
abbrev Workers := Interleaving.State ControlPlane WorkerTask

def Workers.step : Workers → Interleaving.Op WorkerCall Transaction Rat → Workers :=
  Interleaving.step WorkerTask.fresh ControlPlane.act fun c clock t => t.proceed c clock

end

end Pmiri
