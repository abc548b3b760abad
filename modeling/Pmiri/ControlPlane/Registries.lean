import Pmiri.ControlPlane.Payloads
import Pmiri.ControlPlane.Withdrawal
import Pmiri.Runs

/-!
# The registry in the database and the one in memory

The table `authenticated_principals` holds the payloads of principals as JSON
text. It takes and refuses the registrations that the registry of one process
takes and refuses, and resolves the principals that one resolves, unless two of
them have one fingerprint.
-/

namespace Pmiri

open Py

/-! ## The table -/

/-- A row of `authenticated_principals`: of the text in `payload_json` what is
read from it, if it is JSON. -/
structure StoredRow where
  authenticationRef : String
  principalFingerprint : String
  payloadJson : Option Val
  revokedAt : Option Rat := none

structure PrincipalTable where
  rows : List StoredRow := []

/-- `UPDATE … SET revoked_at=? WHERE authentication_ref=? AND revoked_at IS NULL` -/
def StoredRow.revoked (authenticationRef : String) (time : Rat) (row : StoredRow) : StoredRow :=
  if row.authenticationRef == authenticationRef && row.revokedAt.isNone then { row with revokedAt := some time } else row

namespace PrincipalTable

def row (t : PrincipalTable) (authenticationRef : String) : Option StoredRow :=
  t.rows.find? fun row => row.authenticationRef == authenticationRef

def register (t : PrincipalTable) (p : AuthenticatedPrincipal) : Except Exc PrincipalTable :=
  match t.row p.authenticationRef with
  | some row =>
    if row.principalFingerprint != p.fingerprint then .error (requestAuthorizationError "authentication_reference_rebound")
    else if row.revokedAt.isSome then .error (requestAuthorizationError "principal_revoked")
    else .ok t
  | none => .ok ⟨t.rows ++ [{
      authenticationRef := p.authenticationRef
      principalFingerprint := p.fingerprint
      payloadJson := some (principalPayload p).toVal.sortKeys }]⟩

def revoke (t : PrincipalTable) (authenticationRef : String) (time : Rat) : PrincipalTable :=
  ⟨t.rows.map (StoredRow.revoked authenticationRef time)⟩

variable [Runtime]

/-- The principal of a row that was found. -/
def principalOfRow (row : StoredRow) : Except Exc (Option StoredPrincipal) :=
  if row.revokedAt.isSome then .ok none
  else
    match row.payloadJson with
    | none => .ok none
    | some payload =>
      match StoredPrincipal.fromPayload payload with
      | .ok p => .ok (some p)
      | .error e => if e.isTypeValueOrKeyError then .ok none else .error e

def resolve (t : PrincipalTable) (authenticationRef : Option String) : Except Exc (Option StoredPrincipal) :=
  match authenticationRef with
  | none => .ok none
  | some authenticationRef =>
    if authenticationRef = "" then .ok none
    else
      match t.row authenticationRef with
      | none => .ok none
      | some row => principalOfRow row

end PrincipalTable

/-! ## Rows that hold principals -/

def PrincipalRow.stored (row : PrincipalRow) : StoredRow where
  authenticationRef := row.authenticationRef
  principalFingerprint := row.principalFingerprint
  payloadJson := some (principalPayload row.payload).toVal.sortKeys
  revokedAt := row.revokedAt

namespace SQLiteAuthenticationRegistry

/-- The table behind a registry whose rows are kept as the principals they were made of. -/
def stored (r : SQLiteAuthenticationRegistry) : PrincipalTable := ⟨r.rows.map PrincipalRow.stored⟩

theorem row_stored (r : SQLiteAuthenticationRegistry) (authenticationRef : String) :
    r.stored.row authenticationRef = (r.row authenticationRef).map PrincipalRow.stored := by
  rw [PrincipalTable.row, SQLiteAuthenticationRegistry.row, stored, List.find?_map]
  rfl

/-- The table resolves what the registry resolves. -/
theorem resolve_stored [Runtime] (r : SQLiteAuthenticationRegistry) (authenticationRef : Option String) :
    r.stored.resolve authenticationRef = (resolve r authenticationRef).map (Option.map AuthenticatedPrincipal.stored) := by
  cases authenticationRef with
  | none => rfl
  | some a =>
    simp only [PrincipalTable.resolve, resolve, row_stored]
    split
    · rfl
    · simp only [RegistryPort.lookup, principalOfRow]
      cases r.row a with
      | none => rfl
      | some row =>
        simp only [Option.map_some, PrincipalTable.principalOfRow, PrincipalRow.stored, fromPayload_principalPayload]
        split
        · rfl
        · cases principalFromPayload row.payload with
          | ok p => rfl
          | error e =>
            simp only [Except.map]
            split <;> rfl

end SQLiteAuthenticationRegistry

/-! ## Calls -/

/-- A call of either registry. -/
inductive RegistryCall where
  | register (p : AuthenticatedPrincipal)
  | resolve (authenticationRef : Option String)

/-- What a call answers. -/
inductive RegistryAnswer where
  | registered (outcome : Except Exc Unit)
  | resolved (outcome : Except Exc (Option StoredPrincipal))

/-- Whether a registration was accepted, and with which error it was rejected. -/
def RegistryAnswer.registration : RegistryAnswer → Option (Except Exc Unit)
  | .registered outcome => some outcome
  | .resolved _ => none

/-- A registration that is rejected leaves the registry as it is. -/
def answerOf {σ : Type} (s : σ) : Except Exc σ → RegistryAnswer × σ
  | .ok s' => (.registered (.ok ()), s')
  | .error e => (.registered (.error e), s)

def PrincipalTable.call [Runtime] (t : PrincipalTable) : RegistryCall → RegistryAnswer × PrincipalTable
  | .register p => answerOf t (t.register p)
  | .resolve authenticationRef => (.resolved (t.resolve authenticationRef), t)

def AuthenticationRegistry.call (r : AuthenticationRegistry) : RegistryCall → RegistryAnswer × AuthenticationRegistry
  | .register p => answerOf r (r.register p)
  | .resolve authenticationRef => (.resolved ((Pmiri.resolve r authenticationRef).map (Option.map AuthenticatedPrincipal.stored)), r)

/-! ## Both registries -/

theorem AuthenticationRegistry.lookup_register {r r' : AuthenticationRegistry} {p : AuthenticatedPrincipal}
    (h : r.register p = .ok r') (authenticationRef : String) :
    r'.principals.lookup authenticationRef =
      if authenticationRef = p.authenticationRef then some p else r.principals.lookup authenticationRef := by
  unfold AuthenticationRegistry.register at h
  split at h
  · split at h
    · cases h
    · obtain rfl := Except.ok.inj h
      rw [lookup_cons_ite, Dict.lookup_filter (p := fun k => k != p.authenticationRef)]
      split
      · rfl
      · rename_i hne
        rw [if_pos (by simpa using hne)]
  · obtain rfl := Except.ok.inj h
    rw [lookup_cons_ite]

/-- Under each reference there is a principal in both registries or in neither.
The two have one fingerprint. -/
structure Matching (registered : AuthenticatedPrincipal → Prop) (t : PrincipalTable) (r : AuthenticationRegistry) : Prop where
  absent : ∀ authenticationRef, t.row authenticationRef = none ↔ r.principals.lookup authenticationRef = none
  present : ∀ {authenticationRef row p}, t.row authenticationRef = some row → r.principals.lookup authenticationRef = some p →
    registered p ∧ row.revokedAt = none ∧ row.principalFingerprint = p.fingerprint ∧
      ∃ q, registered q ∧ q.fingerprint = p.fingerprint ∧ row.payloadJson = some (principalPayload q).toVal.sortKeys

theorem matching_empty {registered : AuthenticatedPrincipal → Prop} : Matching registered {} ⟨[]⟩ :=
  ⟨fun _ => iff_of_true rfl rfl, fun h => nomatch h⟩

theorem PrincipalTable.row_append (t : PrincipalTable) (row : StoredRow) (authenticationRef : String) :
    (PrincipalTable.mk (t.rows ++ [row])).row authenticationRef =
      (t.row authenticationRef).or (if row.authenticationRef = authenticationRef then some row else none) := by
  rw [PrincipalTable.row, PrincipalTable.row, List.find?_append]
  congr 1
  by_cases h : row.authenticationRef = authenticationRef <;> simp [h]

/-- Both registries accept a registration and match again, or both reject it with one error. -/
theorem Matching.register {registered : AuthenticatedPrincipal → Prop} {t : PrincipalTable} {r : AuthenticationRegistry}
    (h : Matching registered t r) {p : AuthenticatedPrincipal} (hp : registered p) :
    (answerOf t (t.register p)).1 = (answerOf r (r.register p)).1 ∧
      Matching registered (answerOf t (t.register p)).2 (answerOf r (r.register p)).2 := by
  rcases hrow : t.row p.authenticationRef with _ | row
  · have hlookup := (h.absent _).mp hrow
    obtain ⟨r', hr⟩ : ∃ r', r.register p = .ok r' := by
      rw [AuthenticationRegistry.register, hlookup]
      exact ⟨_, rfl⟩
    have hlookup' := AuthenticationRegistry.lookup_register hr
    rw [hr, PrincipalTable.register, hrow]
    refine ⟨rfl, ⟨fun a => ?_, fun {a row q} hrow' hq => ?_⟩⟩
    · simp only [answerOf, PrincipalTable.row_append, hlookup', Option.or_eq_none_iff, h.absent a]
      by_cases ha : a = p.authenticationRef
      · simp [ha]
      · simp [ha, Ne.symm ha]
    · simp only [answerOf, PrincipalTable.row_append, hlookup'] at hrow' hq
      by_cases ha : a = p.authenticationRef
      · subst ha
        rw [hrow, Option.none_or, if_pos rfl] at hrow'
        rw [if_pos rfl] at hq
        obtain rfl := Option.some.inj hrow'
        obtain rfl := Option.some.inj hq
        exact ⟨hp, rfl, rfl, p, hp, rfl, rfl⟩
      · rw [if_neg (Ne.symm ha), Option.or_none] at hrow'
        rw [if_neg ha] at hq
        exact h.present hrow' hq
  · obtain ⟨existing, hexisting⟩ : ∃ existing, r.principals.lookup p.authenticationRef = some existing := by
      refine Option.ne_none_iff_exists'.mp fun hnone => ?_
      rw [(h.absent _).mpr hnone] at hrow
      cases hrow
    obtain ⟨hregistered, hrevoked, hfingerprint, q, hq, hqf, hpayload⟩ := h.present hrow hexisting
    by_cases hsame : existing.fingerprint = p.fingerprint
    · obtain ⟨r', hr⟩ : ∃ r', r.register p = .ok r' := by
        rw [AuthenticationRegistry.register, hexisting]
        exact ⟨_, if_neg (by simp [hsame])⟩
      have hlookup' := AuthenticationRegistry.lookup_register hr
      have ht : t.register p = .ok t := by
        simp [PrincipalTable.register, hrow, hfingerprint, hsame, hrevoked]
      rw [hr, ht]
      refine ⟨rfl, ⟨fun a => ?_, fun {a row' q'} hrow' hq' => ?_⟩⟩
      · simp only [answerOf, hlookup', h.absent a]
        split
        · rename_i ha
          simp [ha, hexisting]
        · rfl
      · simp only [answerOf, hlookup'] at hrow' hq'
        split at hq'
        · rename_i ha
          subst ha
          obtain rfl := Option.some.inj hq'
          obtain rfl := Option.some.inj (hrow.symm.trans hrow')
          exact ⟨hp, hrevoked, hfingerprint.trans hsame, q, hq, hqf.trans hsame, hpayload⟩
        · exact h.present hrow' hq'
    · have hr : r.register p = .error (requestAuthorizationError "authentication_reference_rebound") := by
        simp [AuthenticationRegistry.register, hexisting, hsame]
      have ht : t.register p = .error (requestAuthorizationError "authentication_reference_rebound") := by
        simp [PrincipalTable.register, hrow, hfingerprint, hsame]
      rw [hr, ht]
      exact ⟨rfl, h⟩

section

variable [Runtime]

/-- Both registries resolve one principal, if the fingerprint of a genuine principal tells which it is. -/
theorem Matching.resolve {registered : AuthenticatedPrincipal → Prop} {t : PrincipalTable} {r : AuthenticationRegistry}
    (h : Matching registered t r) (hgenuine : ∀ p, registered p → p.Genuine)
    (hdistinguished : ∀ p q, registered p → registered q → Distinguished p.stored q.stored) (authenticationRef : Option String) :
    t.resolve authenticationRef = (Pmiri.resolve r authenticationRef).map (Option.map AuthenticatedPrincipal.stored) := by
  cases authenticationRef with
  | none => rfl
  | some a =>
    simp only [PrincipalTable.resolve, Pmiri.resolve, RegistryPort.lookup]
    split
    · rfl
    · rcases hrow : t.row a with _ | row
      · rw [(h.absent a).mp hrow]
        rfl
      · obtain ⟨p, hp⟩ : ∃ p, r.principals.lookup a = some p := by
          refine Option.ne_none_iff_exists'.mp fun hnone => ?_
          rw [(h.absent a).mpr hnone] at hrow
          cases hrow
        obtain ⟨hregistered, hrevoked, -, q, hq, hfingerprint, hpayload⟩ := h.present hrow hp
        have hfrom := (hgenuine q hq).fromPayload
        have hsame : q.stored = p.stored := StoredPrincipal.eq_of_fingerprint hfrom (hgenuine p hregistered)
          (q.printed_stored fun _ => 0) (hdistinguished q p hq hregistered) (congrArg Val.str hfingerprint)
        simp only [hp, PrincipalTable.principalOfRow, hrevoked, Option.isSome_none, Bool.false_eq_true, ↓reduceIte, hpayload, hfrom,
          hsame]
        rfl

/-- A genuine principal is read back from its payload as it was stored. Over any
calls with genuine principals the registry in the database and the one in memory
accept and reject the same registrations; they resolve the same principals, unless
the payloads of two of these principals, or of their attestations, collide. -/
theorem registries_agree :
    (∀ p : AuthenticatedPrincipal, p.Genuine → StoredPrincipal.fromPayload (principalPayload p).toVal.sortKeys = .ok p.stored) ∧
    ∀ calls : List RegistryCall, (∀ p, .register p ∈ calls → p.Genuine) →
      (Machine.outputs PrincipalTable.call {} calls).map RegistryAnswer.registration =
        (Machine.outputs AuthenticationRegistry.call ⟨[]⟩ calls).map RegistryAnswer.registration ∧
      ((∀ p q, .register p ∈ calls → .register q ∈ calls → Distinguished p.stored q.stored) →
        Machine.outputs PrincipalTable.call {} calls = Machine.outputs AuthenticationRegistry.call ⟨[]⟩ calls) := by
  refine ⟨fun p hp => hp.fromPayload, fun calls hgenuine => ⟨?_, fun hdistinguished => ?_⟩⟩
  · refine Machine.outputs_eq_of_simulation (Matching fun p => .register p ∈ calls) (fun op => op ∈ calls)
      (fun t r call h hcall => ?_) matching_empty fun _ hop => hop
    cases call with
    | register p => exact ⟨congrArg _ (h.register hcall).1, (h.register hcall).2⟩
    | resolve authenticationRef => exact ⟨rfl, h⟩
  · rw [← List.map_id (Machine.outputs PrincipalTable.call _ _), ← List.map_id (Machine.outputs AuthenticationRegistry.call _ _)]
    refine Machine.outputs_eq_of_simulation (Matching fun p => .register p ∈ calls) (fun op => op ∈ calls)
      (fun t r call h hcall => ?_) matching_empty fun _ hop => hop
    cases call with
    | register p => exact h.register hcall
    | resolve authenticationRef => exact ⟨congrArg RegistryAnswer.resolved (h.resolve hgenuine hdistinguished _), h⟩

/-! ## Two principals with one fingerprint -/

/-- There is a principal with any policy version. -/
theorem exists_genuine (policyVersion : String) (h : policyVersion ≠ "") :
    ∃ p : AuthenticatedPrincipal, p.Genuine ∧ p.authenticationRef = "auth://example" ∧ p.policyVersion = policyVersion := by
  obtain ⟨a, hissue, hprincipal, -⟩ := exists_attestation
  have hverified : ∃ p, AuthenticatedPrincipal.verified "auth://example" "principal://example" "service" "service://example" a
      ["project"] [READ_OPERATION] ["local_read"] "policy://local" policyVersion 0 "2026-01-01T00:00:00Z" "2026-12-31T00:00:00Z" =
      .ok p ∧ p.authenticationRef = "auth://example" ∧ p.policyVersion = policyVersion ∧ p.trustZoneAttestation = a := by
    simp only [AuthenticatedPrincipal.verified, sortedSet_singleton, sortedSet_nil, validInterval_example, hprincipal, pyNot,
      raiseIfM, raiseIf, Except.map, Except.bind, List.all_cons, bne_iff_ne.mpr h]
    exact ⟨_, rfl, rfl, rfl, rfl⟩
  obtain ⟨p, hp, href, hversion, hattestation⟩ := hverified
  exact ⟨p, ⟨⟨_, _, _, _, _, _, _, hattestation ▸ hissue⟩, ⟨_, _, _, _, _, _, _, _, _, _, _, _, _, _, _, _, hattestation ▸ hp⟩⟩, href,
    hversion⟩

theorem exists_same_fingerprint : ∃ p q : AuthenticatedPrincipal, p.Genuine ∧ q.Genuine ∧ p ≠ q ∧ p.fingerprint = q.fingerprint ∧
    p.authenticationRef = "auth://example" ∧ q.authenticationRef = "auth://example" := by
  have hversion (n : Nat) : String.ofList (List.replicate (n + 1) 'v') ≠ "" := fun h => by
    have := congrArg String.toList h
    rw [String.toList_ofList] at this
    cases this
  choose p hp href hpolicy using fun n : Nat => exists_genuine _ (hversion n)
  obtain ⟨m, n, hne, hsame⟩ := exists_sha256Json_eq fun n => (p n).stored.payload.toVal
  refine ⟨p m, p n, hp m, hp n, fun heq => hne ?_, ?_, href m, href n⟩
  · have hlists := String.ofList_injective ((hpolicy m).symm.trans ((congrArg AuthenticatedPrincipal.policyVersion heq).trans (hpolicy n)))
    simpa using congrArg List.length hlists
  · have hfingerprint (k : Nat) := (StoredPrincipal.fingerprinted_of_fromPayload (hp k).fromPayload).1
    exact Val.str.inj ((hfingerprint m).trans ((congrArg Val.str hsame).trans (hfingerprint n).symm))

/-- Where two principals have one fingerprint the registries resolve different ones. -/
theorem exists_different_answers : ∃ calls : List RegistryCall, (∀ p, .register p ∈ calls → p.Genuine) ∧
    Machine.outputs PrincipalTable.call {} calls ≠ Machine.outputs AuthenticationRegistry.call ⟨[]⟩ calls := by
  obtain ⟨p, q, hp, hq, hne, hfingerprint, hpref, hqref⟩ := exists_same_fingerprint
  refine ⟨[.register p, .register q, .resolve (some "auth://example")], fun r hr => ?_, fun h => ?_⟩
  · simp only [List.mem_cons, RegistryCall.register.injEq, reduceCtorEq, List.not_mem_nil, or_false] at hr
    rcases hr with rfl | rfl
    exacts [hp, hq]
  · -- the table keeps the first of the two, the registry in memory the second
    let row : StoredRow := ⟨p.authenticationRef, p.fingerprint, some (principalPayload p).toVal.sortKeys, none⟩
    have hrow : (PrincipalTable.mk [row]).row "auth://example" = some row := by
      simp [PrincipalTable.row, row, hpref]
    have htable : PrincipalTable.register ⟨[row]⟩ q = .ok ⟨[row]⟩ := by
      rw [PrincipalTable.register, hqref, hrow]
      simp [row, hfingerprint]
    have hmemory : AuthenticationRegistry.register ⟨[(p.authenticationRef, p)]⟩ q = .ok ⟨[(q.authenticationRef, q)]⟩ := by
      simp [AuthenticationRegistry.register, hpref, hqref, hfingerprint]
    have hresolved : PrincipalTable.resolve ⟨[row]⟩ (some "auth://example") = .ok (some p.stored) := by
      simp [PrincipalTable.resolve, hrow, PrincipalTable.principalOfRow, row, hp.fromPayload]
    simp only [Machine.outputs, PrincipalTable.call, AuthenticationRegistry.call] at h
    rw [show PrincipalTable.register {} p = .ok ⟨[row]⟩ from rfl,
      show AuthenticationRegistry.register ⟨[]⟩ p = .ok ⟨[(p.authenticationRef, p)]⟩ from rfl] at h
    simp only [answerOf, htable, hmemory, hresolved] at h
    simp [Pmiri.resolve, RegistryPort.lookup, hqref, Except.map] at h
    exact hne (AuthenticatedPrincipal.stored_inj h)

end

/-- The registries need not resolve the same principals: SHA-256 gives two genuine ones one fingerprint. -/
theorem registries_differ :
    letI := asciiRuntime
    ¬ ((∀ p : AuthenticatedPrincipal, p.Genuine → StoredPrincipal.fromPayload (principalPayload p).toVal.sortKeys = .ok p.stored) ∧
      ∀ calls : List RegistryCall, (∀ p, .register p ∈ calls → p.Genuine) →
        Machine.outputs PrincipalTable.call {} calls = Machine.outputs AuthenticationRegistry.call ⟨[]⟩ calls) := by
  let := asciiRuntime
  rintro ⟨-, h⟩
  obtain ⟨calls, hgenuine, hne⟩ := exists_different_answers
  exact hne (h calls hgenuine)

/-- A principal that is registered twice. -/
theorem registries_agree_example :
    letI := asciiRuntime
    ∃ p : AuthenticatedPrincipal, p.authenticationRef = "auth://example" ∧
      StoredPrincipal.fromPayload (principalPayload p).toVal.sortKeys = .ok p.stored ∧
      Machine.outputs PrincipalTable.call {} [.register p, .register p, .resolve (some "auth://example")] =
        Machine.outputs AuthenticationRegistry.call ⟨[]⟩ [.register p, .register p, .resolve (some "auth://example")] := by
  let := asciiRuntime
  obtain ⟨p, hp, href, -⟩ := exists_genuine "local-policy-0.1" (by decide)
  have hregistered (q : AuthenticatedPrincipal)
      (hq : .register q ∈ [RegistryCall.register p, .register p, .resolve (some "auth://example")]) : q = p := by
    simp only [List.mem_cons, RegistryCall.register.injEq, reduceCtorEq, List.not_mem_nil, or_false] at hq
    exact hq.elim id id
  obtain ⟨hround, hagree⟩ := registries_agree
  obtain ⟨-, hsame⟩ := hagree [.register p, .register p, .resolve (some "auth://example")] fun q hq => hregistered q hq ▸ hp
  refine ⟨p, href, hround p hp, hsame fun q q' hq hq' => ?_⟩
  rw [hregistered q hq, hregistered q' hq']
  exact distinguished_self p.stored

end Pmiri
