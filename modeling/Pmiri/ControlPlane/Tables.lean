import Pmiri.RequestAuth.Service

/-!
# The tables of the control plane

`control_plane.py`: the registry of principals, the rate limiter and the policy
epoch that workers share in one SQLite database. Each function is one
transaction on its table.
-/

namespace Pmiri

open Py

/-! ## Principals -/

/-- A row of `authenticated_principals`. The JSON text of the payload is kept
as the principal it was made of. -/
structure PrincipalRow where
  authenticationRef : String
  principalFingerprint : String
  payload : AuthenticatedPrincipal
  revokedAt : Option Rat := none

/-- `UPDATE … SET revoked_at=? WHERE authentication_ref=? AND revoked_at IS NULL` -/
def PrincipalRow.revoked (authenticationRef : String) (time : Rat) (row : PrincipalRow) : PrincipalRow :=
  if row.authenticationRef == authenticationRef && row.revokedAt.isNone then { row with revokedAt := some time } else row

/-- `_principal_from_payload`: a stored principal is issued and verified anew. -/
def principalFromPayload [Runtime] (payload : AuthenticatedPrincipal) : Except Exc AuthenticatedPrincipal := do
  let attestation := payload.trustZoneAttestation
  let expected ← TrustZoneAttestation.issue attestation.principalRef attestation.zoneId attestation.issuerRef
    attestation.evidenceRefs attestation.issuedAt attestation.validUntil attestation.status
  raiseIf (expected != attestation) (requestAuthorizationError "stored_attestation_fingerprint_mismatch")
  let principal ← AuthenticatedPrincipal.verified payload.authenticationRef payload.principalRef payload.principalType
    payload.servicePrincipalRef attestation payload.allowedProjects payload.allowedOperations payload.allowedPurposes
    payload.policyBundleRef payload.policyVersion payload.policyEpoch payload.issuedAt payload.validUntil
    payload.workloadPrincipalRef payload.humanPrincipalRef payload.delegationGrantRefs payload.status
  raiseIf (principal.fingerprint != payload.fingerprint)
    (requestAuthorizationError "stored_principal_fingerprint_mismatch")
  return principal

/-- A principal that is verified has the reference and the epoch it was given. -/
theorem principalFromPayload_ok [Runtime] {payload p : AuthenticatedPrincipal} (h : principalFromPayload payload = .ok p) :
    p.authenticationRef = payload.authenticationRef ∧ p.policyEpoch = payload.policyEpoch := by
  obtain ⟨expected, -, h⟩ := bind_ok.mp h
  obtain ⟨-, h⟩ := seq_ok.mp h
  obtain ⟨principal, hp, h⟩ := bind_ok.mp h
  obtain ⟨-, h⟩ := seq_ok.mp h
  obtain rfl : principal = p := Except.ok.inj h
  simp only [AuthenticatedPrincipal.verified, seq_ok] at hp
  obtain ⟨-, -, -, -, -, hp⟩ := hp
  obtain rfl := Except.ok.inj hp
  exact ⟨rfl, rfl⟩

/-- The table `authenticated_principals`, keyed by the authentication reference. -/
structure SQLiteAuthenticationRegistry where
  rows : List PrincipalRow := []

namespace SQLiteAuthenticationRegistry

def row (r : SQLiteAuthenticationRegistry) (authenticationRef : String) : Option PrincipalRow :=
  r.rows.find? fun row => row.authenticationRef == authenticationRef

def register (r : SQLiteAuthenticationRegistry) (p : AuthenticatedPrincipal) : Except Exc SQLiteAuthenticationRegistry :=
  match r.row p.authenticationRef with
  | some row =>
    if row.principalFingerprint != p.fingerprint then .error (requestAuthorizationError "authentication_reference_rebound")
    else if row.revokedAt.isSome then .error (requestAuthorizationError "principal_revoked")
    else .ok r
  | none => .ok ⟨r.rows ++ [{ authenticationRef := p.authenticationRef, principalFingerprint := p.fingerprint, payload := p }]⟩

/-- `revoke`, which answers if a row was changed. -/
def revoke (r : SQLiteAuthenticationRegistry) (authenticationRef : String) (time : Rat) : Bool × SQLiteAuthenticationRegistry :=
  ((r.row authenticationRef).any (·.revokedAt.isNone), ⟨r.rows.map (PrincipalRow.revoked authenticationRef time)⟩)

section

variable [Runtime]

/-- The rest of `resolve`, for the row that was found. -/
def principalOfRow (row : Option PrincipalRow) : Except Exc (Option AuthenticatedPrincipal) :=
  match row with
  | none => .ok none
  | some row =>
    if row.revokedAt.isSome then .ok none
    else
      match principalFromPayload row.payload with
      | .ok p => .ok (some p)
      | .error e => if e.isTypeValueOrKeyError then .ok none else .error e

theorem principalOfRow_some {row : Option PrincipalRow} {p : AuthenticatedPrincipal} (h : principalOfRow row = .ok (some p)) :
    ∃ r, row = some r ∧ r.revokedAt = none ∧ p.authenticationRef = r.payload.authenticationRef ∧
      p.policyEpoch = r.payload.policyEpoch := by
  unfold principalOfRow at h
  split at h
  · cases h
  · rename_i r
    split at h
    · cases h
    · rename_i hrevoked
      split at h
      · rename_i hp
        cases h
        exact ⟨r, rfl, by simpa using hrevoked, principalFromPayload_ok hp⟩
      · split at h <;> cases h

/-- The rows that registrations and revocations lead to. -/
inductive Reachable : SQLiteAuthenticationRegistry → Prop
  | fresh : Reachable {}
  | register {r r' p} : Reachable r → r.register p = .ok r' → Reachable r'
  | revoke {r a time} : Reachable r → Reachable (r.revoke a time).2

omit [Runtime] in
theorem Reachable.keyed {r : SQLiteAuthenticationRegistry} (h : r.Reachable) :
    ∀ row ∈ r.rows, row.authenticationRef = row.payload.authenticationRef := by
  induction h with
  | fresh => exact fun row hrow => nomatch hrow
  | @register r r' p _ hr ih =>
    intro row hrow
    unfold SQLiteAuthenticationRegistry.register at hr
    split at hr
    · split at hr
      · cases hr
      · split at hr <;> cases hr
        exact ih row hrow
    · cases hr
      rcases List.mem_append.mp hrow with hrow | hrow
      · exact ih row hrow
      · rw [List.mem_singleton.mp hrow]
  | @revoke r a time _ ih =>
    intro row hrow
    obtain ⟨row', hrow', rfl⟩ := List.mem_map.mp hrow
    unfold PrincipalRow.revoked
    split <;> exact ih row' hrow'

omit [Runtime] in
theorem authenticationRef_of_row {r : SQLiteAuthenticationRegistry} {authenticationRef : String} {row : PrincipalRow}
    (h : r.row authenticationRef = some row) : row ∈ r.rows ∧ row.authenticationRef = authenticationRef := by
  rw [SQLiteAuthenticationRegistry.row] at h
  exact ⟨List.mem_of_find?_eq_some h, by simpa using List.find?_some h⟩

instance : RegistryPort SQLiteAuthenticationRegistry where
  lookup r authenticationRef := principalOfRow (r.row authenticationRef)
  Reached := Reachable
  keyed {r authenticationRef p} hr h := by
    obtain ⟨row, hrow, -, href, -⟩ := principalOfRow_some h
    obtain ⟨hmem, hkey⟩ := authenticationRef_of_row hrow
    rw [href, ← hr.keyed row hmem, hkey]

end

/-- A registration leaves the rows there are as they are. -/
theorem row_register {r r' : SQLiteAuthenticationRegistry} {p : AuthenticatedPrincipal} (h : r.register p = .ok r')
    {authenticationRef : String} {row : PrincipalRow} (hrow : r.row authenticationRef = some row) :
    r'.row authenticationRef = some row := by
  unfold SQLiteAuthenticationRegistry.register at h
  split at h
  · split at h
    · cases h
    · split at h <;> cases h
      exact hrow
  · cases h
    rw [SQLiteAuthenticationRegistry.row] at hrow ⊢
    rw [List.find?_append, hrow, Option.some_or]

theorem row_revoke (r : SQLiteAuthenticationRegistry) (a authenticationRef : String) (time : Rat) :
    (r.revoke a time).2.row authenticationRef = (r.row authenticationRef).map (PrincipalRow.revoked a time) := by
  have hkey : ∀ row : PrincipalRow, (row.revoked a time).authenticationRef = row.authenticationRef := fun row => by
    unfold PrincipalRow.revoked
    split <;> rfl
  simp only [revoke, SQLiteAuthenticationRegistry.row, List.find?_map, Function.comp_def, hkey]

end SQLiteAuthenticationRegistry

/-! ## Rate limits -/

/-- A limiter over the table `rate_windows`. -/
structure SQLiteRateLimiter where
  maxRequests : Nat := 60
  windowSeconds : Nat := 60
  rows : List (String × Rat × Nat) := []

instance : RatePort SQLiteRateLimiter where
  consume l key current :=
    let (start, count) := (l.rows.lookup key).getD (current, 0)
    let (start, count) := if (l.windowSeconds : Rat) ≤ current - start then (current, 0) else (start, count)
    let allowed := decide (count < l.maxRequests)
    let count := if allowed then count + 1 else count
    (allowed, { l with rows := FixedWindowRateLimiter.setWindow l.rows key (start, count) })

/-! ## The policy epoch -/

/-- SQLite takes an integer of 64 bits, signed. -/
def sqliteInteger (n : Int) : Except Exc Int :=
  if -9223372036854775808 ≤ n ∧ n ≤ 9223372036854775807 then .ok n
  else .error (.overflowError "Python int too large to convert to SQLite INTEGER")

/-- The one row of `policy_epoch`, if there is one. -/
structure SQLitePolicyEpoch where
  row : Option Int := none

namespace SQLitePolicyEpoch

/-- `initialize` of a handle with this initial epoch. -/
def initialized (e : SQLitePolicyEpoch) (initialEpoch : Nat) : Except Exc SQLitePolicyEpoch := do
  let epoch ← sqliteInteger initialEpoch
  return ⟨some (e.row.getD epoch)⟩

def get (e : SQLitePolicyEpoch) : Except Exc Int :=
  match e.row with
  | none => .error (requestAuthorizationError "policy_epoch_uninitialized")
  | some epoch => .ok epoch

def advance (e : SQLitePolicyEpoch) (newEpoch : Int) : Except Exc SQLitePolicyEpoch := do
  raiseIf (decide (newEpoch < 0)) (valueError "policy_epoch_invalid")
  let current ← e.get
  raiseIf (decide (newEpoch < current)) (valueError "policy_epoch_cannot_move_backwards")
  return ⟨some (← sqliteInteger newEpoch)⟩

/-- `bump`: the next epoch. -/
def bump (e : SQLitePolicyEpoch) : Except Exc (Int × SQLitePolicyEpoch) := do
  let current ← e.get
  let nextEpoch ← sqliteInteger (current + 1)
  return (nextEpoch, ⟨some nextEpoch⟩)

theorem get_ok {e : SQLitePolicyEpoch} {epoch : Int} : e.get = .ok epoch ↔ e.row = some epoch := by
  unfold get
  split <;> rename_i h <;> simp [h]

theorem sqliteInteger_ok {n m : Int} (h : sqliteInteger n = .ok m) : m = n := by
  unfold sqliteInteger at h
  split at h <;> cases h
  rfl

theorem advance_ok {e e' : SQLitePolicyEpoch} {newEpoch : Int} (h : e.advance newEpoch = .ok e') :
    ∃ current, e.row = some current ∧ current ≤ newEpoch ∧ e'.row = some newEpoch := by
  obtain ⟨-, h⟩ := seq_ok.mp h
  obtain ⟨current, hcurrent, h⟩ := bind_ok.mp h
  obtain ⟨hle, h⟩ := seq_ok.mp h
  obtain ⟨n, hn, h⟩ := bind_ok.mp h
  obtain rfl := Except.ok.inj h
  rw [raiseIf_ok, decide_eq_false_iff_not, not_lt] at hle
  exact ⟨current, get_ok.mp hcurrent, hle, by rw [sqliteInteger_ok hn]⟩

theorem bump_ok {e e' : SQLitePolicyEpoch} {epoch : Int} (h : e.bump = .ok (epoch, e')) :
    ∃ current, e.row = some current ∧ epoch = current + 1 ∧ e'.row = some epoch := by
  obtain ⟨current, hcurrent, h⟩ := bind_ok.mp h
  obtain ⟨n, hn, h⟩ := bind_ok.mp h
  obtain ⟨rfl, rfl⟩ := Prod.mk.inj (Except.ok.inj h)
  exact ⟨current, get_ok.mp hcurrent, sqliteInteger_ok hn, rfl⟩

end SQLitePolicyEpoch

end Pmiri
