import Pmiri.RequestAuth.Principal

/-!
# Replay guards and rate limiters

`request_auth.py` and `control_plane.py`: what one `consume` call does to the
state of a replay guard and of a fixed-window rate limiter, in one process and
as a transaction on the shared database. Times are exact: an expiry is an
instant in microseconds, and a limiter's clock is a rational number of
seconds.
-/

namespace Pmiri

open Py

/-- What the authorization service asks of a replay guard. -/
class ReplayPort (γ : Type) where
  consume : γ → (requestId fingerprint expiresAt now : String) → Except Exc (Bool × γ)

/-- What the authorization service asks of a rate limiter. -/
class RatePort (ρ : Type) where
  consume : ρ → (key : String) → (now : Rat) → Bool × ρ

/-- 1970-01-01T00:00:00Z -/
def unixEpoch : Int := 62135596800000000

/-! ## Replay guards -/

/-- The accepted request ids with the fingerprint and the expiry of their
bindings, and the ids again in the order they were accepted in. -/
structure ReplayGuard where
  maxEntries : Nat := 100000
  seen : List (String × String × Int) := []
  order : List String := []
deriving DecidableEq

namespace ReplayGuard

def mk? (maxEntries : Nat) : Except Exc ReplayGuard :=
  if maxEntries < 1 then .error (valueError "replay_guard_capacity_invalid") else .ok { maxEntries }

/-- `self._seen.get(request_id, ("", 0.0))[1]` -/
def expiryOf (seen : List (String × String × Int)) (requestId : String) : Int :=
  ((seen.lookup requestId).map (·.2)).getD unixEpoch

/-- `self._seen.pop(request_id, None)` -/
def forget (seen : List (String × String × Int)) (requestId : String) : List (String × String × Int) :=
  seen.filter (·.1 != requestId)

/-- `while self._order and expiry(self._order[0]) <= now: …` -/
def purge (now : Int) (seen : List (String × String × Int)) :
    List String → List (String × String × Int) × List String
  | [] => (seen, [])
  | old :: order =>
    if expiryOf seen old ≤ now then purge now (forget seen old) order else (seen, old :: order)

/-- The guard after it has dropped the expired ids at the head of its queue. -/
def purged (g : ReplayGuard) (now : Int) : ReplayGuard :=
  { g with seen := (purge now g.seen g.order).1, order := (purge now g.seen g.order).2 }

/-- `consume` under the lock, at an instant. -/
def consumeAt (g : ReplayGuard) (requestId fingerprint : String) (expiry now : Int) :
    Except Exc (Bool × ReplayGuard) :=
  let g := g.purged now
  if (g.seen.lookup requestId).isSome then .ok (false, g)
  else
    if g.maxEntries ≤ g.seen.length then
      match g.order with
      | [] => .error (.lookupError "pop from an empty deque")
      | old :: order =>
        .ok (true, { g with
          seen := forget g.seen old ++ [(requestId, fingerprint, expiry)], order := order ++ [requestId] })
    else
      .ok (true, { g with seen := g.seen ++ [(requestId, fingerprint, expiry)], order := g.order ++ [requestId] })

instance : ReplayPort ReplayGuard where
  consume g requestId fingerprint expiresAt now := do
    let nowEpoch ← parseTime now
    let expiry ← parseTime expiresAt
    g.consumeAt requestId fingerprint expiry nowEpoch

end ReplayGuard

/-- The table `request_replays`. -/
structure SQLiteReplayGuard where
  rows : List (String × String × Int) := []
deriving DecidableEq

namespace SQLiteReplayGuard

/-- `DELETE FROM request_replays WHERE expires_at<=?` -/
def purged (g : SQLiteReplayGuard) (now : Int) : SQLiteReplayGuard := ⟨g.rows.filter fun r => !decide (r.2.2 ≤ now)⟩

/-- One `BEGIN IMMEDIATE` transaction. -/
def consumeAt (g : SQLiteReplayGuard) (requestId fingerprint : String) (expiry now : Int) :
    Bool × SQLiteReplayGuard :=
  let g := g.purged now
  if (g.rows.lookup requestId).isSome then (false, g) else (true, ⟨g.rows ++ [(requestId, fingerprint, expiry)]⟩)

instance : ReplayPort SQLiteReplayGuard where
  consume g requestId fingerprint expiresAt now := do
    let nowEpoch ← parseTime now
    let expiryEpoch ← parseTime expiresAt
    return g.consumeAt requestId fingerprint expiryEpoch nowEpoch

end SQLiteReplayGuard

/-- The guard admits the id. -/
def ReplayPort.Accepts {γ : Type} [ReplayPort γ] (guard : γ) (requestId expiresAt now : String) : Prop :=
  ∃ fingerprint after, ReplayPort.consume guard requestId fingerprint expiresAt now = .ok (true, after)

/-- A guard that looks at the ids alone. -/
class IdGuard (γ : Type) [ReplayPort γ] : Prop where
  blind : ∀ {guard : γ} {requestId fingerprint expiresAt now after},
    ReplayPort.consume guard requestId fingerprint expiresAt now = .ok (true, after) →
      ∀ fingerprint', ∃ after', ReplayPort.consume guard requestId fingerprint' expiresAt now = .ok (true, after')

instance : IdGuard ReplayGuard where
  blind {guard requestId fingerprint expiresAt now after} h fingerprint' := by
    obtain ⟨t, ht, h⟩ := bind_ok.mp h
    obtain ⟨expiry, hexpiry, h⟩ := bind_ok.mp h
    simp only [ReplayPort.consume, ht, hexpiry, ok_bind]
    simp only [ReplayGuard.consumeAt] at h ⊢
    split at h
    · cases h
    · rename_i hnew
      rw [if_neg hnew]
      split at h <;> rename_i hfull
      · rw [if_pos hfull]
        split at h
        · cases h
        · exact ⟨_, rfl⟩
      · rw [if_neg hfull]
        exact ⟨_, rfl⟩

instance : IdGuard SQLiteReplayGuard where
  blind {guard requestId fingerprint expiresAt now after} h fingerprint' := by
    obtain ⟨t, ht, h⟩ := bind_ok.mp h
    obtain ⟨expiry, hexpiry, h⟩ := bind_ok.mp h
    simp only [ReplayPort.consume, ht, hexpiry, ok_bind]
    simp only [SQLiteReplayGuard.consumeAt, pure, Except.pure, Except.ok.injEq] at h ⊢
    split at h
    · cases h
    · rename_i hnew
      rw [if_neg hnew]
      exact ⟨_, rfl⟩

/-! ## Rate limiters -/

/-- The current window of each key, its start and the calls accepted in it. -/
structure FixedWindowRateLimiter where
  maxRequests : Nat := 60
  windowSeconds : Nat := 60
  windows : List (String × Rat × Nat) := []
deriving DecidableEq

namespace FixedWindowRateLimiter

def setWindow (windows : List (String × Rat × Nat)) (key : String) (window : Rat × Nat) :
    List (String × Rat × Nat) :=
  (key, window) :: windows.filter (·.1 != key)

/-- The window a call at `now` falls into. -/
def window (l : FixedWindowRateLimiter) (key : String) (now : Rat) : Rat × Nat :=
  let (start, count) := (l.windows.lookup key).getD (now, 0)
  if (l.windowSeconds : Rat) ≤ now - start then (now, 0) else (start, count)

instance : RatePort FixedWindowRateLimiter where
  consume l key now :=
    let (start, count) := l.window key now
    if l.maxRequests ≤ count then (false, { l with windows := setWindow l.windows key (start, count) })
    else (true, { l with windows := setWindow l.windows key (start, count + 1) })

end FixedWindowRateLimiter

end Pmiri
