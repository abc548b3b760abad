import Mathlib.Algebra.Order.Ring.Rat
import Pmiri.ControlPlane.Tables
import Pmiri.FixedWindow

/-!
# Rate limits

Both limiters keep fixed windows, one in memory and one in a table. A call of
`consume` is one step, under the lock of the one and in a transaction of the
other, so the calls of several workers come one after the other.
-/

namespace Pmiri

open FixedWindow

namespace FixedWindowRateLimiter

theorem lookup_setWindow_self (windows : List (String × Rat × Nat)) (key : String) (window : Rat × Nat) :
    (setWindow windows key window).lookup key = some window := by
  rw [setWindow, List.lookup_cons_self]

theorem lookup_setWindow_of_ne (windows : List (String × Rat × Nat)) {key key' : String} (h : key' ≠ key) (window : Rat × Nat) :
    (setWindow windows key window).lookup key' = windows.lookup key' := by
  have hcons : ∀ (v : Rat × Nat) rest, List.lookup key' ((key, v) :: rest) = rest.lookup key' := fun v rest => by
    rw [List.lookup_cons, beq_false_of_ne h]
  rw [setWindow, hcons]
  induction windows with
  | nil => rfl
  | cons w windows ih =>
    obtain ⟨k, v⟩ := w
    by_cases hw : k = key
    · rw [List.filter_cons_of_neg (by simp [hw]), ih, hw, hcons]
    · rw [List.filter_cons_of_pos (by simp [hw]), List.lookup_cons, List.lookup_cons, ih]

end FixedWindowRateLimiter

/-! ## The limiters keep fixed windows -/

/-- The windows that a list of rows stores. -/
def storedWindows (rows : List (String × Rat × Nat)) (key : String) : Option (Window Rat) :=
  (rows.lookup key).map fun w => ⟨w.1, w.2⟩

theorem storedWindows_setWindow (rows : List (String × Rat × Nat)) (key : String) (start : Rat) (count : Nat) :
    storedWindows (FixedWindowRateLimiter.setWindow rows key (start, count)) =
      Function.update (storedWindows rows) key (some ⟨start, count⟩) := by
  funext key'
  by_cases h : key' = key
  · subst h
    rw [storedWindows, FixedWindowRateLimiter.lookup_setWindow_self, Function.update_self, Option.map_some]
  · rw [storedWindows, FixedWindowRateLimiter.lookup_setWindow_of_ne _ h, Function.update_of_ne h, storedWindows]

/-- The window of a call, from the row of its key. -/
theorem roll_storedWindows (width : Rat) (rows : List (String × Rat × Nat)) (key : String) (now : Rat) :
    Window.roll width (storedWindows rows key) now =
      let (start, count) := (rows.lookup key).getD (now, 0)
      let (start, count) := if width ≤ now - start then (now, 0) else (start, count)
      ⟨start, count⟩ := by
  rw [storedWindows]
  cases rows.lookup key with
  | none => simp only [Option.map_none, Option.getD_none, Window.roll, ite_self]
  | some w =>
    simp only [Option.map_some, Option.getD_some, Window.roll]
    split <;> rfl

/-- A limiter with these limits that stores the windows. -/
def FixedWindowRateLimiter.Stores (maxRequests windowSeconds : Nat) (l : FixedWindowRateLimiter)
    (windows : String → Option (Window Rat)) : Prop :=
  l.maxRequests = maxRequests ∧ l.windowSeconds = windowSeconds ∧ windows = storedWindows l.windows

def SQLiteRateLimiter.Stores (maxRequests windowSeconds : Nat) (l : SQLiteRateLimiter)
    (windows : String → Option (Window Rat)) : Prop :=
  l.maxRequests = maxRequests ∧ l.windowSeconds = windowSeconds ∧ windows = storedWindows l.rows

theorem FixedWindowRateLimiter.simulates (maxRequests windowSeconds : Nat) :
    Simulates (RatePort.consume (ρ := FixedWindowRateLimiter)) (consume (windowSeconds : Rat) maxRequests)
      (Stores maxRequests windowSeconds) := by
  rintro l windows key now ⟨rfl, rfl, rfl⟩
  have hroll : Window.roll (l.windowSeconds : Rat) (storedWindows l.windows key) now = ⟨(l.window key now).1, (l.window key now).2⟩ := by
    rw [roll_storedWindows]
    rfl
  simp only [RatePort.consume, consume, hroll, Window.answer, Window.counted]
  split <;> rename_i hcount
  · refine ⟨(decide_eq_false (not_lt.mpr hcount)).symm, rfl, rfl, ?_⟩
    rw [if_neg (not_lt.mpr hcount), storedWindows_setWindow]
  · refine ⟨(decide_eq_true (not_le.mp hcount)).symm, rfl, rfl, ?_⟩
    rw [if_pos (not_le.mp hcount), storedWindows_setWindow]

theorem SQLiteRateLimiter.simulates (maxRequests windowSeconds : Nat) :
    Simulates (RatePort.consume (ρ := SQLiteRateLimiter)) (consume (windowSeconds : Rat) maxRequests)
      (Stores maxRequests windowSeconds) := by
  rintro l windows key now ⟨rfl, rfl, rfl⟩
  simp only [RatePort.consume, consume, roll_storedWindows, Window.answer, Window.counted, decide_eq_true_eq]
  exact ⟨trivial, rfl, rfl, (storedWindows_setWindow _ _ _ _).symm⟩

/-! ## What they guarantee -/

/-- In memory or in a table, in every interval of the length of a window at most
twice the limit is accepted under a key, and up to the next window start at most
the limit; calls under other keys have no part in that, and both limiters answer
alike. Keys are text: one with a lone surrogate, which the database does not take,
is left out. -/
theorem rateLimiters_limit (maxRequests windowSeconds : Nat) :
    Limits (windowSeconds : Rat) maxRequests RatePort.consume (fun l key => (l.windows.lookup key).map Prod.fst)
        ({ maxRequests, windowSeconds } : FixedWindowRateLimiter) ∧
      Limits (windowSeconds : Rat) maxRequests RatePort.consume (fun l key => (l.rows.lookup key).map Prod.fst)
        ({ maxRequests, windowSeconds } : SQLiteRateLimiter) ∧
      ∀ calls, log RatePort.consume ({ maxRequests, windowSeconds } : FixedWindowRateLimiter) calls =
        log RatePort.consume ({ maxRequests, windowSeconds } : SQLiteRateLimiter) calls := by
  have hstarts : ∀ rows : List (String × Rat × Nat),
      (fun key => (rows.lookup key).map Prod.fst) = starts (storedWindows rows) := fun rows => by
    funext key
    simp [starts, storedWindows, Function.comp_def]
  have hlimits : Limits (windowSeconds : Rat) maxRequests (consume (windowSeconds : Rat) maxRequests) starts
      (storedWindows []) := limits (storedWindows [])
  refine ⟨?_, ?_, fun calls => ?_⟩
  · refine (FixedWindowRateLimiter.simulates maxRequests windowSeconds).limits _ _ ?_ ⟨rfl, rfl, rfl⟩ hlimits
    rintro l windows ⟨-, -, rfl⟩
    exact hstarts _
  · refine (SQLiteRateLimiter.simulates maxRequests windowSeconds).limits _ _ ?_ ⟨rfl, rfl, rfl⟩ hlimits
    rintro l windows ⟨-, -, rfl⟩
    exact hstarts _
  · rw [(FixedWindowRateLimiter.simulates maxRequests windowSeconds).log_eq ⟨rfl, rfl, rfl⟩,
      (SQLiteRateLimiter.simulates maxRequests windowSeconds).log_eq ⟨rfl, rfl, rfl⟩]

example : (log RatePort.consume ({ maxRequests := 2 } : SQLiteRateLimiter)
    [⟨"principal:op", 100⟩, ⟨"principal:op", 101⟩, ⟨"principal:op", 102⟩, ⟨"principal:op", 161⟩]).map Prod.snd =
      [true, true, false, true] := by decide +kernel

end Pmiri
