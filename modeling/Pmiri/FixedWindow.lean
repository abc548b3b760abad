import Mathlib.Algebra.Order.Group.Defs
import Mathlib.Data.List.Count
import Mathlib.Logic.Function.Basic
import Mathlib.Order.Basic
import Pmiri.Runs

/-!
# Fixed windows

A limiter answers calls under keys. With fixed windows, the first call of a key
starts a window, and so does every call that comes a width or more after the
start of the last one; in a window only so many calls are accepted. Two windows
start a width or more apart, so an interval of that length meets the calls of
at most two of them.
-/

namespace FixedWindow

structure Call (κ T : Type*) where
  key : κ
  now : T

variable {σ τ κ T : Type*}

/-! ## Limiters -/

section Limiters

variable (consume : σ → κ → T → Bool × σ)

def step (s : σ) (call : Call κ T) : σ := (consume s call.key call.now).2

/-- Each call of a run, with its answer. -/
def log : σ → List (Call κ T) → List (Call κ T × Bool)
  | _, [] => []
  | s, call :: calls => (call, (consume s call.key call.now).1) :: log (step consume s call) calls

@[simp] theorem log_nil (s : σ) : log consume s [] = [] := rfl

theorem log_cons (s : σ) (call : Call κ T) (calls : List (Call κ T)) :
    log consume s (call :: calls) = (call, (consume s call.key call.now).1) :: log consume (step consume s call) calls := rfl

theorem mem_of_mem_log {s : σ} {calls : List (Call κ T)} {e : Call κ T × Bool} (h : e ∈ log consume s calls) : e.1 ∈ calls := by
  induction calls generalizing s with
  | nil => exact absurd h List.not_mem_nil
  | cons call calls ih =>
    rw [log_cons] at h
    rcases List.mem_cons.mp h with rfl | h
    · exact List.mem_cons_self
    · exact List.mem_cons_of_mem _ (ih h)

/-- A limiter that answers as another does, in states that stay related. -/
def Simulates (consume' : τ → κ → T → Bool × τ) (Rel : σ → τ → Prop) : Prop :=
  ∀ s t key now, Rel s t →
    (consume s key now).1 = (consume' t key now).1 ∧ Rel (consume s key now).2 (consume' t key now).2

variable {consume} {consume' : τ → κ → T → Bool × τ} {Rel : σ → τ → Prop}

theorem Simulates.log_eq (h : Simulates consume consume' Rel) {s : σ} {t : τ} (hrel : Rel s t) (calls : List (Call κ T)) :
    log consume s calls = log consume' t calls := by
  induction calls generalizing s t with
  | nil => rfl
  | cons call calls ih =>
    obtain ⟨hanswer, hrel'⟩ := h s t call.key call.now hrel
    rw [log_cons, log_cons, hanswer, step, step, ih hrel']

theorem Simulates.run (h : Simulates consume consume' Rel) {s : σ} {t : τ} (hrel : Rel s t) (calls : List (Call κ T)) :
    Rel (Machine.run (step consume) s calls) (Machine.run (step consume') t calls) := by
  induction calls generalizing s t with
  | nil => exact hrel
  | cons call calls ih => exact ih (h s t call.key call.now hrel).2

/-- Conditions along a run of the one hold along the run of the other. -/
theorem Simulates.along (h : Simulates consume consume' Rel) {property : σ → Call κ T → Prop} {property' : τ → Call κ T → Prop}
    {s : σ} {t : τ} (hrel : Rel s t) (himp : ∀ s t call, Rel s t → property s call → property' t call) {calls : List (Call κ T)}
    (halong : Machine.Along (step consume) property s calls) : Machine.Along (step consume') property' t calls := by
  induction calls generalizing s t with
  | nil => trivial
  | cons call calls ih =>
    obtain ⟨hcall, halong⟩ := halong
    exact ⟨himp s t call hrel hcall, ih (h s t call.key call.now hrel).2 halong⟩

end Limiters

/-! ## What a limiter guarantees -/

section Limits

variable [DecidableEq κ] [AddCommGroup T] [LinearOrder T]
variable (width : T) (limit : Nat)

/-- How many calls under the key are accepted at a time with the property. -/
def accepted (consume : σ → κ → T → Bool × σ) (key : κ) (p : T → Prop) [DecidablePred p] (s : σ) (calls : List (Call κ T)) : Nat :=
  (log consume s calls).countP fun e => decide (e.1.key = key ∧ e.2 = true ∧ p e.1.now)

/-- A call that starts a window, where the last window of the key started at `start`. -/
def Starts (start : Option T) (now : T) : Prop := ∀ t ∈ start, width ≤ now - t

/-- What is guaranteed of all runs from a state. `start` is when the last window
of a key started, if there was one. -/
structure Limits (consume : σ → κ → T → Bool × σ) (start : σ → κ → Option T) (s : σ) : Prop where
  /-- In an interval of the width at most twice the limit is accepted, if the clock does not go back. -/
  interval : ∀ calls, calls.Pairwise (fun a b : Call κ T => a.now ≤ b.now) → ∀ key t,
    accepted consume key (fun now => t ≤ now ∧ now < t + width) s calls ≤ 2 * limit
  /-- Up to the next window start at most the limit is accepted. -/
  window : ∀ before call during key, Machine.Along (step consume)
      (fun s (c : Call κ T) => c.key = key → ¬ Starts width (start s key) c.now)
      (Machine.run (step consume) s (before ++ [call])) during →
    accepted consume key (fun _ => True) (Machine.run (step consume) s before) (call :: during) ≤ limit
  /-- The answers under a key are those that the calls under it get alone. -/
  independent : ∀ calls key, (log consume s calls).filter (fun e => decide (e.1.key = key)) =
    log consume s (calls.filter fun c => decide (c.key = key))

/-- A limiter that simulates another guarantees what that one does. -/
theorem Simulates.limits {consume : σ → κ → T → Bool × σ} {consume' : τ → κ → T → Bool × τ} {Rel : σ → τ → Prop}
    {start : σ → κ → Option T} {start' : τ → κ → Option T} (h : Simulates consume consume' Rel)
    (hstart : ∀ s t, Rel s t → start s = start' t) {s : σ} {t : τ} (hrel : Rel s t)
    (hlimits : Limits width limit consume' start' t) : Limits width limit consume start s where
  interval calls hsorted key time := by
    rw [accepted, h.log_eq hrel]
    exact hlimits.interval calls hsorted key time
  window before call during key hduring := by
    rw [accepted, h.log_eq (h.run hrel before)]
    refine hlimits.window before call during key ?_
    exact h.along (h.run hrel _) (fun s t c hst hc hkey => hstart s t hst ▸ hc hkey) hduring
  independent calls key := by
    rw [h.log_eq hrel, h.log_eq hrel]
    exact hlimits.independent calls key

/-! ## Windows -/

/-- A window, from its start, and how many calls were accepted in it. -/
structure Window (T : Type*) where
  start : T
  count : Nat

namespace Window

variable {width limit}

/-- The window that a call falls into: the last one, unless it is over. -/
def roll (width : T) (window : Option (Window T)) (now : T) : Window T :=
  match window with
  | none => ⟨now, 0⟩
  | some w => if width ≤ now - w.start then ⟨now, 0⟩ else w

def answer (limit : Nat) (w : Window T) : Bool := decide (w.count < limit)

/-- The window after the answer. -/
def counted (limit : Nat) (w : Window T) : Window T := ⟨w.start, if w.count < limit then w.count + 1 else w.count⟩

theorem roll_of_starts {window : Option (Window T)} {now : T} (h : Starts width (window.map start) now) :
    roll width window now = ⟨now, 0⟩ := by
  cases window with
  | none => rfl
  | some w => exact if_pos (h w.start rfl)

theorem roll_of_not_starts {window : Option (Window T)} {now : T} (h : ¬ Starts width (window.map start) now) :
    window = some (roll width window now) := by
  cases window with
  | none => exact absurd nofun h
  | some w =>
    have : ¬ width ≤ now - w.start := fun hle => h fun t ht => Option.some.inj ht ▸ hle
    rw [roll, if_neg this]

end Window

/-- The windows of all keys, and the answer to one more call. -/
def consume (windows : κ → Option (Window T)) (key : κ) (now : T) : Bool × (κ → Option (Window T)) :=
  let window := Window.roll width (windows key) now
  (window.answer limit, Function.update windows key (some (window.counted limit)))

/-- When the last window of each key started. -/
def starts (windows : κ → Option (Window T)) (key : κ) : Option T := (windows key).map Window.start

/-! ## The bounds -/

variable {width limit}

/-- How many more calls of a key its window accepts. -/
def room (limit : Nat) (window : Option (Window T)) : Nat := limit - (window.elim 0 Window.count)

omit [AddCommGroup T] [LinearOrder T] in
theorem room_le (limit : Nat) (window : Option (Window T)) : room limit window ≤ limit := Nat.sub_le _ _

omit [AddCommGroup T] [LinearOrder T] in
/-- An answer takes from the room what it accepts. -/
theorem room_counted (limit : Nat) (w : Window T) :
    (if w.answer limit = true then 1 else 0) + room limit (some (w.counted limit)) = room limit (some w) := by
  simp only [Window.answer, Window.counted, room, Option.elim_some, decide_eq_true_eq]
  split <;> omega

theorem step_of_ne {windows : κ → Option (Window T)} {call : Call κ T} {key : κ} (h : call.key ≠ key) :
    step (consume width limit) windows call key = windows key :=
  Function.update_of_ne (Ne.symm h) _ _

theorem step_self (windows : κ → Option (Window T)) (call : Call κ T) :
    step (consume width limit) windows call call.key = some ((Window.roll width (windows call.key) call.now).counted limit) :=
  Function.update_self _ _ _

/-- The answers under a key depend on the window and the calls of the key. -/
theorem log_key {key : κ} {windows windows' : κ → Option (Window T)} (h : windows key = windows' key) (calls : List (Call κ T)) :
    (log (consume width limit) windows calls).filter (fun e => decide (e.1.key = key)) =
      log (consume width limit) windows' (calls.filter fun c => decide (c.key = key)) := by
  induction calls generalizing windows windows' with
  | nil => rfl
  | cons call calls ih =>
    rw [log_cons]
    by_cases hkey : call.key = key
    · subst hkey
      rw [List.filter_cons_of_pos (by simp), List.filter_cons_of_pos (by simp), log_cons]
      have hstep : step (consume width limit) windows call call.key = step (consume width limit) windows' call call.key := by
        rw [step_self, step_self, h]
      rw [ih hstep]
      simp only [consume, h]
    · rw [List.filter_cons_of_neg (by simpa using hkey), List.filter_cons_of_neg (by simpa using hkey)]
      exact ih ((step_of_ne hkey).trans h)

section

variable {p : T → Prop} [DecidablePred p]

theorem accepted_cons_of_ne {windows : κ → Option (Window T)} {call : Call κ T} {key : κ} (h : call.key ≠ key)
    (calls : List (Call κ T)) : accepted (consume width limit) key p windows (call :: calls) =
      accepted (consume width limit) key p (step (consume width limit) windows call) calls := by
  rw [accepted, log_cons, List.countP_cons_of_neg (by simp [h]), accepted]

theorem accepted_cons_self (windows : κ → Option (Window T)) (call : Call κ T) (calls : List (Call κ T)) :
    accepted (consume width limit) call.key p windows (call :: calls) =
      accepted (consume width limit) call.key p (step (consume width limit) windows call) calls +
        if (Window.roll width (windows call.key) call.now).answer limit = true ∧ p call.now then 1 else 0 := by
  rw [accepted, log_cons, List.countP_cons, accepted]
  simp only [consume, true_and, decide_eq_true_eq]

/-- A call takes at most the room that it takes from its window. -/
theorem accepted_cons_le (windows : κ → Option (Window T)) (call : Call κ T) (calls : List (Call κ T)) {n : Nat}
    (h : accepted (consume width limit) call.key p (step (consume width limit) windows call) calls ≤
      room limit (step (consume width limit) windows call call.key) + n) :
    accepted (consume width limit) call.key p windows (call :: calls) ≤
      room limit (some (Window.roll width (windows call.key) call.now)) + n := by
  have hroom := room_counted limit (Window.roll width (windows call.key) call.now)
  rw [step_self] at h
  rw [accepted_cons_self]
  split <;> split at hroom <;> grind

theorem accepted_eq_zero {windows : κ → Option (Window T)} {calls : List (Call κ T)} {key : κ} (h : ∀ c ∈ calls, ¬ p c.now) :
    accepted (consume width limit) key p windows calls = 0 := by
  rw [accepted, List.countP_eq_zero]
  intro e he hp
  exact h e.1 (mem_of_mem_log _ he) (of_decide_eq_true hp).2.2

/-- As long as no call of the key starts a window, only what there is room for is accepted. -/
theorem accepted_le_room {key : κ} {windows : κ → Option (Window T)} {calls : List (Call κ T)}
    (h : Machine.Along (step (consume width limit))
      (fun s (c : Call κ T) => c.key = key → ¬ Starts width (starts s key) c.now) windows calls) :
    accepted (consume width limit) key p windows calls ≤ room limit (windows key) := by
  induction calls generalizing windows with
  | nil => exact Nat.zero_le _
  | cons call calls ih =>
    obtain ⟨hcall, h⟩ := h
    by_cases hkey : call.key = key
    · subst hkey
      rw [Window.roll_of_not_starts (hcall rfl)]
      exact accepted_cons_le windows call calls (n := 0) (ih h)
    · have hle := ih h
      rwa [step_of_ne hkey, ← accepted_cons_of_ne hkey] at hle

section

variable [IsOrderedAddMonoid T] {calls : List (Call κ T)} (hsorted : calls.Pairwise fun a b => a.now ≤ b.now)

include hsorted

/-- Before a window is over, only what there is room for is accepted. -/
theorem accepted_in_window {key : κ} {windows : κ → Option (Window T)} {w : Window T} (hw : windows key = some w)
    (hp : ∀ now, p now → now < w.start + width) :
    accepted (consume width limit) key p windows calls ≤ room limit (some w) := by
  induction calls generalizing windows w with
  | nil => exact Nat.zero_le _
  | cons call calls ih =>
    obtain ⟨hlater, hsorted⟩ := List.pairwise_cons.mp hsorted
    by_cases hkey : call.key = key
    · subst hkey
      by_cases hover : width ≤ call.now - w.start
      · rw [accepted_eq_zero]
        · exact Nat.zero_le _
        · intro c hc hpc
          have hle : call.now ≤ c.now := by
            rcases List.mem_cons.mp hc with rfl | hc
            exacts [le_rfl, hlater c hc]
          exact absurd (hp c.now hpc) (not_lt.mpr ((add_comm w.start width ▸ le_sub_iff_add_le.mp hover).trans hle))
      · have hroll : Window.roll width (windows call.key) call.now = w := by rw [hw, Window.roll, if_neg hover]
        refine hroll ▸ accepted_cons_le windows call calls (n := 0) ?_
        rw [step_self, hroll]
        exact ih hsorted (by rw [step_self, hroll]) hp
    · rw [accepted_cons_of_ne hkey]
      exact ih hsorted ((step_of_ne hkey).trans hw) hp

/-- From a time on and for a width, what there is room for is accepted, and then at most one window more. -/
theorem accepted_from {key : κ} {windows : κ → Option (Window T)} {t : T} (hfrom : ∀ c ∈ calls, t ≤ c.now)
    (hp : ∀ now, p now → now < t + width) :
    accepted (consume width limit) key p windows calls ≤ room limit (windows key) + limit := by
  induction calls generalizing windows with
  | nil => exact Nat.zero_le _
  | cons call calls ih =>
    obtain ⟨-, hsorted⟩ := List.pairwise_cons.mp hsorted
    obtain ⟨hcall, hfrom⟩ := List.forall_mem_cons.mp hfrom
    by_cases hkey : call.key = key
    · subst hkey
      by_cases hstarts : Starts width (starts windows call.key) call.now
      · have hroll : Window.roll width (windows call.key) call.now = ⟨call.now, 0⟩ := Window.roll_of_starts hstarts
        refine (accepted_cons_le windows call calls (n := 0) ?_).trans ((room_le limit _).trans (Nat.le_add_left _ _))
        rw [step_self, hroll]
        refine accepted_in_window hsorted (by rw [step_self, hroll]) fun now hnow => ?_
        exact (hp now hnow).trans_le (add_le_add_left hcall width)
      · rw [Window.roll_of_not_starts hstarts]
        exact accepted_cons_le windows call calls (ih hsorted hfrom)
    · have hle := @ih hsorted (step (consume width limit) windows call) hfrom
      rwa [step_of_ne hkey, ← accepted_cons_of_ne hkey] at hle

theorem accepted_in_interval (key : κ) (windows : κ → Option (Window T)) (t : T) :
    accepted (consume width limit) key (fun now => t ≤ now ∧ now < t + width) windows calls ≤ 2 * limit := by
  induction calls generalizing windows with
  | nil => exact Nat.zero_le _
  | cons call calls ih =>
    obtain ⟨hlater, htail⟩ := List.pairwise_cons.mp hsorted
    by_cases ht : t ≤ call.now
    · have hfrom : ∀ c ∈ call :: calls, t ≤ c.now := List.forall_mem_cons.mpr ⟨ht, fun c hc => ht.trans (hlater c hc)⟩
      refine (accepted_from hsorted hfrom fun now h => h.2).trans ?_
      have hroom := room_le limit (windows key)
      omega
    · by_cases hkey : call.key = key
      · subst hkey
        rw [accepted_cons_self, if_neg fun h => ht h.2.1]
        exact ih htail _
      · rw [accepted_cons_of_ne hkey]
        exact ih htail _

end

end

/-- What fixed windows guarantee, from any windows. -/
theorem limits [IsOrderedAddMonoid T] (windows : κ → Option (Window T)) :
    Limits width limit (consume width limit) starts windows where
  interval calls hsorted key t := accepted_in_interval hsorted key windows t
  window before call during key hduring := by
    by_cases hkey : call.key = key
    · subst hkey
      refine (accepted_cons_le _ call during (n := 0) ?_).trans (room_le limit _)
      rw [Machine.run_append] at hduring
      exact accepted_le_room hduring
    · rw [accepted_cons_of_ne hkey]
      rw [Machine.run_append] at hduring
      exact (accepted_le_room hduring).trans (room_le limit _)
  independent calls key := log_key rfl calls

end Limits

end FixedWindow
