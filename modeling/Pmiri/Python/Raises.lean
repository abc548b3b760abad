import Pmiri.Python.Checks
import Pmiri.Python.Order

/-!
# What a sequence of checks raises

`OnlyRaises caught x` says that every exception of `x` is one that an
`except` clause catches. The rules below follow the sequence: a check raises
only if the checks before it have passed.
-/

namespace Py

variable {α β : Type} {caught : Exc → Bool}

/-- Whatever `x` raises is caught. -/
def OnlyRaises (caught : Exc → Bool) (x : Except Exc α) : Prop := ∀ e, x = .error e → caught e = true

theorem onlyRaises_ok (a : α) : OnlyRaises caught (.ok a) := nofun

theorem onlyRaises_error {e : Exc} : OnlyRaises caught (.error e : Except Exc α) ↔ caught e = true := by
  constructor
  · exact fun h => h e rfl
  · intro h e' he
    rwa [← Except.error.inj he]

theorem onlyRaises_bind {x : Except Exc α} {f : α → Except Exc β} :
    OnlyRaises caught (x >>= f) ↔ OnlyRaises caught x ∧ ∀ a, x = .ok a → OnlyRaises caught (f a) := by
  rcases x with e | a
  · show OnlyRaises caught (.error e) ↔ _
    rw [onlyRaises_error, onlyRaises_error]
    simp
  · show OnlyRaises caught (f a) ↔ _
    simp [onlyRaises_ok]

theorem onlyRaises_seq {x : Except Exc Unit} {y : Except Exc β} :
    OnlyRaises caught (x >>= fun _ => y) ↔ OnlyRaises caught x ∧ (x = .ok () → OnlyRaises caught y) := by
  rw [onlyRaises_bind]
  exact and_congr_right fun _ => ⟨fun h => h (), fun h _ => h⟩

theorem onlyRaises_raiseIf (c : Bool) {e : Exc} (h : caught e = true) : OnlyRaises caught (raiseIf c e) := by
  cases c
  · exact onlyRaises_ok ()
  · exact onlyRaises_error.mpr h

theorem onlyRaises_raiseIfM {c : Except Exc Bool} {e : Exc} (h : caught e = true) :
    OnlyRaises caught (raiseIfM c e) ↔ OnlyRaises caught c := by
  rw [raiseIfM]
  refine onlyRaises_bind.trans ⟨And.left, fun hc => ⟨hc, fun b _ => onlyRaises_raiseIf b h⟩⟩

theorem onlyRaises_pyOr {a b : Except Exc Bool} :
    OnlyRaises caught (pyOr a b) ↔ OnlyRaises caught a ∧ (a = .ok false → OnlyRaises caught b) := by
  rw [pyOr]
  refine onlyRaises_bind.trans (and_congr_right fun _ => ⟨fun h ha => h false ha, fun h x hx => ?_⟩)
  cases x
  · exact h hx
  · exact onlyRaises_ok true

theorem onlyRaises_pyAnd {a b : Except Exc Bool} :
    OnlyRaises caught (pyAnd a b) ↔ OnlyRaises caught a ∧ (a = .ok true → OnlyRaises caught b) := by
  rw [pyAnd]
  refine onlyRaises_bind.trans (and_congr_right fun _ => ⟨fun h ha => h true ha, fun h x hx => ?_⟩)
  cases x
  · exact onlyRaises_ok false
  · exact h hx

theorem onlyRaises_pyNot {a : Except Exc Bool} : OnlyRaises caught (pyNot a) ↔ OnlyRaises caught a := by
  rw [pyNot, OnlyRaises, OnlyRaises]
  rcases a with e | b <;> simp [Except.map]

theorem onlyRaises_forEach {xs : List α} {check : α → Except Exc Unit} (h : ∀ x ∈ xs, OnlyRaises caught (check x)) :
    OnlyRaises caught (forEach xs check) := by
  induction xs with
  | nil => exact onlyRaises_ok ()
  | cons x xs ih =>
    exact onlyRaises_seq.mpr ⟨h x List.mem_cons_self, fun _ => ih fun y hy => h y (List.mem_cons_of_mem _ hy)⟩

/-! ## Nothing is raised -/

/-- `x` raises nothing. -/
def Returns (x : Except Exc α) : Prop := ∃ a, x = .ok a

theorem returns_ok (a : α) : Returns (.ok a) := ⟨a, rfl⟩

theorem not_returns_error (e : Exc) : ¬ Returns (.error e : Except Exc α) := by
  intro h
  obtain ⟨a, h⟩ := h
  cases h

theorem returns_bind {x : Except Exc α} {f : α → Except Exc β} : Returns (x >>= f) ↔ ∃ a, x = .ok a ∧ Returns (f a) := by
  simp only [Returns, bind_ok]
  constructor
  · intro h
    obtain ⟨b, a, ha, hb⟩ := h
    exact ⟨a, ha, b, hb⟩
  · intro h
    obtain ⟨a, ha, b, hb⟩ := h
    exact ⟨b, a, ha, hb⟩

/-- A last step that raises nothing. -/
theorem returns_map {x : Except Exc α} {f : α → β} : Returns (x >>= fun a => .ok (f a)) ↔ Returns x := by
  rw [returns_bind]
  exact exists_congr fun a => and_iff_left (returns_ok _)

theorem returns_pyOr {a b : Except Exc Bool} : Returns (pyOr a b) ↔ ∃ x, a = .ok x ∧ (x = false → Returns b) := by
  rw [pyOr]
  refine returns_bind.trans (exists_congr fun x => and_congr_right fun _ => ?_)
  cases x
  · simp
  · simp [returns_ok]

theorem returns_isIn {v : Val} {s : List String} : Returns (v.isIn s) ↔ v.hashable = true := by
  cases v with
  | list _ | dict _ => simp [Val.isIn, not_returns_error, Val.hashable]
  | _ => simp [Val.isIn, returns_ok, Val.hashable]

theorem returns_notIn {v : Val} {s : List String} : Returns (v.notIn s) ↔ v.hashable = true := by
  rw [← returns_isIn (s := s)]
  unfold Val.notIn pyNot
  rcases v.isIn s with e | b
  · exact iff_of_false (not_returns_error _) (not_returns_error _)
  · exact iff_of_true (returns_ok _) (returns_ok _)

theorem returns_mapM {f : α → Except Exc β} {xs : List α} : Returns (xs.mapM f) ↔ ∀ x ∈ xs, Returns (f x) := by
  induction xs with
  | nil => exact iff_of_true (returns_ok _) nofun
  | cons x xs ih =>
    rw [List.mapM_cons, List.forall_mem_cons, ← ih, returns_bind]
    constructor
    · intro h
      obtain ⟨y, hy, h⟩ := h
      exact ⟨⟨y, hy⟩, (returns_bind.mp h).imp fun ys h => h.1⟩
    · intro h
      obtain ⟨⟨y, hy⟩, ys, hys⟩ := h
      exact ⟨y, hy, returns_bind.mpr ⟨ys, hys, returns_ok _⟩⟩

/-! ## Membership tests -/

/-- A membership test raises on a list or a dictionary, and only there. -/
theorem onlyRaises_isIn (hcaught : ∀ msg, caught (.typeError msg) = false) {v : Val} {s : List String} :
    OnlyRaises caught (v.isIn s) ↔ v.hashable = true := by
  cases v with
  | list _ | dict _ => simp [Val.isIn, onlyRaises_error, hcaught, Val.hashable]
  | _ => simp [Val.isIn, onlyRaises_ok, Val.hashable]

theorem onlyRaises_notIn (hcaught : ∀ msg, caught (.typeError msg) = false) {v : Val} {s : List String} :
    OnlyRaises caught (v.notIn s) ↔ v.hashable = true := onlyRaises_pyNot.trans (onlyRaises_isIn hcaught)

/-- Values that are looked up one after the other, each if the ones before it
are found in their sets: none that is looked up is a list or a dictionary. -/
def Testable : List (Val × List String) → Prop
  | [] => True
  | (v, s) :: rest => v.hashable = true ∧ ((∃ x ∈ s, v = .str x) → Testable rest)

theorem hashable_of_mem {v : Val} {s : List String} (h : ∃ x ∈ s, v = .str x) : v.hashable = true := by
  obtain ⟨x, -, rfl⟩ := h
  rfl

end Py
