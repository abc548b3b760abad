import Pmiri.Python.Checks

/-!
# Comprehensions with tests that may raise

`[x for x in xs if p(x)]` tests every element; `any(p(x) for x in xs)` stops at
the first that passes.
-/

namespace Py

variable {α ε : Type}

/-- The test is passed. -/
def holds (x : Except ε Bool) : Bool :=
  match x with
  | .ok b => b
  | .error _ => false

@[simp] theorem holds_ok (b : Bool) : holds (.ok b : Except ε Bool) = b := rfl

theorem holds_iff {x : Except ε Bool} : holds x = true ↔ x = .ok true := by
  cases x <;> simp [holds]

/-- The test returns on every element. -/
def Total (p : α → Except ε Bool) (xs : List α) : Prop := ∀ x ∈ xs, ∃ b, p x = .ok b

theorem total_cons {p : α → Except ε Bool} {x : α} {xs : List α} :
    Total p (x :: xs) ↔ (∃ b, p x = .ok b) ∧ Total p xs := List.forall_mem_cons

/-- A comprehension whose element returns `g x` exactly where `R x` holds. -/
theorem mapM_ok {β : Type} {f : α → Except ε β} {R : α → Prop} {g : α → β}
    (hf : ∀ x y, f x = .ok y ↔ R x ∧ y = g x) {xs : List α} {ys : List β} :
    xs.mapM f = .ok ys ↔ (∀ x ∈ xs, R x) ∧ ys = xs.map g := by
  induction xs generalizing ys with
  | nil => simp [List.mapM_nil, pure, Except.pure, eq_comm]
  | cons x xs ih =>
    simp only [List.mapM_cons, bind_ok, hf, ih, List.forall_mem_cons, List.map_cons]
    constructor
    · rintro ⟨y, ⟨hx, rfl⟩, zs, ⟨hxs, rfl⟩, h⟩
      exact ⟨⟨hx, hxs⟩, (Except.ok.inj h).symm⟩
    · rintro ⟨⟨hx, hxs⟩, rfl⟩
      exact ⟨_, ⟨hx, rfl⟩, _, ⟨hxs, rfl⟩, rfl⟩

theorem mapM_cons_ok {β : Type} {f : α → Except ε β} {x : α} {xs : List α} {ys : List β} :
    (x :: xs).mapM f = .ok ys ↔ ∃ y zs, f x = .ok y ∧ xs.mapM f = .ok zs ∧ ys = y :: zs := by
  simp only [List.mapM_cons, bind_ok]
  constructor
  · rintro ⟨y, hy, zs, hzs, h⟩
    exact ⟨y, zs, hy, hzs, (Except.ok.inj h).symm⟩
  · rintro ⟨y, zs, hy, hzs, rfl⟩
    exact ⟨y, hy, zs, hzs, rfl⟩

/-- A comprehension relates each element to its result. -/
theorem mapM_iff_forall₂ {β : Type} {f : α → Except ε β} {xs : List α} {ys : List β} :
    xs.mapM f = .ok ys ↔ List.Forall₂ (fun x y => f x = .ok y) xs ys := by
  induction xs generalizing ys with
  | nil =>
    rw [List.mapM_nil, List.forall₂_nil_left_iff]
    exact ⟨fun h => (Except.ok.inj h).symm, fun h => h ▸ rfl⟩
  | cons x xs ih =>
    rw [mapM_cons_ok, List.forall₂_cons_left_iff]
    simp only [ih, exists_and_left]

theorem exists_forall₂ {β : Type} {p : α → β → Prop} {xs : List α} (h : ∀ x ∈ xs, ∃ y, p x y) :
    ∃ ys, List.Forall₂ p xs ys := by
  induction xs with
  | nil => exact ⟨[], .nil⟩
  | cons x xs ih =>
    rw [List.forall_mem_cons] at h
    obtain ⟨y, hy⟩ := h.1
    obtain ⟨ys, hys⟩ := ih h.2
    exact ⟨y :: ys, .cons hy hys⟩

theorem exists_of_forall₂ {β : Type} {R : α → β → Prop} {xs : List α} {ys : List β} (h : List.Forall₂ R xs ys) {y : β}
    (hy : y ∈ ys) : ∃ x ∈ xs, R x y := by
  induction h with
  | nil => cases hy
  | @cons x y' xs ys hR _ ih =>
    obtain rfl | hy := List.mem_cons.mp hy
    · exact ⟨x, List.mem_cons_self, hR⟩
    · obtain ⟨x', hx', hR'⟩ := ih hy
      exact ⟨x', List.mem_cons_of_mem _ hx', hR'⟩

/-- Related lists have as many elements that pass two tests that agree on what is related. -/
theorem countP_of_forall₂ {β : Type} {R : α → β → Prop} {p : α → Bool} {q : β → Bool} {xs : List α} {ys : List β}
    (h : List.Forall₂ R xs ys) (hpq : ∀ x ∈ xs, ∀ y, R x y → p x = q y) : ys.countP q = xs.countP p := by
  induction h with
  | nil => rfl
  | @cons x y xs ys hR _ ih =>
    rw [List.countP_cons, List.countP_cons, ih fun x' hx' => hpq x' (List.mem_cons_of_mem _ hx'), hpq x List.mem_cons_self y hR]

theorem length_mapM {β : Type} {f : α → Except ε β} {xs : List α} {ys : List β} (h : xs.mapM f = .ok ys) :
    ys.length = xs.length :=
  (mapM_iff_forall₂.mp h).length_eq.symm

theorem mem_mapM {β : Type} {f : α → Except ε β} {xs : List α} {ys : List β} (h : xs.mapM f = .ok ys) {y : β} :
    y ∈ ys ↔ ∃ x ∈ xs, f x = .ok y := by
  induction xs generalizing ys with
  | nil =>
    obtain rfl := Except.ok.inj h
    simp
  | cons x xs ih =>
    obtain ⟨z, zs, hz, hzs, rfl⟩ := mapM_cons_ok.mp h
    rw [List.mem_cons, ih hzs, List.exists_mem_cons_iff, hz, Except.ok.injEq, eq_comm]

theorem returns_of_mapM {β : Type} {f : α → Except ε β} {x : α} {xs : List α} {ys : List β} (h : xs.mapM f = .ok ys)
    (hx : x ∈ xs) : ∃ y, f x = .ok y := by
  induction xs generalizing ys with
  | nil => cases hx
  | cons x' xs ih =>
    obtain ⟨y, zs, hy, hzs, -⟩ := mapM_cons_ok.mp h
    rcases List.mem_cons.mp hx with rfl | hx
    · exact ⟨y, hy⟩
    · exact ih hzs hx

/-- A relation between the results of a comprehension, pair by pair, is one between its elements. -/
theorem pairwise_mapM {β : Type} {f : α → Except ε β} {P : α → α → Prop} {Q : β → β → Prop} {xs : List α} {ys : List β}
    (hPQ : ∀ x x' y y', f x = .ok y → f x' = .ok y' → (P x x' ↔ Q y y')) (h : xs.mapM f = .ok ys) :
    xs.Pairwise P ↔ ys.Pairwise Q := by
  induction xs generalizing ys with
  | nil =>
    obtain rfl := Except.ok.inj h
    simp
  | cons x xs ih =>
    obtain ⟨y, zs, hy, hzs, rfl⟩ := mapM_cons_ok.mp h
    rw [List.pairwise_cons, List.pairwise_cons, ih hzs]
    refine and_congr_left fun _ => ⟨fun hx z hz => ?_, fun hy' x' hx' => ?_⟩
    · obtain ⟨x', hx', hz'⟩ := (mem_mapM hzs).mp hz
      exact (hPQ x x' y z hy hz').mp (hx x' hx')
    · obtain ⟨z, hz⟩ := returns_of_mapM hzs hx'
      exact (hPQ x x' y z hy hz).mpr (hy' z ((mem_mapM hzs).mpr ⟨x', hx', hz⟩))

theorem filterAuxM_ok {p : α → Except ε Bool} {xs acc ys : List α} :
    xs.filterAuxM p acc = .ok ys ↔ Total p xs ∧ ys = (xs.filter fun x => holds (p x)).reverse ++ acc := by
  induction xs generalizing acc with
  | nil =>
    constructor
    · intro h
      exact ⟨fun x hx => (by cases hx), (Except.ok.inj h).symm⟩
    · rintro ⟨-, rfl⟩
      rfl
  | cons x xs ih =>
    rw [List.filterAuxM, bind_ok, total_cons]
    constructor
    · rintro ⟨b, hb, h⟩
      obtain ⟨htotal, rfl⟩ := ih.mp h
      refine ⟨⟨⟨b, hb⟩, htotal⟩, ?_⟩
      cases b <;> simp [hb]
    · rintro ⟨⟨⟨b, hb⟩, htotal⟩, rfl⟩
      refine ⟨b, hb, ih.mpr ⟨htotal, ?_⟩⟩
      cases b <;> simp [hb]

/-- A comprehension returns where its test does on every element. -/
theorem filterM_ok {p : α → Except ε Bool} {xs ys : List α} :
    xs.filterM p = .ok ys ↔ Total p xs ∧ ys = xs.filter fun x => holds (p x) := by
  rw [List.filterM, bind_ok]
  constructor
  · rintro ⟨zs, hzs, h⟩
    obtain ⟨htotal, rfl⟩ := filterAuxM_ok.mp hzs
    refine ⟨htotal, ?_⟩
    rw [← Except.ok.inj h, List.append_nil, List.reverse_reverse]
  · rintro ⟨htotal, rfl⟩
    refine ⟨_, filterAuxM_ok.mpr ⟨htotal, rfl⟩, ?_⟩
    rw [List.append_nil, List.reverse_reverse]
    rfl

theorem anyM_cons_ok {p : α → Except ε Bool} {x : α} {xs : List α} {b : Bool} :
    (x :: xs).anyM p = .ok b ↔ (p x = .ok true ∧ b = true) ∨ (p x = .ok false ∧ xs.anyM p = .ok b) := by
  rw [List.anyM, bind_ok]
  constructor
  · rintro ⟨c, hc, h⟩
    cases c with
    | true => exact .inl ⟨hc, (Except.ok.inj h).symm⟩
    | false => exact .inr ⟨hc, h⟩
  · rintro (⟨hc, rfl⟩ | ⟨hc, h⟩)
    · exact ⟨true, hc, rfl⟩
    · exact ⟨false, hc, h⟩

/-- What `any` returns, where it returns. -/
theorem anyM_eq {p : α → Except ε Bool} {xs : List α} {b : Bool} (h : xs.anyM p = .ok b) :
    b = xs.any fun x => holds (p x) := by
  induction xs with
  | nil => exact (Except.ok.inj h).symm
  | cons x xs ih =>
    rcases anyM_cons_ok.mp h with ⟨hx, rfl⟩ | ⟨hx, hxs⟩
    · simp [hx]
    · rw [ih hxs, List.any_cons, hx, holds_ok, Bool.false_or]

theorem anyM_of_total {p : α → Except ε Bool} {xs : List α} (h : Total p xs) :
    xs.anyM p = .ok (xs.any fun x => holds (p x)) := by
  induction xs with
  | nil => rfl
  | cons x xs ih =>
    obtain ⟨⟨b, hb⟩, hxs⟩ := total_cons.mp h
    rw [anyM_cons_ok, List.any_cons, hb, holds_ok]
    cases b with
    | true => exact .inl ⟨rfl, rfl⟩
    | false => exact .inr ⟨rfl, by rw [Bool.false_or]; exact ih hxs⟩

/-- `any` fails where every test does. -/
theorem anyM_ok_false {p : α → Except ε Bool} {xs : List α} : xs.anyM p = .ok false ↔ ∀ x ∈ xs, p x = .ok false := by
  induction xs with
  | nil => simp [List.anyM, pure, Except.pure]
  | cons x xs ih =>
    rw [anyM_cons_ok, ih, List.forall_mem_cons]
    simp

/-- `any` tests its first element. -/
theorem returns_of_anyM {p : α → Except ε Bool} {x : α} {xs : List α} {b : Bool} (h : (x :: xs).anyM p = .ok b) :
    ∃ c, p x = .ok c := by
  rcases anyM_cons_ok.mp h with ⟨hx, -⟩ | ⟨hx, -⟩
  · exact ⟨true, hx⟩
  · exact ⟨false, hx⟩

end Py
