import Pmiri.Python.Dict

/-!
# Sequences of checks

A validator is a sequence of statements `if cond: raise exc`, where evaluating
`cond` may itself raise. `raiseIf` is one such statement; `pyOr`, `pyAnd` and
`pyNot` are `or`, `and` and `not` with Python's short-circuits. A sequence
returns exactly if every condition evaluates to `False` (`seq_ok`,
`raiseIf_ok`, `raiseIfM_ok`), which is how the specification of a validator is
read off its text.
-/

namespace Py

/-- `if c: raise e` -/
def raiseIf (c : Bool) (e : Exc) : Except Exc Unit := if c then .error e else .ok ()

/-- `if c: raise e`, for a condition that may itself raise. -/
def raiseIfM (c : Except Exc Bool) (e : Exc) : Except Exc Unit := c.bind fun b => raiseIf b e

/-- `errors.append(msg)`, `if c`. -/
def errorIf (c : Bool) (msg : String) : List String := if c then [msg] else []

@[simp] theorem errorIf_nil {c : Bool} {msg : String} : errorIf c msg = [] ↔ c = false := by
  cases c <;> simp [errorIf]

/-- `if not isinstance(v, dict): raise e` -/
def dictOr (v : Val) (e : Exc) : Except Exc Dict :=
  match v.asDict with
  | some d => .ok d
  | none => .error e

theorem dictOr_ok {v : Val} {e : Exc} {d : Dict} : dictOr v e = .ok d ↔ v.asDict = some d := by
  unfold dictOr
  split <;> rename_i h <;> simp [h]

/-- `a or b` -/
def pyOr (a b : Except Exc Bool) : Except Exc Bool := a.bind fun x => if x then .ok true else b

/-- `a and b` -/
def pyAnd (a b : Except Exc Bool) : Except Exc Bool := a.bind fun x => if x then b else .ok false

/-- `not a` -/
def pyNot (a : Except Exc Bool) : Except Exc Bool := a.map (!·)

/-- `try: return x`, `except …: return False` for the exceptions in `caught`. -/
def falseOn (caught : Exc → Bool) (x : Except Exc Bool) : Except Exc Bool :=
  match x with
  | .ok b => .ok b
  | .error e => if caught e then .ok false else .error e

/-- `x not in s`, for a set `s` of strings. -/
def Val.notIn (v : Val) (s : List String) : Except Exc Bool := pyNot (v.isIn s)

/-- `record[key] != s` or `record.get(key) != s`, for a string `s`. -/
def differs (record : Dict) (key s : String) : Bool := !(record.get key).eq (.str s)

/-- `v.get(key) != s`, for a value that may not be a dictionary. -/
def fieldDiffers (v : Val) (key s : String) : Except Exc Bool := (v.getOf key).map fun w => !w.eq (.str s)

@[simp] theorem differs_false {record : Dict} {key s : String} :
    differs record key s = false ↔ record.get key = .str s := by
  rw [differs, Bool.not_eq_false', Val.eq_str]

theorem differs_true {record : Dict} {key s : String} : differs record key s = true ↔ record.get key ≠ .str s := by
  rw [← Bool.not_eq_false, differs_false]

theorem fieldDiffers_ok_false {v : Val} {key s : String} : fieldDiffers v key s = .ok false ↔ v.getOf key = .ok (.str s) := by
  unfold fieldDiffers
  rcases v.getOf key with e | w
  · simp [Except.map]
  · simp only [Except.map, Except.ok.injEq, Bool.not_eq_false', Val.eq_str]

variable {α β ε : Type}

@[simp] theorem ok_bind (a : α) (f : α → Except ε β) : (Except.ok a >>= f) = f a := rfl

theorem bind_ok {x : Except ε α} {f : α → Except ε β} {r : β} :
    (x >>= f) = .ok r ↔ ∃ a, x = .ok a ∧ f a = .ok r := by
  cases x with
  | error e => simp [bind, Except.bind]
  | ok a => simp [bind, Except.bind]

theorem seq_ok {x : Except ε Unit} {y : Except ε β} {r : β} :
    (x >>= fun _ => y) = .ok r ↔ x = .ok () ∧ y = .ok r := by
  cases x with
  | error e => simp [bind, Except.bind]
  | ok a => simp [bind, Except.bind]

theorem seq_error {x : Except ε Unit} {y : Except ε β} {e : ε} :
    (x >>= fun _ => y) = .error e ↔ x = .error e ∨ x = .ok () ∧ y = .error e := by
  cases x with
  | error e' => simp [bind, Except.bind]
  | ok a => simp [bind, Except.bind]

theorem bind_error {x : Except ε α} {f : α → Except ε β} {e : ε} :
    (x >>= f) = .error e ↔ x = .error e ∨ ∃ a, x = .ok a ∧ f a = .error e := by
  cases x with
  | error e' => simp [bind, Except.bind]
  | ok a => simp [bind, Except.bind]

theorem exceptMap_ok {x : Except ε α} {f : α → β} {r : β} (h : x.map f = .ok r) : ∃ a, x = .ok a ∧ r = f a := by
  cases x with
  | error e => cases h
  | ok a => exact ⟨a, rfl, (Except.ok.inj h).symm⟩

/-- A map goes past a check. -/
theorem map_seq {x : Except ε Unit} {y : Except ε α} {f : α → β} : (x >>= fun _ => y).map f = (x >>= fun _ => y.map f) := by
  rcases x with e | _ <;> rfl

@[simp] theorem raiseIf_ok {c : Bool} {e : Exc} : raiseIf c e = .ok () ↔ c = false := by
  cases c <;> simp [raiseIf]

@[simp] theorem raiseIfM_ok {c : Except Exc Bool} {e : Exc} : raiseIfM c e = .ok () ↔ c = .ok false := by
  rcases c with e | _ | _ <;> simp [raiseIfM, raiseIf, Except.bind]

theorem raiseIf_error {c : Bool} {e e' : Exc} : raiseIf c e = .error e' ↔ c = true ∧ e = e' := by
  cases c <;> simp [raiseIf]

theorem pyOr_ok_false {a b : Except Exc Bool} : pyOr a b = .ok false ↔ a = .ok false ∧ b = .ok false := by
  rcases a with e | _ | _ <;> simp [pyOr, Except.bind]

theorem pyAnd_ok_false {a b : Except Exc Bool} :
    pyAnd a b = .ok false ↔ a = .ok false ∨ a = .ok true ∧ b = .ok false := by
  rcases a with e | _ | _ <;> simp [pyAnd, Except.bind]

theorem pyAnd_ok_true {a b : Except Exc Bool} : pyAnd a b = .ok true ↔ a = .ok true ∧ b = .ok true := by
  rcases a with e | _ | _ <;> simp [pyAnd, Except.bind]

/-- A check passes if the objection `c` does not apply and the rest passes. -/
theorem unless_ok_true {c : Prop} [Decidable c] {x : Except Exc Bool} :
    (if c then .ok false else x) = .ok true ↔ ¬ c ∧ x = .ok true := by
  split <;> rename_i h <;> simp [h]

theorem pyNot_ok {a : Except Exc Bool} {b : Bool} : pyNot a = .ok b ↔ a = .ok (!b) := by
  rcases a with e | _ | _ <;> cases b <;> simp [pyNot, Except.map]

theorem ok_bool {a b : Bool} : (Except.ok a : Except Exc Bool) = .ok b ↔ a = b :=
  ⟨fun h => Except.ok.inj h, fun h => h ▸ rfl⟩

theorem falseOn_true {caught : Exc → Bool} {x : Except Exc Bool} : falseOn caught x = .ok true ↔ x = .ok true := by
  rcases x with e | b
  · simp only [falseOn]; split <;> simp
  · simp [falseOn]

theorem Val.notIn_ok_false {v : Val} {s : List String} : v.notIn s = .ok false ↔ ∃ x ∈ s, v = .str x := by
  rw [Val.notIn, pyNot_ok, Bool.not_false, Val.isIn_true]

/-- `v in s and w in t`, for two strings. -/
theorem pyAnd_isIn_ok_false {v w : Val} {s t : List String} (hv : ∃ a, v = .str a) (hw : ∃ b, w = .str b) :
    pyAnd (v.isIn s) (w.isIn t) = .ok false ↔ ((∃ x ∈ s, v = .str x) → ∀ x ∈ t, w ≠ .str x) := by
  obtain ⟨a, rfl⟩ := hv
  obtain ⟨b, rfl⟩ := hw
  simp only [pyAnd_ok_false, Val.isIn_str, ok_bool, List.contains_eq_mem, decide_eq_false_iff_not, decide_eq_true_eq,
    Val.str.injEq, exists_eq_right', ne_eq]
  constructor
  · rintro (h | ⟨-, h⟩) ha x hx rfl
    · exact h ha
    · exact h hx
  · intro h
    by_cases ha : a ∈ s
    · exact .inr ⟨ha, fun hb => h ha b hb rfl⟩
    · exact .inl ha

/-- `c and w in t`, for a string. -/
theorem pyAnd_ok_isIn_ok_false {c : Bool} {w : Val} {t : List String} (hw : ∃ b, w = .str b) :
    pyAnd (.ok c) (w.isIn t) = .ok false ↔ (c = true → ∀ x ∈ t, w ≠ .str x) := by
  obtain ⟨b, rfl⟩ := hw
  simp only [pyAnd_ok_false, Val.isIn_str, ok_bool, List.contains_eq_mem, decide_eq_false_iff_not, Val.str.injEq, ne_eq]
  cases c with
  | false => simp
  | true => simpa using ⟨fun h x hx e => h (e ▸ hx), fun h hb => h b hb rfl⟩

/-- `[x for x in xs if p(x)]`, where all of them are kept. -/
theorem filterM_true {p : α → Except ε Bool} {xs : List α} (h : ∀ x ∈ xs, p x = .ok true) : xs.filterM p = .ok xs := by
  have : ∀ acc, xs.filterAuxM p acc = .ok (xs.reverse ++ acc) := by
    induction xs with
    | nil => intro acc; rfl
    | cons x xs ih =>
      intro acc
      rw [List.filterAuxM, h x List.mem_cons_self, ok_bind, ih (fun y hy => h y (List.mem_cons_of_mem _ hy)),
        cond_true, List.reverse_cons, List.append_assoc, List.singleton_append]
  rw [List.filterM, this, ok_bind, List.append_nil, List.reverse_reverse]
  rfl

/-- `[x for x in xs if p(x)]`, where none of them is kept. -/
theorem filterM_false {p : α → Except ε Bool} {xs : List α} (h : ∀ x ∈ xs, p x = .ok false) : xs.filterM p = .ok [] := by
  have : ∀ acc, xs.filterAuxM p acc = .ok acc := by
    induction xs with
    | nil => intro acc; rfl
    | cons x xs ih =>
      intro acc
      rw [List.filterAuxM, h x List.mem_cons_self, ok_bind, ih (fun y hy => h y (List.mem_cons_of_mem _ hy)), cond_false]
  rw [List.filterM, this, ok_bind]
  rfl

/-- `for x in xs: check(x)` -/
def forEach (xs : List α) (check : α → Except Exc Unit) : Except Exc Unit :=
  match xs with
  | [] => .ok ()
  | x :: xs => check x >>= fun _ => forEach xs check

theorem forEach_ok {xs : List α} {check : α → Except Exc Unit} :
    forEach xs check = .ok () ↔ ∀ x ∈ xs, check x = .ok () := by
  induction xs with
  | nil => simp [forEach]
  | cons x xs ih => rw [forEach, seq_ok, ih, List.forall_mem_cons]

end Py
