import Mathlib.Algebra.Group.Nat.Defs
import Mathlib.Algebra.Order.Ring.Unbundled.Rat
import Pmiri.Python.Checks

/-!
# Order, addition and sets of values

`a < b`, `a + 1` and `a in {…}` for values of any kind, with the `TypeError`
each raises on kinds it is not defined for. A float is a double, so a sum is
rounded to the nearest one.
-/

namespace Py

/-! ## Doubles -/

/-- `2 ** e` -/
def pow2 (e : Int) : Rat := if 0 ≤ e then (2 ^ e.toNat : Nat) else 1 / (2 ^ (-e).toNat : Nat)

/-- The exponent of the last place of the double nearest to `q`. -/
def lastPlace (q : Rat) : Int :=
  let e : Int := (Nat.log2 q.num.natAbs : Int) - Nat.log2 q.den
  max (-1074) ((if pow2 e ≤ max q (-q) then e else e - 1) - 52)

/-- The nearest integer, the even one of two. -/
def roundHalfEven (q : Rat) : Int :=
  let f := q.floor
  let r := q - f
  if r < 1 / 2 then f else if 1 / 2 < r then f + 1 else if f % 2 = 0 then f else f + 1

/-- The double nearest to `q`. -/
def roundDouble (q : Rat) : Rat := if q = 0 then 0 else roundHalfEven (q / pow2 (lastPlace q)) * pow2 (lastPlace q)

namespace Val

/-- The number `v + 1`. -/
def plusOne : Val → Except Exc Rat
  | .bool b => .ok (if b then 2 else 1)
  | .int i => .ok (i + 1)
  | .float f => .ok (roundDouble (f.value + 1))
  | _ => .error (.typeError "unsupported operand type(s) for +")

/-- `v == q`, for a number `q`. -/
def isNumber (v : Val) (q : Rat) : Bool := v.num? == some q

mutual
/-- `a < b` -/
def lt : Val → Val → Except Exc Bool
  | .str a, .str b => .ok (decide (a < b))
  | .list a, .list b => ltList a b
  | a, b =>
    match a.num?, b.num? with
    | some x, some y => .ok (decide (x < y))
    | _, _ => .error (.typeError "'<' not supported")
/-- `<` of two lists: at the first elements that differ, or by length. -/
def ltList : List Val → List Val → Except Exc Bool
  | _, [] => .ok false
  | [], _ :: _ => .ok true
  | a :: as, b :: bs => if a.eq b then ltList as bs else a.lt b
end

/-- `hash(v)` is defined. -/
def hashable : Val → Bool
  | .list _ | .dict _ => false
  | _ => true

/-- `v in {*vs}` -/
def inSet (v : Val) (vs : List Val) : Except Exc Bool :=
  if v.hashable && vs.all hashable then .ok (vs.any (·.eq v)) else .error (.typeError "unhashable type")

/-- Every value of a list is its first of its kind. -/
def noRepeats : List Val → Bool
  | [] => true
  | v :: vs => !vs.any (·.eq v) && noRepeats vs

/-- `len(vs) == len(set(vs))` -/
def distinct (vs : List Val) : Except Exc Bool :=
  if vs.all hashable then .ok (noRepeats vs) else .error (.typeError "unhashable type")

/-- `set(vs) == set(ws)` -/
def sameSet (vs ws : List Val) : Except Exc Bool :=
  if vs.all hashable && ws.all hashable then
    .ok ((vs.all fun v => ws.any (·.eq v)) && ws.all fun w => vs.any (·.eq w))
  else .error (.typeError "unhashable type")

/-- `list(v)` -/
def elements : Val → Except Exc (List Val)
  | .list xs => .ok xs
  | .str s => .ok (s.toList.map fun c => .str c.toString)
  | .dict items => .ok (items.map fun kv => .str kv.1)
  | _ => .error (.typeError "object is not iterable")

@[simp] theorem lt_str (a b : String) : (Val.str a).lt (.str b) = .ok (decide (a < b)) := by
  rw [lt]

@[simp] theorem lt_int (a b : Int) : (Val.int a).lt (.int b) = .ok (decide (a < b)) := by
  rw [lt] <;> simp [num?, Rat.intCast_lt_intCast]

theorem distinct_str (l : List String) : distinct (l.map .str) = .ok (decide l.Nodup) := by
  have hall : (l.map Val.str).all hashable = true := List.all_eq_true.mpr fun v hv => by
    obtain ⟨s, -, rfl⟩ := List.mem_map.mp hv
    rfl
  rw [distinct, if_pos hall, Except.ok.injEq]
  induction l with
  | nil => rfl
  | cons s l ih =>
    have hany : (l.map Val.str).any (·.eq (.str s)) = l.contains s := by
      rw [List.contains_eq_any_beq, List.any_map]
      exact congrArg (List.any l) (funext fun t => by simp [eq, BEq.comm])
    have ih := ih (List.all_eq_true.mpr fun v hv => List.all_eq_true.mp hall v (List.mem_cons_of_mem _ hv))
    rw [List.map_cons, noRepeats, hany, ih]
    simp [List.nodup_cons]

theorem sameSet_self {vs : List Val} (h : vs.all hashable = true) : sameSet vs vs = .ok true := by
  have hall : (vs.all fun v => vs.any (·.eq v)) = true := List.all_eq_true.mpr fun v hv =>
    List.any_eq_true.mpr ⟨v, hv, v.eq_refl⟩
  rw [sameSet, h, Bool.and_self, if_pos rfl, Except.ok.injEq, hall]
  rfl

theorem inSet_ok_true {v : Val} {vs : List Val} (h : v.inSet vs = .ok true) : ∃ w ∈ vs, w.eq v = true := by
  unfold inSet at h
  split at h
  · simpa using Except.ok.inj h
  · cases h

end Val

/-- `set(v) == set(names)`, for a value that may not be a collection. -/
def elementsAre (v : Val) (names : List String) : Except Exc Bool := do
  let elements ← v.elements
  Val.sameSet elements (names.map .str)

end Py
