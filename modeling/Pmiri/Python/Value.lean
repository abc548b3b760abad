import Mathlib.Data.List.Basic
import Mathlib.Data.List.Nodup
import Mathlib.Data.Rat.Defs

/-!
# Python values of the kinds JSON has

The values a dynamically typed record can hold in any field, with the
operations that code working on such records uses: `==` (`Val.eq`),
truthiness, membership of a set of strings, and dictionaries (`Dict`), whose
keys are distinct by construction.

Two points of the language matter to every validator and are kept here:
`True == 1 == 1.0`, so equality is not equality of representations; and
`x in s`, for a set `s`, raises `TypeError` when `x` is a list or a
dictionary (`Val.isIn`).
-/

namespace Py

/-- A float: its `repr` and the exact number it stands for. -/
structure Double where
  text : String
  value : Rat
  text_ne : text ≠ ""

/-- A value of a kind JSON has. -/
inductive Val where
  | none
  | bool (b : Bool)
  | int (i : Int)
  | float (f : Double)
  | str (s : String)
  | list (xs : List Val)
  | dict (items : List (String × Val))
deriving Inhabited

/-- A raised exception. `valueError cls msg` is `ValueError` or the subclass
of it named `cls`. -/
inductive Exc where
  | typeError (msg : String)
  | keyError (key : String)
  | attributeError (msg : String)
  | overflowError (msg : String)
  | lookupError (msg : String)
  | osError (msg : String)
  | databaseError (msg : String)
  | valueError (cls msg : String)
deriving DecidableEq, Repr, Inhabited

/-- `str(exc)` -/
def Exc.message : Exc → String
  | .typeError m | .keyError m | .attributeError m | .overflowError m | .lookupError m | .osError m
  | .databaseError m | .valueError _ m => m

/-- `type(exc).__name__` -/
def excName : Exc → String
  | .typeError _ => "TypeError"
  | .keyError _ => "KeyError"
  | .attributeError _ => "AttributeError"
  | .overflowError _ => "OverflowError"
  | .lookupError _ => "LookupError"
  | .osError _ => "OSError"
  | .databaseError _ => "DatabaseError"
  | .valueError cls _ => cls

/-- `except ValueError` catches it. -/
def Exc.isValueError : Exc → Bool
  | .valueError .. => true
  | _ => false

/-- `except (TypeError, ValueError, KeyError)` catches it. -/
def Exc.isTypeValueOrKeyError : Exc → Bool
  | .valueError .. | .typeError _ | .keyError _ => true
  | _ => false

namespace Val

/-- The number a value is, for `==` between numbers of different types. -/
def num? : Val → Option Rat
  | .bool b => some (if b then 1 else 0)
  | .int i => some i
  | .float f => some f.value
  | _ => Option.none

mutual
/-- `a == b` -/
def eq : Val → Val → Bool
  | .none, .none => true
  | .str a, .str b => a == b
  | .list a, .list b => eqList a b
  | .dict a, .dict b => a.length == b.length && eqItems a b
  | .bool a, b => b.num? == some (if a then 1 else 0)
  | .int a, b => b.num? == some (a : Rat)
  | .float f, b => b.num? == some f.value
  | _, _ => false
/-- `==` of two lists, element by element. -/
def eqList : List Val → List Val → Bool
  | [], [] => true
  | a :: as, b :: bs => a.eq b && eqList as bs
  | _, _ => false
/-- Every item of the first dictionary has an equal one in the second. -/
def eqItems : List (String × Val) → List (String × Val) → Bool
  | [], _ => true
  | (k, v) :: as, bs => bs.any (fun kw => k == kw.1 && v.eq kw.2) && eqItems as bs
end

/-- `bool(v)` -/
def truthy : Val → Bool
  | .none => false
  | .bool b => b
  | .int i => i != 0
  | .float f => f.value != 0
  | .str s => s != ""
  | .list xs => !xs.isEmpty
  | .dict items => !items.isEmpty

/-- `isinstance(v, str) and v` -/
def isNonemptyStr : Val → Bool
  | .str s => s != ""
  | _ => false

/-- `isinstance(v, str)` -/
def isStr : Val → Bool
  | .str _ => true
  | _ => false

/-- A value that is known to be a string. -/
def strText : Val → String
  | .str s => s
  | _ => ""

/-- `v is None` -/
def isNone : Val → Bool
  | .none => true
  | _ => false

/-- `v is True` -/
def isTrue : Val → Bool
  | .bool b => b
  | _ => false

/-- `v is False` -/
def isFalse : Val → Bool
  | .bool b => !b
  | _ => false

/-- `isinstance(v, int) and not isinstance(v, bool) and v >= 0` -/
def isNatural : Val → Bool
  | .int i => decide (0 ≤ i)
  | _ => false

/-- `isinstance(v, Mapping)` -/
def isMapping : Val → Bool
  | .dict _ => true
  | _ => false

/-- `isinstance(v, list) and v` -/
def isNonemptyList : Val → Bool
  | .list xs => !xs.isEmpty
  | _ => false

/-- `isinstance(v, list) and all(isinstance(x, str) and x for x in v)` -/
def isStrList : Val → Bool
  | .list xs => xs.all isNonemptyStr
  | _ => false

/-- `v in s`, for a set `s` of strings. -/
def isIn (v : Val) (s : List String) : Except Exc Bool :=
  match v with
  | .str x => .ok (s.contains x)
  | .list _ => .error (.typeError "unhashable type: 'list'")
  | .dict _ => .error (.typeError "unhashable type: 'dict'")
  | _ => .ok false

@[simp] theorem isNonemptyStr_str (s : String) : (Val.str s).isNonemptyStr = (s != "") := rfl

theorem eq_str {v : Val} {s : String} : v.eq (.str s) = true ↔ v = .str s := by
  cases v <;> simp [eq, num?]

theorem str_eq {v : Val} {s : String} : (Val.str s).eq v = true ↔ v = .str s := by
  cases v <;> simp [eq]
  exact ⟨Eq.symm, Eq.symm⟩

@[simp] theorem str_eq_str (a b : String) : (Val.str a).eq (.str b) = (a == b) := by
  simp [eq]

@[simp] theorem none_eq_none : Val.none.eq .none = true := by
  simp [eq]

theorem eq_int {v : Val} {i : Int} : v.eq (.int i) = true ↔ v.num? = some (i : Rat) := by
  cases v <;> simp [eq, num?] <;> exact ⟨Eq.symm, Eq.symm⟩

@[simp] theorem int_eq_int (a b : Int) : (Val.int a).eq (.int b) = (a == b) := by
  rw [Bool.eq_iff_iff, eq_int, num?, Option.some.injEq, Rat.intCast_inj, beq_iff_eq]

theorem isFalse_iff {v : Val} : v.isFalse = true ↔ v = .bool false := by
  cases v <;> simp [isFalse]

theorem isNone_iff {v : Val} : v.isNone = true ↔ v = .none := by
  cases v <;> simp [isNone]

theorem isNonemptyStr_iff {v : Val} : v.isNonemptyStr = true ↔ ∃ s, s ≠ "" ∧ v = .str s := by
  cases v <;> simp [isNonemptyStr]

theorem isIn_true {v : Val} {s : List String} : v.isIn s = .ok true ↔ ∃ x ∈ s, v = .str x := by
  cases v <;> simp [isIn]

theorem isIn_false {v : Val} {s : List String} :
    v.isIn s = .ok false ↔ (∀ x ∈ s, v ≠ .str x) ∧ v.isMapping = false ∧ ∀ xs, v ≠ .list xs := by
  cases v <;> simp [isIn, isMapping]
  case str a => exact ⟨fun h x hx e => h (e ▸ hx), fun h hx => h a hx rfl⟩

@[simp] theorem isIn_str (x : String) (s : List String) : (Val.str x).isIn s = .ok (s.contains x) := rfl

mutual
/-- Every value equals itself: JSON has no NaN. -/
theorem eq_refl : ∀ v : Val, v.eq v = true
  | .none => by simp [eq]
  | .bool b => by simp [eq, num?]
  | .int i => by simp [eq, num?]
  | .float f => by simp [eq, num?]
  | .str s => by simp [eq]
  | .list xs => by simp only [eq]; exact eqList_refl xs
  | .dict xs => by
    simp only [eq, beq_self_eq_true, Bool.true_and]
    exact eqItems_refl xs xs (fun _ h => h)
theorem eqList_refl : ∀ xs : List Val, eqList xs xs = true
  | [] => by simp [eqList]
  | x :: xs => by simp only [eqList, eq_refl x, eqList_refl xs, Bool.and_self]
theorem eqItems_refl : ∀ xs ys : List (String × Val), (∀ p ∈ xs, p ∈ ys) → eqItems xs ys = true
  | [], _, _ => by simp [eqItems]
  | (k, v) :: xs, ys, h => by
    have hv : ys.any (fun kw => k == kw.1 && v.eq kw.2) = true :=
      List.any_eq_true.mpr ⟨(k, v), h _ List.mem_cons_self, by simp [eq_refl v]⟩
    simp only [eqItems, hv, eqItems_refl xs ys (fun p hp => h p (List.mem_cons_of_mem _ hp)), Bool.and_self]
end

theorem eqList_str {vs : List Val} {l : List String} : eqList vs (l.map .str) = true ↔ vs = l.map .str := by
  refine ⟨fun h => ?_, fun h => h ▸ eqList_refl _⟩
  induction vs generalizing l with
  | nil =>
    cases l with
    | nil => rfl
    | cons s l => cases h
  | cons v vs ih =>
    cases l with
    | nil => cases h
    | cons s l =>
      rw [List.map_cons, eqList, Bool.and_eq_true] at h
      rw [List.map_cons, eq_str.mp h.1, ih h.2]

end Val

/-- A string or `None`. -/
def optStr : Option String → Val
  | some s => .str s
  | none => .none

/-- A list of strings. -/
def strList (l : List String) : Val := .list (l.map .str)

theorem isNonemptyList_strList {l : List String} : (strList l).isNonemptyList = true ↔ l ≠ [] := by
  cases l <;> simp [strList, Val.isNonemptyList]

theorem isStrList_strList {l : List String} : (strList l).isStrList = true ↔ ∀ s ∈ l, s ≠ "" := by
  simp [strList, Val.isStrList]

end Py
