import Mathlib.Data.List.Infix
import Pmiri.Python.Runtime

/-!
# Text

The string methods of Python that splitting and scanning code is written in:
`partition`, `rpartition`, `split`, `strip`, `splitlines`, on lists of
characters, and strict UTF-8 decoding.
-/

namespace Py

/-! ## Splitting -/

/-- `s.partition(sep)` for a one-character separator: the part before it, the
part after it, and whether it occurs. -/
def partition (sep : Char) : List Char → List Char × List Char × Bool
  | [] => ([], [], false)
  | c :: cs =>
    if c = sep then ([], cs, true)
    else
      let (a, b, found) := partition sep cs
      (c :: a, b, found)

/-- `s.rpartition(sep)`: the part before the last separator (empty if there
is none), the part after it, and whether it occurs. -/
def rpartition (sep : Char) (cs : List Char) : List Char × List Char × Bool :=
  let (a, b, found) := partition sep cs.reverse
  (b.reverse, a.reverse, found)

/-- `s.split(sep)` -/
def splitOn (sep : Char) : List Char → List (List Char)
  | [] => [[]]
  | c :: cs =>
    if c = sep then [] :: splitOn sep cs
    else
      match splitOn sep cs with
      | [] => [[c]]
      | part :: parts => (c :: part) :: parts

/-- `sep.join(parts)` -/
def joinWith (sep : Char) : List (List Char) → List Char
  | [] => []
  | [part] => part
  | part :: parts => part ++ sep :: joinWith sep parts

theorem splitOn_ne_nil (sep : Char) (cs : List Char) : splitOn sep cs ≠ [] := by
  cases cs with
  | nil => simp [splitOn]
  | cons c cs =>
    rw [splitOn]
    split
    · simp
    · split <;> simp

theorem splitOn_append {sep : Char} {part : List Char} (h : sep ∉ part) (rest : List Char) :
    splitOn sep (part ++ sep :: rest) = part :: splitOn sep rest := by
  induction part with
  | nil => rw [List.nil_append, splitOn, if_pos rfl]
  | cons c part ih =>
    rw [List.mem_cons, not_or] at h
    rw [List.cons_append, splitOn, if_neg (Ne.symm h.1), ih h.2]

theorem splitOn_self {sep : Char} {part : List Char} (h : sep ∉ part) : splitOn sep part = [part] := by
  induction part with
  | nil => rfl
  | cons c part ih =>
    rw [List.mem_cons, not_or] at h
    rw [splitOn, if_neg (Ne.symm h.1), ih h.2]

/-- Parts without the separator are split where they were joined. -/
theorem splitOn_joinWith {sep : Char} {parts : List (List Char)} (hne : parts ≠ []) (h : ∀ part ∈ parts, sep ∉ part) :
    splitOn sep (joinWith sep parts) = parts := by
  induction parts with
  | nil => exact absurd rfl hne
  | cons part parts ih =>
    rw [List.forall_mem_cons] at h
    rcases parts with _ | ⟨part', parts⟩
    · exact splitOn_self h.1
    · rw [joinWith, splitOn_append h.1, ih (List.cons_ne_nil _ _) h.2]
      simp

theorem joinWith_splitOn (sep : Char) (cs : List Char) : joinWith sep (splitOn sep cs) = cs := by
  induction cs with
  | nil => rfl
  | cons c cs ih =>
    obtain ⟨part, parts, hparts⟩ := List.exists_cons_of_ne_nil (splitOn_ne_nil sep cs)
    rw [hparts] at ih
    rw [splitOn, hparts]
    split
    · rename_i hc
      rw [joinWith, ih, hc, List.nil_append]
      simp
    · rw [← ih]
      cases parts <;> simp [joinWith]

theorem mem_joinWith {sep c : Char} {parts : List (List Char)} (h : c ∈ joinWith sep parts) :
    c = sep ∨ ∃ part ∈ parts, c ∈ part := by
  induction parts with
  | nil => cases h
  | cons part parts ih =>
    rcases parts with _ | ⟨part', parts⟩
    · exact .inr ⟨part, List.mem_cons_self, h⟩
    · rw [joinWith, List.mem_append, List.mem_cons] at h
      · rcases h with h | h | h
        · exact .inr ⟨part, List.mem_cons_self, h⟩
        · exact .inl h
        · rcases ih h with h | ⟨p, hp, hc⟩
          · exact .inl h
          · exact .inr ⟨p, List.mem_cons_of_mem _ hp, hc⟩
      · simp

theorem not_mem_of_mem_splitOn {sep : Char} {cs part : List Char} (h : part ∈ splitOn sep cs) : sep ∉ part := by
  induction cs generalizing part with
  | nil =>
    obtain rfl := List.mem_singleton.mp h
    exact List.not_mem_nil
  | cons c cs ih =>
    rw [splitOn] at h
    split at h
    · rcases List.mem_cons.mp h with rfl | h
      · exact List.not_mem_nil
      · exact ih h
    · rename_i hc
      obtain ⟨first, parts, hparts⟩ := List.exists_cons_of_ne_nil (splitOn_ne_nil sep cs)
      rw [hparts] at h ih
      rcases List.mem_cons.mp h with rfl | h
      · rw [List.mem_cons, not_or]
        exact ⟨Ne.symm hc, ih List.mem_cons_self⟩
      · exact ih (List.mem_cons_of_mem _ h)

theorem partition_append {sep : Char} {before : List Char} (h : sep ∉ before) (after : List Char) :
    partition sep (before ++ sep :: after) = (before, after, true) := by
  induction before with
  | nil => rw [List.nil_append, partition, if_pos rfl]
  | cons c before ih =>
    rw [List.mem_cons, not_or] at h
    rw [List.cons_append, partition, if_neg (Ne.symm h.1), ih h.2]

theorem partition_self {sep : Char} {cs : List Char} (h : sep ∉ cs) : partition sep cs = (cs, [], false) := by
  induction cs with
  | nil => rfl
  | cons c cs ih =>
    rw [List.mem_cons, not_or] at h
    rw [partition, if_neg (Ne.symm h.1), ih h.2]

/-- A text either lacks the separator or is split at its first occurrence. -/
theorem partition_cases (sep : Char) (cs : List Char) :
    (sep ∉ cs ∧ partition sep cs = (cs, [], false)) ∨
      ∃ before after, sep ∉ before ∧ cs = before ++ sep :: after ∧ partition sep cs = (before, after, true) := by
  by_cases h : sep ∈ cs
  · obtain ⟨before, after, rfl, hb⟩ := List.eq_append_cons_of_mem h
    exact .inr ⟨before, after, hb, rfl, partition_append hb after⟩
  · exact .inl ⟨h, partition_self h⟩

/-- `c.isspace()` -/
def isSpace (c : Char) : Bool :=
  let n := c.toNat
  (9 ≤ n && n ≤ 13) || (28 ≤ n && n ≤ 32) || n == 0x85 || n == 0xa0 || n == 0x1680 || (0x2000 ≤ n && n ≤ 0x200a) ||
    n == 0x2028 || n == 0x2029 || n == 0x202f || n == 0x205f || n == 0x3000

/-- `s.lstrip(p)` -/
def lstrip (p : Char → Bool) (cs : List Char) : List Char := cs.dropWhile p

/-- `s.rstrip(p)` -/
def rstrip (p : Char → Bool) (cs : List Char) : List Char := (cs.reverse.dropWhile p).reverse

/-- `s.strip(p)` -/
def strip (p : Char → Bool) (cs : List Char) : List Char := rstrip p (lstrip p cs)

/-- A character that ends a line for `str.splitlines`. -/
def isLineBreak (c : Char) : Bool :=
  let n := c.toNat
  (10 ≤ n && n ≤ 13) || (28 ≤ n && n ≤ 30) || n == 0x85 || n == 0x2028 || n == 0x2029

/-- `s.splitlines()`; `afterCr` when the character before was the carriage
return of a line break, whose line feed, if it follows, ends no further line. -/
def splitlinesFrom (afterCr : Bool) : List Char → List (List Char)
  | [] => []
  | c :: cs =>
    if afterCr && c == '\n' then splitlinesFrom false cs
    else if isLineBreak c then [] :: splitlinesFrom (c == '\r') cs
    else
      match splitlinesFrom false cs with
      | [] => [[c]]
      | line :: lines => (c :: line) :: lines

/-- `s.splitlines()` -/
def splitlines (cs : List Char) : List (List Char) := splitlinesFrom false cs

/-! ## Digits -/

/-- The value of a hexadecimal digit. -/
def hexValue (c : Char) : Option Nat :=
  let n := c.toNat
  if 48 ≤ n && n ≤ 57 then some (n - 48)
  else if 97 ≤ n && n ≤ 102 then some (n - 87)
  else if 65 ≤ n && n ≤ 70 then some (n - 55)
  else none

/-- The number a string of hexadecimal digits denotes. -/
def hexNumber (cs : List Char) : Option Nat :=
  cs.foldl (fun acc c => do some ((← acc) * 16 + (← hexValue c))) (some 0)

/-- The number a string of decimal digits denotes. -/
def decNumber (cs : List Char) : Nat := cs.foldl (fun acc c => acc * 10 + (c.toNat - 48)) 0

/-- A decimal digit of any script. -/
def digitValue [Runtime] (c : Char) : Option Nat :=
  if c.toNat < 128 then (if isAsciiDigit c then some (c.toNat - 48) else none) else Runtime.decimal c

/-- `int(s)`; `none` where it raises `ValueError`. Single underscores may
stand between digits, of which there are at most 4300. -/
def readInt [Runtime] (s : String) : Option Int := do
  let cs := strip isSpace s.toList
  let (negative, cs) := match cs with
    | '-' :: rest => (true, rest)
    | '+' :: rest => (false, rest)
    | _ => (false, cs)
  let parts := splitOn '_' cs
  if parts.any List.isEmpty || 4300 < parts.flatten.length then none
  else
    let n ← parts.flatten.foldl (fun acc c => do some ((← acc) * 10 + (← digitValue c))) (some 0)
    some (if negative then -(n : Int) else n)

namespace Val

/-- `int(v)`; `none` where it raises `TypeError` or `ValueError`. -/
def toInt [Runtime] : Val → Option Int
  | .bool b => some (if b then 1 else 0)
  | .int i => some i
  | .float f => some (if 0 ≤ f.value then f.value.floor else f.value.ceil)
  | .str s => readInt s
  | _ => Option.none

/-- `s in v`, for a string `s`. -/
def containsStr (v : Val) (s : String) : Except Exc Bool :=
  match v with
  | .list xs => .ok (xs.any (·.eq (.str s)))
  | .dict items => .ok (items.any (·.1 == s))
  | .str t => .ok (decide (s.toList <:+: t.toList))
  | _ => .error (.typeError "argument is not iterable")

end Val

end Py
