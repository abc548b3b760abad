import Pmiri.Python.Checks
import Mathlib.Data.Bool.AllAny
import Mathlib.Data.List.Sort
import Mathlib.Data.String.Basic

/-!
# Canonical JSON, digests and `str`

`Val.json` is `json.dumps(v, ensure_ascii=False, sort_keys=True,
separators=(",", ":"))`. `Runtime` collects what Python's standard library
computes from tables or by an algorithm that nothing here looks into: SHA-256
of a byte string in hexadecimal, and what the Unicode database says of text
that is not ASCII. Every result of this development holds for every `Runtime`.
-/

namespace Py

/-- A lower-case hexadecimal digit. -/
def isHexDigit (c : Char) : Bool := "0123456789abcdef".toList.contains c

/-- `n` lower-case hexadecimal digits. -/
def isHex (n : Nat) (s : String) : Bool := s.length == n && s.toList.all isHexDigit

/-- What is taken from Python's standard library as it is. -/
class Runtime where
  /-- `hashlib.sha256(b).hexdigest()` -/
  sha256 : ByteArray → String
  sha256_hex (b : ByteArray) : isHex 64 (sha256 b) = true
  /-- `c.isprintable()`, for a character that is not ASCII. -/
  printable : Char → Bool
  /-- `re.fullmatch(r"\w", c)`, for a character that is not ASCII. -/
  word : Char → Bool
  /-- `unicodedata.decimal(c)`, for a character that is not ASCII, where it has one. -/
  decimal : Char → Option Nat
  /-- `s.casefold()`, for text that is not ASCII. -/
  casefold : List Char → List Char
  /-- `s.lower()`, for text that is not ASCII. -/
  lower : List Char → List Char
  /-- `unicodedata.normalize("NFKC", s)`, for text that is not ASCII. -/
  nfkc : List Char → List Char

/-! ## ASCII -/

def isAsciiDigit (c : Char) : Bool := 48 ≤ c.toNat && c.toNat ≤ 57
def isAsciiUpper (c : Char) : Bool := 65 ≤ c.toNat && c.toNat ≤ 90
def isAsciiLower (c : Char) : Bool := 97 ≤ c.toNat && c.toNat ≤ 122
def isAsciiAlpha (c : Char) : Bool := isAsciiUpper c || isAsciiLower c
def isAscii (cs : List Char) : Bool := cs.all (·.toNat < 128)
def lowerAscii (c : Char) : Char := if isAsciiUpper c then Char.ofNat (c.toNat + 32) else c
def upperAscii (c : Char) : Char := if isAsciiLower c then Char.ofNat (c.toNat - 32) else c

section Unicode

variable [Runtime]

/-- `s.lower()` -/
def lower (cs : List Char) : List Char := if isAscii cs then cs.map lowerAscii else Runtime.lower cs

/-- `s.casefold()` -/
def casefold (cs : List Char) : List Char := if isAscii cs then cs.map lowerAscii else Runtime.casefold cs

/-- `re.fullmatch(r"\w", c)` -/
def isWord (c : Char) : Bool :=
  if c.toNat < 128 then isAsciiAlpha c || isAsciiDigit c || c == '_' else Runtime.word c

/-- `c.isprintable()` -/
def isPrintable (c : Char) : Bool := if c.toNat < 128 then 32 ≤ c.toNat && c.toNat < 127 else Runtime.printable c

end Unicode

/-! ## JSON text -/

/-- The lower-case hexadecimal digits of `n`, at least `width` of them. -/
def hexText (width n : Nat) : String :=
  let digits := Nat.toDigits 16 n
  String.ofList (List.replicate (width - digits.length) '0' ++ digits)

/-- A character inside a JSON string. -/
def jsonChar (c : Char) : String :=
  if c = '"' then "\\\"" else if c = '\\' then "\\\\" else if c = '\n' then "\\n" else if c = '\r' then "\\r"
  else if c = '\t' then "\\t" else if c.toNat = 8 then "\\b" else if c.toNat = 12 then "\\f"
  else if c.toNat < 32 then "\\u" ++ hexText 4 c.toNat else c.toString

/-- A JSON string. -/
def jsonStr (s : String) : String := "\"" ++ String.join (s.toList.map jsonChar) ++ "\""

/-- The texts of the items of an object in key order. -/
def sortedItems (items : List (String × String)) : List String :=
  (items.insertionSort fun a b => a.1 ≤ b.1).map fun p => jsonStr p.1 ++ ":" ++ p.2

namespace Val

mutual
/-- The canonical JSON text of a value. -/
def json : Val → String
  | .none => "null"
  | .bool b => if b then "true" else "false"
  | .int i => toString i
  | .float f => f.text
  | .str s => jsonStr s
  | .list xs => "[" ++ ",".intercalate (jsonList xs) ++ "]"
  | .dict items => "\x7b" ++ ",".intercalate (sortedItems (jsonItems items)) ++ "\x7d"
/-- The texts of the elements of an array. -/
def jsonList : List Val → List String
  | [] => []
  | x :: xs => x.json :: jsonList xs
/-- The keys of an object with the texts of their values. -/
def jsonItems : List (String × Val) → List (String × String)
  | [] => []
  | (k, v) :: rest => (k, v.json) :: jsonItems rest
end

end Val

/-! ## Reading JSON text back -/

/-- Items in key order. -/
def sortItems (items : List (String × Val)) : List (String × Val) := items.insertionSort fun a b => a.1 ≤ b.1

namespace Val

mutual
/-- `json.loads(json.dumps(v, sort_keys=True))` -/
def sortKeys : Val → Val
  | .none => .none
  | .bool b => .bool b
  | .int i => .int i
  | .float f => .float f
  | .str s => .str s
  | .list xs => .list (sortKeysList xs)
  | .dict items => .dict (sortItems (sortKeysItems items))
def sortKeysList : List Val → List Val
  | [] => []
  | x :: xs => x.sortKeys :: sortKeysList xs
def sortKeysItems : List (String × Val) → List (String × Val)
  | [] => []
  | (k, v) :: rest => (k, v.sortKeys) :: sortKeysItems rest
end

theorem sortKeysItems_eq_map (items : List (String × Val)) :
    sortKeysItems items = items.map fun kv => (kv.1, kv.2.sortKeys) := by
  induction items with
  | nil => rfl
  | cons kv items ih => rw [sortKeysItems, ih, List.map_cons]

theorem pairwise_sortItems (items : List (String × Val)) : (sortItems items).Pairwise fun a b => a.1 ≤ b.1 := by
  have : Std.Total fun a b : String × Val => a.1 ≤ b.1 := ⟨fun a b => le_total a.1 b.1⟩
  have : IsTrans (String × Val) fun a b => a.1 ≤ b.1 := ⟨fun _ _ _ => le_trans⟩
  exact List.pairwise_insertionSort _ items

theorem sortItems_map (items : List (String × Val)) :
    sortItems (items.map fun kv => (kv.1, kv.2.sortKeys)) = (sortItems items).map fun kv => (kv.1, kv.2.sortKeys) :=
  (List.map_insertionSort _ _ (fun kv : String × Val => (kv.1, kv.2.sortKeys)) items fun _ _ _ _ => Iff.rfl).symm

mutual
/-- A value that was read back is written and read back as it is. -/
theorem sortKeys_sortKeys : ∀ v : Val, v.sortKeys.sortKeys = v.sortKeys
  | .none => by simp only [sortKeys]
  | .bool b => by simp only [sortKeys]
  | .int i => by simp only [sortKeys]
  | .float f => by simp only [sortKeys]
  | .str s => by simp only [sortKeys]
  | .list xs => by simp only [sortKeys, sortKeysList_sortKeysList xs]
  | .dict items => by
    have h := sortKeysItems_sortKeysItems items
    rw [sortKeysItems_eq_map, sortKeysItems_eq_map] at h
    simp only [sortKeys, sortKeysItems_eq_map]
    rw [← sortItems_map, h]
    exact congrArg Val.dict (pairwise_sortItems _).insertionSort_eq
theorem sortKeysList_sortKeysList : ∀ xs : List Val, sortKeysList (sortKeysList xs) = sortKeysList xs
  | [] => rfl
  | x :: xs => by simp only [sortKeysList, sortKeys_sortKeys x, sortKeysList_sortKeysList xs]
theorem sortKeysItems_sortKeysItems : ∀ items : List (String × Val),
    sortKeysItems (sortKeysItems items) = sortKeysItems items
  | [] => rfl
  | (k, v) :: rest => by simp only [sortKeysItems, sortKeys_sortKeys v, sortKeysItems_sortKeysItems rest]
end

end Val

namespace Dict

/-- `dict(sorted(d.items()))` -/
def sorted (d : Dict) : Dict where
  items := sortItems d.items
  nodup := (((List.perm_insertionSort _ d.items).map Prod.fst).nodup_iff).mpr d.nodup

/-- `json.loads(json.dumps(d, sort_keys=True))` -/
def sortKeys (d : Dict) : Dict where
  items := sortItems (d.items.map fun kv => (kv.1, kv.2.sortKeys))
  nodup := by
    refine (((List.perm_insertionSort _ _).map Prod.fst).nodup_iff).mpr ?_
    rw [List.map_map]
    exact d.nodup

@[simp] theorem sortKeys_sortKeys (d : Dict) : d.sortKeys.sortKeys = d.sortKeys := by
  ext1
  have h := Val.sortKeys_sortKeys (.dict d.items)
  simp only [Val.sortKeys, Val.sortKeysItems_eq_map, Val.dict.injEq] at h
  exact h

end Dict

/-! ## `str` and `repr` -/

section Repr

variable [Runtime]

/-- A character inside the `repr` of a string that is quoted with `quote`. -/
def reprChar (quote c : Char) : String :=
  if c = quote || c = '\\' then "\\" ++ c.toString else if c = '\n' then "\\n" else if c = '\r' then "\\r"
  else if c = '\t' then "\\t" else if isPrintable c then c.toString
  else if c.toNat < 0x100 then "\\x" ++ hexText 2 c.toNat
  else if c.toNat < 0x10000 then "\\u" ++ hexText 4 c.toNat else "\\U" ++ hexText 8 c.toNat

/-- `repr(s)` for a string. -/
def reprStr (s : String) : String :=
  let quote := if s.toList.contains '\'' && !s.toList.contains '"' then '"' else '\''
  quote.toString ++ String.join (s.toList.map (reprChar quote)) ++ quote.toString

namespace Val

mutual
/-- `repr(v)` -/
def repr : Val → String
  | .none => "None"
  | .bool b => if b then "True" else "False"
  | .int i => toString i
  | .float f => f.text
  | .str s => reprStr s
  | .list xs => "[" ++ ", ".intercalate (reprList xs) ++ "]"
  | .dict items => "\x7b" ++ ", ".intercalate (reprItems items) ++ "\x7d"
def reprList : List Val → List String
  | [] => []
  | x :: xs => x.repr :: reprList xs
def reprItems : List (String × Val) → List String
  | [] => []
  | (k, v) :: rest => (reprStr k ++ ": " ++ v.repr) :: reprItems rest
end

/-- `str(v)` -/
def toStr : Val → String
  | .str s => s
  | v => v.repr

@[simp] theorem toStr_str (s : String) : (Val.str s).toStr = s := rfl

omit [Runtime] in
theorem toString_int_ne_empty (i : Int) : toString i ≠ "" := by
  cases i with
  | ofNat n => exact Nat.repr_ne_empty
  | negSucc n => exact fun e => absurd (congrArg String.length e) (by simp [toString, Int.repr, String.length_append])

/-- Only an empty string has an empty text. -/
theorem toStr_ne_empty {v : Val} (h : v.truthy = true) : v.toStr ≠ "" := by
  cases v with
  | none => simp [toStr, repr]
  | bool b => cases b <;> simp [toStr, repr]
  | int i => exact toString_int_ne_empty i
  | float f => exact f.text_ne
  | str s => simpa [truthy] using h
  | list xs => simp [toStr, repr]
  | dict items => simp [toStr, repr]

end Val

end Repr

end Py
