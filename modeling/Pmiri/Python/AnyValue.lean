import Pmiri.Canonical

/-!
# Every value of a kind JSON has

A Python string may hold code points that stand for no character, and a number
may be an infinity, no number, or an integer longer than `int` writes. `Val`
has none of these. Here a string is a list of code points and a value may hold
any of them; `json.dumps` and UTF-8 refuse exactly the values that no `Val`
stands for.
-/

namespace Py

/-- A code point: also a surrogate, which stands for no character. -/
structure CodePoint where
  code : Nat
  lt : code < 0x110000
deriving DecidableEq

namespace CodePoint

def ofChar (c : Char) : CodePoint where
  code := c.toNat
  lt := by
    have h : c.toNat.isValidChar := c.valid
    simp only [Nat.isValidChar] at h
    omega

/-- UTF-8 encodes it. -/
def isScalar (p : CodePoint) : Bool := decide p.code.isValidChar

/-- The character of a code point that stands for one. -/
def char (p : CodePoint) : Char := Char.ofNat p.code

@[simp] theorem isScalar_ofChar (c : Char) : (ofChar c).isScalar = true := decide_eq_true c.valid

@[simp] theorem char_ofChar (c : Char) : (ofChar c).char = c := Char.ofNat_toNat c

theorem ofChar_char {p : CodePoint} (h : p.isScalar = true) : ofChar p.char = p := by
  have hvalid : p.code.isValidChar := of_decide_eq_true h
  rw [CodePoint.mk.injEq, char, Char.ofNat, dif_pos hvalid]
  rfl

end CodePoint

/-- A string. -/
structure Str where
  points : List CodePoint
deriving DecidableEq

namespace Str

def ofString (s : String) : Str := ⟨s.toList.map .ofChar⟩

/-- No surrogate stands in it. -/
def isText (s : Str) : Bool := s.points.all CodePoint.isScalar

/-- The text that a string is, if it is one. -/
def text (s : Str) : String := String.ofList (s.points.map CodePoint.char)

@[simp] theorem isText_ofString (s : String) : (ofString s).isText = true := by
  simp [isText, ofString]

@[simp] theorem text_ofString (s : String) : (ofString s).text = s := by
  have hmap : s.toList.map (CodePoint.char ∘ .ofChar) = s.toList.map id := List.map_congr_left fun c _ => CodePoint.char_ofChar c
  rw [text, ofString, List.map_map, hmap, List.map_id, String.ofList_toList]

theorem ofString_text {s : Str} (h : s.isText = true) : ofString s.text = s := by
  have hpoints : s.points.map (.ofChar ∘ CodePoint.char) = s.points.map id :=
    List.map_congr_left fun p hp => CodePoint.ofChar_char (List.all_eq_true.mp h p hp)
  rw [ofString, text, String.toList_ofList, List.map_map, hpoints, List.map_id]

theorem text_eq_empty (s : Str) : s.text = "" ↔ s.points = [] := by
  rw [text, String.ofList_eq, String.toList_empty, List.map_eq_nil_iff]

/-- A text without a null character stands only for itself. -/
theorem text_eq_iff {s : Str} {t : String} (ht : Char.ofNat 0 ∉ t.toList) : s.text = t ↔ s = ofString t := by
  refine ⟨fun he => ?_, fun he => by rw [he, text_ofString]⟩
  have htext : s.isText = true := by
    refine List.all_eq_true.mpr fun p hp => ?_
    by_contra hsurrogate
    refine ht ?_
    rw [← he, text, String.toList_ofList]
    refine List.mem_map.mpr ⟨p, hp, ?_⟩
    rw [CodePoint.char, Char.ofNat, dif_neg (by simpa [CodePoint.isScalar] using hsurrogate)]
    rfl
  rw [← he, ofString_text htext]

theorem eq_ofString_iff {s : Str} (h : s.isText = true) (t : String) : s = ofString t ↔ s.text = t :=
  ⟨fun he => by rw [he, text_ofString], fun he => by rw [← he, ofString_text h]⟩

end Str

/-- What `float` has besides numbers. -/
inductive Nonfinite
  | infinity
  | negInfinity
  | nan
deriving DecidableEq

inductive AnyVal where
  | none
  | bool (b : Bool)
  | int (i : Int)
  | float (f : Double)
  | nonfinite (f : Nonfinite)
  | str (s : Str)
  | list (xs : List AnyVal)
  | dict (items : List (Str × AnyVal))

/-- `sys.get_int_max_str_digits()` -/
def MAX_STR_DIGITS : Nat := 4300

/-- `str(i)` does not raise. -/
@[irreducible] def writesInt (i : Int) : Bool := (Nat.toDigits 10 i.natAbs).length ≤ MAX_STR_DIGITS

theorem writesInt_of_lt {i : Int} (h : i.natAbs < 10) : writesInt i = true := by
  rw [writesInt, decide_eq_true_eq, Nat.toDigits_of_lt_base h, List.length_singleton]
  decide

namespace AnyVal

/-- A string literal of the source. -/
def lit (s : String) : AnyVal := .str (.ofString s)

mutual
/-- `json.dumps(v, allow_nan=False)` does not raise. -/
def dumps : AnyVal → Bool
  | .int i => writesInt i
  | .nonfinite _ => false
  | .list xs => dumpsList xs
  | .dict items => dumpsItems items
  | .none | .bool _ | .float _ | .str _ => true
def dumpsList : List AnyVal → Bool
  | [] => true
  | x :: xs => x.dumps && dumpsList xs
def dumpsItems : List (Str × AnyVal) → Bool
  | [] => true
  | (_, v) :: rest => v.dumps && dumpsItems rest
end

mutual
/-- UTF-8 encodes the text of the value. -/
def encodes : AnyVal → Bool
  | .str s => s.isText
  | .list xs => encodesList xs
  | .dict items => encodesItems items
  | .none | .bool _ | .int _ | .float _ | .nonfinite _ => true
def encodesList : List AnyVal → Bool
  | [] => true
  | x :: xs => x.encodes && encodesList xs
def encodesItems : List (Str × AnyVal) → Bool
  | [] => true
  | (k, v) :: rest => k.isText && v.encodes && encodesItems rest
end

mutual
/-- `str(v)` does not raise. -/
def prints : AnyVal → Bool
  | .int i => writesInt i
  | .list xs => printsList xs
  | .dict items => printsItems items
  | .none | .bool _ | .float _ | .nonfinite _ | .str _ => true
def printsList : List AnyVal → Bool
  | [] => true
  | x :: xs => x.prints && printsList xs
def printsItems : List (Str × AnyVal) → Bool
  | [] => true
  | (_, v) :: rest => v.prints && printsItems rest
end

mutual
/-- The value itself, where its text can be written. -/
def toVal : AnyVal → Val
  | .none => .none
  | .bool b => .bool b
  | .int i => .int i
  | .float f => .float f
  | .nonfinite _ => .none
  | .str s => .str s.text
  | .list xs => .list (toVals xs)
  | .dict items => .dict (toItems items)
def toVals : List AnyVal → List Val
  | [] => []
  | x :: xs => x.toVal :: toVals xs
def toItems : List (Str × AnyVal) → List (String × Val)
  | [] => []
  | (k, v) :: rest => (k.text, v.toVal) :: toItems rest
end

/-- The text of the value can be written. -/
def Writable (v : AnyVal) : Prop := v.dumps = true ∧ v.encodes = true

instance (v : AnyVal) : Decidable v.Writable := inferInstanceAs (Decidable (_ ∧ _))

/-- An integer with more digits than `int` writes. -/
@[irreducible] def unwritten : Int := .ofNat (Nat.pow 10 MAX_STR_DIGITS)

/-- What lookups, truth tests and comparisons with what can be written make of a value: one that cannot be written equals none
that can, and is put as an integer of that kind, or as a list or dictionary that holds one. -/
def seen (v : AnyVal) : Val :=
  if v.Writable then v.toVal
  else
    match v with
    | .int i => .int i
    | .list _ => .list [.int unwritten]
    | .dict _ => .dict [("", .int unwritten)]
    | .none | .bool _ | .float _ | .nonfinite _ | .str _ => .int unwritten

theorem dumpsList_eq_all (xs : List AnyVal) : dumpsList xs = xs.all dumps := by
  induction xs with
  | nil => rfl
  | cons x xs ih => rw [dumpsList, ih, List.all_cons]

theorem encodesList_eq_all (xs : List AnyVal) : encodesList xs = xs.all encodes := by
  induction xs with
  | nil => rfl
  | cons x xs ih => rw [encodesList, ih, List.all_cons]

theorem toVals_eq_map (xs : List AnyVal) : toVals xs = xs.map toVal := by
  induction xs with
  | nil => rfl
  | cons x xs ih => rw [toVals, ih, List.map_cons]

theorem dumpsItems_eq_all (items : List (Str × AnyVal)) : dumpsItems items = items.all fun kv => kv.2.dumps := by
  induction items with
  | nil => rfl
  | cons kv items ih => rw [dumpsItems, ih, List.all_cons]

theorem encodesItems_eq_all (items : List (Str × AnyVal)) :
    encodesItems items = items.all fun kv => kv.1.isText && kv.2.encodes := by
  induction items with
  | nil => rfl
  | cons kv items ih => rw [encodesItems, ih, List.all_cons]

theorem toItems_eq_map (items : List (Str × AnyVal)) : toItems items = items.map fun kv => (kv.1.text, kv.2.toVal) := by
  induction items with
  | nil => rfl
  | cons kv items ih => rw [toItems, ih, List.map_cons]

/-- A dict display whose keys are literals. -/
def ofItems (items : List (String × AnyVal)) : AnyVal := .dict (items.map fun kv => (.ofString kv.1, kv.2))

theorem dumps_ofItems (items : List (String × AnyVal)) : (ofItems items).dumps = items.all fun kv => kv.2.dumps := by
  rw [ofItems, dumps, dumpsItems_eq_all, List.all_map]
  rfl

theorem encodes_ofItems (items : List (String × AnyVal)) : (ofItems items).encodes = items.all fun kv => kv.2.encodes := by
  rw [ofItems, encodes, encodesItems_eq_all, List.all_map]
  exact congrArg (List.all items) (funext fun kv => by simp)

theorem toVal_ofItems {items : List (String × AnyVal)} (h : (items.map Prod.fst).Nodup) :
    (ofItems items).toVal = (Dict.ofItems (items.map fun kv => (kv.1, kv.2.toVal))).toVal := by
  rw [Dict.ofItems_toVal (by simpa [List.map_map, Function.comp_def] using h), ofItems, toVal, toItems_eq_map, List.map_map]
  exact congrArg Val.dict (List.map_congr_left fun kv _ => by simp)

@[simp] theorem dumps_lit (s : String) : (lit s).dumps = true := rfl

@[simp] theorem encodes_lit (s : String) : (lit s).encodes = true := by rw [lit, encodes, Str.isText_ofString]

@[simp] theorem toVal_lit (s : String) : (lit s).toVal = .str s := by rw [lit, toVal, Str.text_ofString]

/-- A value that is looked up as a text is that text. -/
theorem eq_lit_of_seen {v : AnyVal} {x : String} (h : v.seen = .str x) : v = lit x := by
  unfold seen at h
  split at h
  · rename_i hwritable
    cases v with
    | str s =>
      have htext : s.text = x := Val.str.inj h
      rw [lit, (Str.eq_ofString_iff hwritable.2 x).mpr htext]
    | _ => simp [toVal] at h
  · split at h <;> cases h

end AnyVal

end Py

namespace Pmiri

open Py

/-- `json.dumps(…, ensure_ascii=False, allow_nan=False).encode("utf-8")` of any value: what it raises, or the value that
was written. -/
def serialized (v : AnyVal) : Except Exc Val :=
  if !v.dumps then .error (.valueError "ValueError" "value cannot be written as JSON")
  else if !v.encodes then .error (.valueError "UnicodeEncodeError" "surrogates not allowed")
  else .ok v.toVal

theorem serialized_of_writable {v : AnyVal} (h : v.Writable) : serialized v = .ok v.toVal := by
  rw [serialized, h.1, h.2]
  rfl

theorem serialized_of_not_writable {v : AnyVal} (h : ¬ v.Writable) : ∃ e, serialized v = .error e := by
  rw [serialized]
  split
  · exact ⟨_, rfl⟩
  · split
    · exact ⟨_, rfl⟩
    · rename_i hdumps hencodes
      exact absurd ⟨by simpa using hdumps, by simpa using hencodes⟩ h

/-- A JSON object. -/
structure AnyObject where
  items : List (Str × AnyVal)

namespace AnyObject

/-- The fields with their values, those that cannot be written aside: these become values that equal no text of the code and no
fingerprint. -/
def written (o : AnyObject) : Dict := .ofItems (AnyVal.toItems o.items)

def get? (o : AnyObject) (key : String) : Option AnyVal := o.items.lookup (.ofString key)

end AnyObject

/-- `sha256_json` of any value. -/
def sha256Any [Runtime] (v : AnyVal) : Except Exc String := (serialized v).map sha256Json

end Pmiri
