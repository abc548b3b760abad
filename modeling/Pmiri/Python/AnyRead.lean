import Pmiri.Python.AnyValue
import Pmiri.Python.JsonRead

/-!
# `json.loads` of any text

The reader as Python has it: `NaN` and the infinities are read, a number that
overflows is an infinity, a surrogate that stands alone is kept, and an integer
of more than 4300 digits raises a plain `ValueError`.
-/

namespace Py

/-! ## Strings -/

def CodePoint.ofNat (n : Nat) : CodePoint := if h : n < 0x110000 then ⟨n, h⟩ else .ofChar (Char.ofNat 0xfffd)

/-- Four hexadecimal digits, and what follows. -/
def readHex : List Char → Option (Nat × List Char)
  | a :: b :: c :: d :: cs => (hexNumber [a, b, c, d]).map fun n => (n, cs)
  | _ => none

/-- What stands after a backslash, and what follows: a pair of surrogates is one code point, and one alone is kept. -/
def readAnyEscape : List Char → Option (CodePoint × List Char)
  | 'u' :: cs =>
    match readHex cs with
    | none => none
    | some (n, cs) =>
      if isHighSurrogate n then
        match cs with
        | '\\' :: 'u' :: rest =>
          match readHex rest with
          | none => none
          | some (m, rest) =>
            if isLowSurrogate m then some (.ofNat (0x10000 + (n - 0xd800) * 0x400 + (m - 0xdc00)), rest) else some (.ofNat n, cs)
        | _ => some (.ofNat n, cs)
      else some (.ofNat n, cs)
  | c :: cs => (shortEscape c).map fun d => (.ofChar d, cs)
  | [] => none

/-- The code points of a string, up to its closing quotation mark, and what follows. -/
def readAnyString : Nat → List Char → Option (List CodePoint × List Char)
  | 0, _ => none
  | _ + 1, [] => none
  | n + 1, c :: cs =>
    if c = '"' then some ([], cs)
    else if c = '\\' then
      match readAnyEscape cs with
      | none => none
      | some (d, cs) => (readAnyString n cs).map fun p => (d :: p.1, p.2)
    else if c.toNat < 32 then none
    else (readAnyString n cs).map fun p => (.ofChar c :: p.1, p.2)

/-- A key with its colon. -/
def readAnyKey : Nat → List Char → Option (Str × List Char)
  | _, [] => none
  | n, c :: cs =>
    if c = '"' then
      match readAnyString n cs with
      | none => none
      | some (k, cs) =>
        match skipSpace cs with
        | [] => none
        | c :: cs => if c = ':' then some (⟨k⟩, skipSpace cs) else none
    else none

/-! ## Numbers -/

/-- The exponent of a number. -/
def exponentOf (text : List Char) : Int :=
  match text.drop 1 with
  | '-' :: digits => -(decNumber digits : Int)
  | '+' :: digits => decNumber digits
  | digits => decNumber digits

/-- The number is rounded to an infinity: its amount is at least 2^1024 - 2^970. -/
def overflows (parts : List Char × List Char × List Char) : Bool :=
  let fraction := parts.2.1.drop 1
  let digits := decNumber ((parts.1.filter isAsciiDigit) ++ fraction)
  let exponent := exponentOf parts.2.2 - fraction.length
  let bound := 2 ^ 1024 - 2 ^ 970
  if digits = 0 then false
  else if 0 ≤ exponent then bound ≤ digits * 10 ^ exponent.toNat
  else bound * 10 ^ (-exponent).toNat ≤ digits

/-- The `ValueError` of `int`, which is no `json.JSONDecodeError`. -/
def tooManyDigits : Exc := .valueError "ValueError" "Exceeds the limit for integer string conversion"

section

variable [FloatText]

/-- The number of a text that was scanned. -/
def anyNumberOf (parts : List Char × List Char × List Char) : Except Exc AnyVal :=
  if parts.2.1.isEmpty && parts.2.2.isEmpty then
    if MAX_STR_DIGITS < (parts.1.filter isAsciiDigit).length then .error tooManyDigits
    else
      match (String.ofList parts.1).toInt? with
      | none => .error jsonDecodeError
      | some i => .ok (.int i)
  else if overflows parts then .ok (.nonfinite (if parts.1.head? = some '-' then .negInfinity else .infinity))
  else .ok (.float (FloatText.float (parts.1 ++ parts.2.1 ++ parts.2.2)))

/-- A number or one of the names. -/
def readAnyScalar (cs : List Char) : Except Exc (AnyVal × List Char) :=
  if "null".toList.isPrefixOf cs then .ok (.none, cs.drop 4)
  else if "true".toList.isPrefixOf cs then .ok (.bool true, cs.drop 4)
  else if "false".toList.isPrefixOf cs then .ok (.bool false, cs.drop 5)
  else
    match scanNumber cs with
    | some (parts, rest) => (anyNumberOf parts).map fun v => (v, rest)
    | none =>
      if "NaN".toList.isPrefixOf cs then .ok (.nonfinite .nan, cs.drop 3)
      else if "Infinity".toList.isPrefixOf cs then .ok (.nonfinite .infinity, cs.drop 8)
      else if "-Infinity".toList.isPrefixOf cs then .ok (.nonfinite .negInfinity, cs.drop 9)
      else .error jsonDecodeError

/-! ## Values -/

/-- `d[k] = v` -/
def setAny (items : List (Str × AnyVal)) (k : Str) (v : AnyVal) : List (Str × AnyVal) :=
  if items.any (·.1 == k) then items.map fun kv => if kv.1 = k then (k, v) else kv else items ++ [(k, v)]

mutual
/-- A value, and what follows. -/
def readAny : Nat → List Char → Except Exc (AnyVal × List Char)
  | 0, _ => .error jsonDecodeError
  | _ + 1, [] => .error jsonDecodeError
  | n + 1, c :: cs =>
    if c = '"' then
      match readAnyString n cs with
      | none => .error jsonDecodeError
      | some (points, cs) => .ok (.str ⟨points⟩, cs)
    else if c = '[' then
      if (skipSpace cs).head? = some ']' then .ok (.list [], (skipSpace cs).tail)
      else (readAnyElements n (skipSpace cs)).map fun p => (.list p.1, p.2)
    else if c = '\x7b' then
      if (skipSpace cs).head? = some '\x7d' then .ok (.dict [], (skipSpace cs).tail)
      else (readAnyMembers n (skipSpace cs)).map fun p => (.dict (p.1.foldl (fun items kv => setAny items kv.1 kv.2) []), p.2)
    else readAnyScalar (c :: cs)
/-- The elements of an array, up to its end. -/
def readAnyElements : Nat → List Char → Except Exc (List AnyVal × List Char)
  | 0, _ => .error jsonDecodeError
  | n + 1, cs =>
    match readAny n cs with
    | .error e => .error e
    | .ok (v, cs) =>
      match skipSpace cs with
      | [] => .error jsonDecodeError
      | c :: cs =>
        if c = ']' then .ok ([v], cs)
        else if c = ',' then (readAnyElements n (skipSpace cs)).map fun p => (v :: p.1, p.2)
        else .error jsonDecodeError
/-- The members of an object, up to its end. -/
def readAnyMembers : Nat → List Char → Except Exc (List (Str × AnyVal) × List Char)
  | 0, _ => .error jsonDecodeError
  | n + 1, cs =>
    match readAnyKey n cs with
    | none => .error jsonDecodeError
    | some (k, cs) =>
      match readAny n cs with
      | .error e => .error e
      | .ok (v, cs) =>
        match skipSpace cs with
        | [] => .error jsonDecodeError
        | c :: cs =>
          if c = '\x7d' then .ok ([(k, v)], cs)
          else if c = ',' then (readAnyMembers n (skipSpace cs)).map fun p => ((k, v) :: p.1, p.2)
          else .error jsonDecodeError
end

/-- `json.loads(s)` -/
def anyLoads (s : String) : Except Exc AnyVal :=
  match readAny (2 * s.toList.length + 2) (skipSpace s.toList) with
  | .error e => .error e
  | .ok (v, rest) => if (skipSpace rest).isEmpty then .ok v else .error jsonDecodeError

/-- `json.loads(path.read_text(encoding="utf-8"))`, of what is in the file. -/
def anyLoadsBytes (b : ByteArray) : Except Exc AnyVal :=
  match String.fromUTF8? b with
  | none => .error (.valueError "UnicodeDecodeError" "invalid start byte")
  | some s => anyLoads s

end

/-- `except (OSError, UnicodeDecodeError, json.JSONDecodeError)` catches it. -/
def isUnreadable : Exc → Bool
  | .osError _ => true
  | .valueError cls _ => cls == "UnicodeDecodeError" || cls == "JSONDecodeError"
  | _ => false

/-! ## Texts of values -/

/-- The code point of a string in its representation. -/
def reprPoint [Runtime] (quote : Char) (p : CodePoint) : String :=
  if p.isScalar then reprChar quote p.char else "\\u" ++ String.ofList (Nat.toDigits 16 p.code)

namespace AnyVal

variable [Runtime]

def reprAnyStr (s : Str) : String :=
  let holds (c : Char) : Bool := s.points.contains (.ofChar c)
  let quote := if holds '\'' && !holds '"' then '"' else '\''
  String.singleton quote ++ String.join (s.points.map (reprPoint quote)) ++ String.singleton quote

mutual
/-- `repr(v)` -/
def repr : AnyVal → String
  | .none => "None"
  | .bool b => if b then "True" else "False"
  | .int i => toString i
  | .float f => f.text
  | .nonfinite .infinity => "inf"
  | .nonfinite .negInfinity => "-inf"
  | .nonfinite .nan => "nan"
  | .str s => reprAnyStr s
  | .list xs => "[" ++ String.intercalate ", " (reprList xs) ++ "]"
  | .dict items => "\x7b" ++ String.intercalate ", " (reprItems items) ++ "\x7d"
def reprList : List AnyVal → List String
  | [] => []
  | x :: xs => x.repr :: reprList xs
def reprItems : List (Str × AnyVal) → List String
  | [] => []
  | (k, v) :: rest => (reprAnyStr k ++ ": " ++ v.repr) :: reprItems rest
end

/-- `str(v)` -/
def toStr : AnyVal → Str
  | .str s => s
  | v => .ofString v.repr

omit [Runtime] in
/-- `v.get(k, default)`, for a value that may not be a dictionary. -/
def getDOf (v : AnyVal) (k : String) (default : AnyVal) : Except Exc AnyVal :=
  match v with
  | .dict items => .ok ((items.lookup (.ofString k)).getD default)
  | _ => .error (.attributeError "object has no attribute 'get'")

end AnyVal

/-- A surrogate alone is read, and kept. -/
example [FloatText] : readAnyString 20 "\\ud800a\"".toList = some ([⟨0xd800, by decide⟩, .ofChar 'a'], []) := by decide

end Py
