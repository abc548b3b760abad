import Mathlib.Data.List.TakeWhile
import Pmiri.Python.JsonText
import Pmiri.Python.Text

/-!
# `json.loads`

A reader of JSON text as Python's, and that it reads canonical text back. What
JSON has no value for is not read: `NaN`, the infinities, and surrogates that
stand alone. The number of a float is what `float` reads in its text.
-/

namespace Py

/-- `float(text)`, for the text of a JSON number. -/
class FloatText where
  float : List Char → Double

/-- For texts that have no float in them. -/
@[reducible] def withoutFloats : FloatText where
  float _ := ⟨"0.0", 0, by decide⟩

/-! ## Texts -/

/-- `[ \t\n\r]` -/
def isJsonSpace (c : Char) : Bool := c == ' ' || c == '\t' || c == '\n' || c == '\r'

def skipSpace (cs : List Char) : List Char := cs.dropWhile isJsonSpace

/-- The character that stands after a backslash for another. -/
def shortEscape (c : Char) : Option Char :=
  if c = '"' then some '"' else if c = '\\' then some '\\' else if c = '/' then some '/'
  else if c = 'b' then some (Char.ofNat 8) else if c = 'f' then some (Char.ofNat 12) else if c = 'n' then some '\n'
  else if c = 'r' then some '\r' else if c = 't' then some '\t' else none

def isHighSurrogate (n : Nat) : Bool := 0xd800 ≤ n && n ≤ 0xdbff

def isLowSurrogate (n : Nat) : Bool := 0xdc00 ≤ n && n ≤ 0xdfff

/-- The character of a code point that is no surrogate. -/
def charOf (n : Nat) : Option Char := if n.isValidChar then some (Char.ofNat n) else none

/-- What stands after a backslash, and what follows. -/
def readEscape : List Char → Option (Char × List Char)
  | 'u' :: a :: b :: c :: d :: cs =>
    match hexNumber [a, b, c, d] with
    | none => none
    | some n =>
      if isHighSurrogate n then
        match cs with
        | '\\' :: 'u' :: a :: b :: c :: d :: rest =>
          match hexNumber [a, b, c, d] with
          | none => none
          | some m =>
            if isLowSurrogate m then (charOf (0x10000 + (n - 0xd800) * 0x400 + (m - 0xdc00))).map fun c => (c, rest) else none
        | _ => none
      else (charOf n).map fun c => (c, cs)
  | c :: cs => (shortEscape c).map fun d => (d, cs)
  | [] => none

/-- The characters of a string, up to its closing quotation mark, and what follows. -/
def readString : Nat → List Char → Option (List Char × List Char)
  | 0, _ => none
  | _ + 1, [] => none
  | n + 1, c :: cs =>
    if c = '"' then some ([], cs)
    else if c = '\\' then
      match readEscape cs with
      | none => none
      | some (d, cs) => (readString n cs).map fun p => (d :: p.1, p.2)
    else if c.toNat < 32 then none
    else (readString n cs).map fun p => (c :: p.1, p.2)

/-- A key with its colon. -/
def readKey : Nat → List Char → Option (String × List Char)
  | _, [] => none
  | n, c :: cs =>
    if c = '"' then
      match readString n cs with
      | none => none
      | some (k, cs) =>
        match skipSpace cs with
        | [] => none
        | c :: cs => if c = ':' then some (String.ofList k, skipSpace cs) else none
    else none

/-! ## Numbers -/

/-- `-?(?:0|[1-9][0-9]*)` -/
def scanInteger : List Char → Option (List Char × List Char)
  | [] => none
  | c :: cs =>
    if c = '0' then some (['0'], cs)
    else if isAsciiDigit c then some (c :: cs.takeWhile isAsciiDigit, cs.dropWhile isAsciiDigit)
    else none

def scanSigned : List Char → Option (List Char × List Char)
  | [] => none
  | c :: cs => if c = '-' then (scanInteger cs).map fun p => ('-' :: p.1, p.2) else scanInteger (c :: cs)

/-- `(\.[0-9]+)?` -/
def scanFraction : List Char → List Char × List Char
  | [] => ([], [])
  | c :: cs =>
    if c = '.' ∧ cs.takeWhile isAsciiDigit ≠ [] then (c :: cs.takeWhile isAsciiDigit, cs.dropWhile isAsciiDigit)
    else ([], c :: cs)

/-- `[-+]?` -/
def scanSign : List Char → List Char × List Char
  | [] => ([], [])
  | c :: cs => if c = '+' ∨ c = '-' then ([c], cs) else ([], c :: cs)

/-- `([eE][-+]?[0-9]+)?` -/
def scanExponent : List Char → List Char × List Char
  | [] => ([], [])
  | c :: cs =>
    if (c = 'e' ∨ c = 'E') ∧ (scanSign cs).2.takeWhile isAsciiDigit ≠ [] then
      (c :: (scanSign cs).1 ++ (scanSign cs).2.takeWhile isAsciiDigit, (scanSign cs).2.dropWhile isAsciiDigit)
    else ([], c :: cs)

/-- The integer part of a number, its fraction and its exponent, and what follows. -/
def scanNumber (cs : List Char) : Option ((List Char × List Char × List Char) × List Char) :=
  (scanSigned cs).map fun integer =>
    let fraction := scanFraction integer.2
    let exponent := scanExponent fraction.2
    ((integer.1, fraction.1, exponent.1), exponent.2)

section

variable [FloatText]

/-- The number of a text that was scanned. -/
def numberOf (parts : List Char × List Char × List Char) : Option Val :=
  if parts.2.1.isEmpty && parts.2.2.isEmpty then (String.ofList parts.1).toInt?.map .int
  else some (.float (FloatText.float (parts.1 ++ parts.2.1 ++ parts.2.2)))

/-- A number or one of the names. -/
def readScalar (cs : List Char) : Option (Val × List Char) :=
  if "null".toList.isPrefixOf cs then some (.none, cs.drop 4)
  else if "true".toList.isPrefixOf cs then some (.bool true, cs.drop 4)
  else if "false".toList.isPrefixOf cs then some (.bool false, cs.drop 5)
  else (scanNumber cs).bind fun p => (numberOf p.1).map fun v => (v, p.2)

/-! ## Values -/

mutual
/-- A value, and what follows. -/
def readValue : Nat → List Char → Option (Val × List Char)
  | 0, _ => none
  | _ + 1, [] => none
  | n + 1, c :: cs =>
    if c = '"' then (readString n cs).map fun p => (.str (String.ofList p.1), p.2)
    else if c = '[' then
      if (skipSpace cs).head? = some ']' then some (.list [], (skipSpace cs).tail)
      else (readElements n (skipSpace cs)).map fun p => (.list p.1, p.2)
    else if c = '\x7b' then
      if (skipSpace cs).head? = some '\x7d' then some (.dict [], (skipSpace cs).tail)
      else (readMembers n (skipSpace cs)).map fun p => ((Dict.ofItems p.1).toVal, p.2)
    else readScalar (c :: cs)
/-- The elements of an array, up to its end. -/
def readElements : Nat → List Char → Option (List Val × List Char)
  | 0, _ => none
  | n + 1, cs =>
    match readValue n cs with
    | none => none
    | some (v, cs) =>
      match skipSpace cs with
      | [] => none
      | c :: cs =>
        if c = ']' then some ([v], cs)
        else if c = ',' then (readElements n (skipSpace cs)).map fun p => (v :: p.1, p.2)
        else none
/-- The members of an object, up to its end. -/
def readMembers : Nat → List Char → Option (List (String × Val) × List Char)
  | 0, _ => none
  | n + 1, cs =>
    match readKey n cs with
    | none => none
    | some (k, cs) =>
      match readValue n cs with
      | none => none
      | some (v, cs) =>
        match skipSpace cs with
        | [] => none
        | c :: cs =>
          if c = '\x7d' then some ([(k, v)], cs)
          else if c = ',' then (readMembers n (skipSpace cs)).map fun p => ((k, v) :: p.1, p.2)
          else none
end

/-- `json.JSONDecodeError`; its text is not kept. -/
def jsonDecodeError : Exc := .valueError "JSONDecodeError" "invalid JSON"

/-- `json.loads(s)` -/
def jsonLoads (s : String) : Except Exc Val :=
  match readValue (2 * s.toList.length + 2) (skipSpace s.toList) with
  | some (v, rest) => if (skipSpace rest).isEmpty then .ok v else .error jsonDecodeError
  | none => .error jsonDecodeError

/-- `json.loads(b)`, of UTF-8. -/
def jsonLoadsBytes (b : ByteArray) : Except Exc Val :=
  match String.fromUTF8? b with
  | none => .error (.valueError "UnicodeDecodeError" "invalid start byte")
  | some s => jsonLoads s

end

/-! ## What is written is read -/

theorem takeWhile_append_stop {p : Char → Bool} {r : List Char} (h : ∀ c ∈ r.head?, p c = false) (cs : List Char) :
    (cs ++ r).takeWhile p = cs.takeWhile p ∧ (cs ++ r).dropWhile p = cs.dropWhile p ++ r := by
  induction cs with
  | nil =>
    cases r with
    | nil => exact ⟨rfl, rfl⟩
    | cons c r =>
      have hc := h c rfl
      simp [hc]
  | cons c cs ih =>
    cases hc : p c with
    | true => simp [hc, ih.1, ih.2]
    | false => simp [hc]

theorem Ends.not_digit {r : List Char} (h : Ends r) : ∀ c ∈ r.head?, isAsciiDigit c = false := by
  intro c hc
  have hnumber := h.not_number c hc
  rw [isNumberChar, Bool.or_eq_false_iff] at hnumber
  exact hnumber.1

theorem Ends.ne {r : List Char} (h : Ends r) {c : Char} {cs : List Char} (hr : r = c :: cs) {d : Char}
    (hd : d ∉ [',', ']', '\x7d', '\n']) : c ≠ d := by
  rintro rfl
  exact hd (h c (by rw [hr]; rfl))

/-! ### Numbers -/

theorem scanInteger_append {cs p rest r : List Char} (hr : Ends r) (h : scanInteger cs = some (p, rest)) :
    scanInteger (cs ++ r) = some (p, rest ++ r) := by
  cases cs with
  | nil => cases h
  | cons c cs =>
    have hwhile := takeWhile_append_stop hr.not_digit cs
    rw [scanInteger] at h
    rw [List.cons_append, scanInteger, hwhile.1, hwhile.2]
    split_ifs at h ⊢ with h₁ h₂
    · obtain ⟨rfl, rfl⟩ := Prod.mk.inj (Option.some.inj h)
      rfl
    · obtain ⟨rfl, rfl⟩ := Prod.mk.inj (Option.some.inj h)
      rfl

theorem scanSigned_append {cs p rest r : List Char} (hr : Ends r) (h : scanSigned cs = some (p, rest)) :
    scanSigned (cs ++ r) = some (p, rest ++ r) := by
  cases cs with
  | nil => cases h
  | cons c cs =>
    rw [scanSigned] at h
    rw [List.cons_append, scanSigned]
    split_ifs at h ⊢ with hc
    · obtain ⟨⟨q, rest'⟩, hq, hp⟩ := Option.map_eq_some_iff.mp h
      obtain ⟨rfl, rfl⟩ := Prod.mk.inj hp
      rw [scanInteger_append hr hq]
      rfl
    · exact scanInteger_append hr h

theorem scanFraction_append {r : List Char} (hr : Ends r) (cs : List Char) :
    scanFraction (cs ++ r) = ((scanFraction cs).1, (scanFraction cs).2 ++ r) := by
  cases cs with
  | nil =>
    cases r with
    | nil => rfl
    | cons c r =>
      have hc : c ≠ '.' := hr.ne rfl (by decide)
      simp [scanFraction, hc]
  | cons c cs =>
    have hwhile := takeWhile_append_stop hr.not_digit cs
    rw [List.cons_append, scanFraction, scanFraction, hwhile.1, hwhile.2]
    split <;> rfl

theorem scanSign_append {r : List Char} (hr : Ends r) (cs : List Char) :
    scanSign (cs ++ r) = ((scanSign cs).1, (scanSign cs).2 ++ r) := by
  cases cs with
  | nil =>
    cases r with
    | nil => rfl
    | cons c r =>
      have hplus : c ≠ '+' := hr.ne rfl (by decide)
      have hminus : c ≠ '-' := hr.ne rfl (by decide)
      simp [scanSign, hplus, hminus]
  | cons c cs =>
    rw [List.cons_append, scanSign, scanSign]
    split <;> rfl

theorem scanExponent_append {r : List Char} (hr : Ends r) (cs : List Char) :
    scanExponent (cs ++ r) = ((scanExponent cs).1, (scanExponent cs).2 ++ r) := by
  cases cs with
  | nil =>
    cases r with
    | nil => rfl
    | cons c r =>
      have hlower : c ≠ 'e' := hr.ne rfl (by decide)
      have hupper : c ≠ 'E' := hr.ne rfl (by decide)
      simp [scanExponent, hlower, hupper]
  | cons c cs =>
    have hsign := scanSign_append hr cs
    have hwhile := takeWhile_append_stop hr.not_digit (scanSign cs).2
    rw [List.cons_append, scanExponent, scanExponent, hsign]
    simp only [hwhile.1, hwhile.2]
    split <;> rfl

/-- A number is scanned up to what ends a value. -/
theorem scanNumber_append {cs r : List Char} {parts : List Char × List Char × List Char} (hr : Ends r)
    (h : scanNumber cs = some (parts, [])) : scanNumber (cs ++ r) = some (parts, r) := by
  obtain ⟨⟨integer, rest⟩, hinteger, hparts⟩ := Option.map_eq_some_iff.mp h
  obtain ⟨rfl, hrest⟩ := Prod.mk.inj hparts
  simp only at hrest
  simp only [scanNumber, scanSigned_append hr hinteger, Option.map_some, scanFraction_append hr, scanExponent_append hr, hrest,
    List.nil_append]

theorem scanInteger_eq {cs p rest : List Char} (h : scanInteger cs = some (p, rest)) : p ++ rest = cs := by
  cases cs with
  | nil => cases h
  | cons c cs =>
    rw [scanInteger] at h
    split_ifs at h with h₁ h₂
    · obtain ⟨rfl, rfl⟩ := Prod.mk.inj (Option.some.inj h)
      rw [h₁]
      rfl
    · obtain ⟨rfl, rfl⟩ := Prod.mk.inj (Option.some.inj h)
      rw [List.cons_append, List.takeWhile_append_dropWhile]

theorem scanFraction_eq (cs : List Char) : (scanFraction cs).1 ++ (scanFraction cs).2 = cs := by
  cases cs with
  | nil => rfl
  | cons c cs =>
    rw [scanFraction]
    split
    · exact congrArg (c :: ·) List.takeWhile_append_dropWhile
    · rfl

theorem scanSign_eq (cs : List Char) : (scanSign cs).1 ++ (scanSign cs).2 = cs := by
  cases cs with
  | nil => rfl
  | cons c cs =>
    rw [scanSign]
    split <;> rfl

theorem scanExponent_eq (cs : List Char) : (scanExponent cs).1 ++ (scanExponent cs).2 = cs := by
  cases cs with
  | nil => rfl
  | cons c cs =>
    rw [scanExponent]
    split
    · simp only [List.cons_append, List.append_assoc, List.takeWhile_append_dropWhile, scanSign_eq]
    · rfl

/-- The parts of a number are its text. -/
theorem scanNumber_eq {cs : List Char} {parts : List Char × List Char × List Char} (h : scanNumber cs = some (parts, [])) :
    parts.1 ++ parts.2.1 ++ parts.2.2 = cs := by
  obtain ⟨⟨integer, rest⟩, hinteger, hparts⟩ := Option.map_eq_some_iff.mp h
  obtain ⟨rfl, hrest⟩ := Prod.mk.inj hparts
  have hsigned : integer ++ rest = cs := by
    cases cs with
    | nil => cases hinteger
    | cons c cs =>
      rw [scanSigned] at hinteger
      split_ifs at hinteger with hc
      · obtain ⟨⟨q, rest'⟩, hq, hp⟩ := Option.map_eq_some_iff.mp hinteger
        obtain ⟨rfl, rfl⟩ := Prod.mk.inj hp
        rw [List.cons_append, scanInteger_eq hq, hc]
      · exact scanInteger_eq hinteger
  have hfraction := scanFraction_eq rest
  have hexponent := scanExponent_eq (scanFraction rest).2
  simp only at hrest
  rw [hrest, List.append_nil] at hexponent
  rw [List.append_assoc, hexponent, hfraction, hsigned]

theorem head_toDigits {n : Nat} (h : n ≠ 0) : (Nat.toDigits 10 n).head? ≠ some '0' := by
  induction n using Nat.strongRecOn with
  | ind n ih =>
    by_cases hn : n < 10
    · rw [Nat.toDigits_of_lt_base hn]
      have hdigit : ∀ d < 10, d ≠ 0 → [Nat.digitChar d].head? ≠ some '0' := by decide
      exact hdigit n hn h
    · rw [Nat.toDigits_of_base_le (by decide) (by omega), List.head?_append_of_ne_nil _ Nat.toDigits_ne_nil]
      exact ih (n / 10) (by omega) (by omega)

theorem isAsciiDigit_of_mem_toDigits {n : Nat} {c : Char} (hc : c ∈ Nat.toDigits 10 n) : isAsciiDigit c = true := by
  have hdigit := Nat.isDigit_of_mem_toDigits (by decide) (by decide) hc
  rw [Char.isDigit, Bool.and_eq_true, decide_eq_true_iff, decide_eq_true_iff] at hdigit
  rw [isAsciiDigit, Bool.and_eq_true, decide_eq_true_iff, decide_eq_true_iff]
  exact hdigit

theorem scanInteger_toDigits (n : Nat) : scanInteger (Nat.toDigits 10 n) = some (Nat.toDigits 10 n, []) := by
  have hdigits : ∀ c ∈ Nat.toDigits 10 n, isAsciiDigit c = true := fun c hc => isAsciiDigit_of_mem_toDigits hc
  by_cases hn : n = 0
  · rw [hn]
    rfl
  · have hhead := head_toDigits hn
    cases hcs : Nat.toDigits 10 n with
    | nil => exact absurd hcs Nat.toDigits_ne_nil
    | cons c cs =>
      rw [hcs] at hdigits hhead
      have hc : c ≠ '0' := fun e => hhead (by rw [e]; rfl)
      have htail : ∀ d ∈ cs, isAsciiDigit d = true := fun d hd => hdigits d (List.mem_cons_of_mem c hd)
      rw [scanInteger, if_neg hc, if_pos (hdigits c List.mem_cons_self), List.takeWhile_eq_self_iff.mpr htail,
        List.dropWhile_eq_nil_iff.mpr htail]

/-- An integer is scanned as an integer. -/
theorem scanNumber_toString (i : Int) : scanNumber (toString i).toList = some (((toString i).toList, [], []), []) := by
  have hsigned : scanSigned (toString i).toList = some ((toString i).toList, []) := by
    cases i with
    | ofNat n =>
      rw [show (toString (Int.ofNat n)).toList = Nat.toDigits 10 n from Nat.toList_repr]
      cases hcs : Nat.toDigits 10 n with
      | nil => exact absurd hcs Nat.toDigits_ne_nil
      | cons c cs =>
        have hc : c ≠ '-' := by
          rintro rfl
          have hdigit := isAsciiDigit_of_mem_toDigits (n := n) (hcs ▸ List.mem_cons_self)
          cases hdigit
        rw [scanSigned, if_neg hc, ← hcs, scanInteger_toDigits]
    | negSucc n =>
      rw [show (toString (Int.negSucc n)).toList = '-' :: Nat.toDigits 10 (n + 1) by
        rw [show toString (Int.negSucc n) = "-" ++ (n + 1).repr from rfl, String.toList_append, Nat.toList_repr]
        rfl]
      rw [scanSigned, if_pos rfl, scanInteger_toDigits]
      rfl
  rw [scanNumber, hsigned]
  rfl

/-! ### Strings -/

/-- What stands for an escaped character after its backslash. -/
def ReadsEscape (c : Char) : Prop :=
  match (jsonChar c).toList with
  | ['\\', e] => e ≠ 'u' ∧ shortEscape e = some c
  | ['\\', 'u', x, y, z, w] => hexNumber [x, y, z, w] = some c.toNat
  | _ => False

instance (c : Char) : Decidable (ReadsEscape c) := by
  unfold ReadsEscape
  split <;> infer_instance

theorem readsEscape_of_mem : ∀ c ∈ escapedChars, ReadsEscape c := List.all_iff_forall_prop.mp (by decide +kernel)

theorem charOf_toNat (c : Char) : charOf c.toNat = some c := by
  have hvalid : c.toNat.isValidChar := c.valid
  rw [charOf, if_pos hvalid, Char.ofNat_toNat]

theorem toNat_lt_of_escaped : ∀ c ∈ escapedChars, c.toNat < 128 := List.all_iff_forall_prop.mp (by decide)

/-- The text of a character is read as the character. -/
theorem readString_jsonChar (n : Nat) (c : Char) (cs : List Char) :
    readString (n + 1) ((jsonChar c).toList ++ cs) = (readString n cs).map fun p => (c :: p.1, p.2) := by
  by_cases hc : c ∈ escapedChars
  · have hreads := readsEscape_of_mem c hc
    have hsmall := toNat_lt_of_escaped c hc
    have hquote : '\\' ≠ '"' := by decide
    unfold ReadsEscape at hreads
    split at hreads
    · rename_i e heq
      have hescape : readEscape (e :: cs) = some (c, cs) := by
        have hfirst : readEscape (e :: cs) = (shortEscape e).map fun d => (d, cs) := by
          unfold readEscape
          split
          · rename_i h
            exact absurd (List.cons.inj h).1 hreads.1
          · rename_i h
            obtain ⟨rfl, rfl⟩ := List.cons.inj h
            rfl
          · rename_i h
            cases h
        rw [hfirst, hreads.2]
        rfl
      rw [heq]
      show readString (n + 1) ('\\' :: e :: cs) = _
      rw [readString, if_neg hquote, if_pos rfl, hescape]
    · rename_i x y z w heq
      have hhigh : isHighSurrogate c.toNat = false := by
        rw [isHighSurrogate, Bool.and_eq_false_iff, decide_eq_false_iff_not]
        omega
      have hescape : readEscape ('u' :: x :: y :: z :: w :: cs) = some (c, cs) := by
        simp only [readEscape, hreads, hhigh, Bool.false_eq_true, ↓reduceIte, charOf_toNat, Option.map_some]
      rw [heq]
      show readString (n + 1) ('\\' :: 'u' :: x :: y :: z :: w :: cs) = _
      rw [readString, if_neg hquote, if_pos rfl, hescape]
    · exact hreads.elim
  · have hne : ∀ d ∈ escapedChars, c ≠ d := fun d hd e => hc (e ▸ hd)
    have hcontrol : ¬ c.toNat < 32 := fun hlt => hc (by
      refine List.mem_cons_of_mem _ (List.mem_cons_of_mem _ (List.mem_map.mpr ⟨c.toNat, List.mem_range.mpr hlt, ?_⟩))
      exact Char.ofNat_toNat c)
    rw [jsonChar_of_not_mem hc, List.singleton_append, readString, if_neg (hne '"' (by decide)),
      if_neg (hne '\\' (by decide)), if_neg hcontrol]

/-- The text of a string is read as the string, up to its closing quotation mark. -/
theorem readString_chars (cs : List Char) {n : Nat} (hn : cs.length < n) (r : List Char) :
    readString n ((cs.flatMap fun c => (jsonChar c).toList) ++ '"' :: r) = some (cs, r) := by
  obtain ⟨n, rfl⟩ : ∃ m, n = m + 1 := ⟨n - 1, by omega⟩
  induction cs generalizing n with
  | nil => rfl
  | cons c cs ih =>
    obtain ⟨m, rfl⟩ : ∃ m, n = m + 1 := ⟨n - 1, by rw [List.length_cons] at hn; omega⟩
    rw [List.flatMap_cons, List.append_assoc, readString_jsonChar, ih m (by rw [List.length_cons] at hn; omega)]
    rfl

theorem length_le_jsonStr (s : String) : s.toList.length + 2 ≤ (jsonStr s).toList.length := by
  have hchar : ∀ c : Char, 1 ≤ (jsonChar c).toList.length := by
    intro c
    by_cases hc : c ∈ escapedChars
    · have h := (jsonChar_escaped c hc).2
      omega
    · rw [jsonChar_of_not_mem hc]
      exact Nat.le_refl 1
  have hchars : ∀ cs : List Char, cs.length ≤ (cs.flatMap fun c => (jsonChar c).toList).length := by
    intro cs
    induction cs with
    | nil => exact Nat.le_refl 0
    | cons c cs ih =>
      have h := hchar c
      rw [List.flatMap_cons, List.length_append, List.length_cons]
      omega
  have h := hchars s.toList
  rw [toList_jsonStr, List.length_append, List.length_cons, List.length_singleton]
  omega

/-! ### Values -/

section

variable [FloatText]

/-- A float whose text is that of a number and is read as the float. -/
structure Double.Readable (f : Double) : Prop where
  scanned : ∃ parts, scanNumber f.text.toList = some (parts, []) ∧ ¬ (parts.2.1 = [] ∧ parts.2.2 = [])
  read : FloatText.float f.text.toList = f

namespace Val

mutual
/-- Its floats are read as they are written, and its dictionaries have distinct keys. -/
def Readable : Val → Prop
  | .float f => f.Readable
  | .list xs => ReadableList xs
  | .dict items => (items.map Prod.fst).Nodup ∧ ReadableItems items
  | _ => True
def ReadableList : List Val → Prop
  | [] => True
  | x :: xs => x.Readable ∧ ReadableList xs
def ReadableItems : List (String × Val) → Prop
  | [] => True
  | (_, v) :: rest => v.Readable ∧ ReadableItems rest
end

theorem readableList_iff {xs : List Val} : ReadableList xs ↔ ∀ x ∈ xs, x.Readable := by
  induction xs with
  | nil => simp [ReadableList]
  | cons x xs ih => simp [ReadableList, ih]

theorem readableItems_iff {items : List (String × Val)} : ReadableItems items ↔ ∀ kv ∈ items, kv.2.Readable := by
  induction items with
  | nil => simp [ReadableItems]
  | cons kv items ih => simp [ReadableItems, ih]

theorem readable_toVal {d : Dict} : d.toVal.Readable ↔ ∀ kv ∈ d.items, kv.2.Readable := by
  rw [Dict.toVal, Readable, readableItems_iff]
  exact and_iff_right d.nodup

theorem readable_ofItems {l : List (String × Val)} (h : ∀ kv ∈ l, kv.2.Readable) : (Dict.ofItems l).toVal.Readable :=
  readable_toVal.mpr fun kv hkv => h kv (Dict.mem_ofItems hkv)

theorem readable_insert {d : Dict} (h : d.toVal.Readable) (k : String) {v : Val} (hv : v.Readable) : (d.insert k v).toVal.Readable := by
  refine readable_toVal.mpr fun kv hkv => ?_
  have hget := Dict.mem_items_iff.mp hkv
  rw [Dict.get?_insert] at hget
  split at hget
  · rw [← Option.some.inj hget]
    exact hv
  · exact readable_toVal.mp h kv (Dict.mem_items_iff.mpr hget)

theorem readable_asDict {v : Val} (h : v.Readable) {d : Dict} (hd : v.asDict = some d) : d.toVal.Readable := by
  cases v with
  | dict items =>
    obtain rfl := Option.some.inj hd
    simp only [Readable, readableItems_iff] at h
    exact readable_ofItems h.2
  | _ => cases hd

theorem readable_get {d : Dict} (h : d.toVal.Readable) (k : String) : (d.get k).Readable := by
  rw [Dict.get]
  cases hk : d.get? k with
  | none => trivial
  | some v => exact readable_toVal.mp h (k, v) (Dict.mem_items_iff.mpr hk)

mutual
/-- What is read back can be read back again. -/
theorem readable_sortKeys : ∀ {v : Val}, v.Readable → v.sortKeys.Readable
  | .none, h => h
  | .bool _, h => h
  | .int _, h => h
  | .float _, h => h
  | .str _, h => h
  | .list xs, h => by
    simp only [sortKeys, Readable] at h ⊢
    exact readable_sortKeysList h
  | .dict items, h => by
    simp only [sortKeys, Readable, readableItems_iff] at h ⊢
    have hperm : (sortItems (sortKeysItems items)).Perm (sortKeysItems items) := List.perm_insertionSort _ _
    constructor
    · rw [(hperm.map Prod.fst).nodup_iff, sortKeysItems_eq_map, List.map_map]
      exact h.1
    · intro kv hkv
      exact readable_sortKeysItems (readableItems_iff.mpr h.2) kv (hperm.mem_iff.mp hkv)
theorem readable_sortKeysList : ∀ {xs : List Val}, ReadableList xs → ReadableList (sortKeysList xs)
  | [], h => h
  | _ :: _, h => ⟨readable_sortKeys h.1, readable_sortKeysList h.2⟩
theorem readable_sortKeysItems : ∀ {items : List (String × Val)}, ReadableItems items →
    ∀ kv ∈ sortKeysItems items, kv.2.Readable
  | [], _ => nofun
  | (k, v) :: rest, h => by
    intro kv hkv
    rw [sortKeysItems, List.mem_cons] at hkv
    rcases hkv with rfl | hkv
    · exact readable_sortKeys h.1
    · exact readable_sortKeysItems h.2 kv hkv
end

end Val

omit [FloatText] in
/-- A number begins with a sign or a digit. -/
theorem scanNumber_head {cs : List Char} {parts : List Char × List Char × List Char} {rest : List Char}
    (h : scanNumber cs = some (parts, rest)) : ∃ c cs', cs = c :: cs' ∧ (c = '-' ∨ isAsciiDigit c = true) := by
  obtain ⟨⟨integer, rest⟩, hinteger, -⟩ := Option.map_eq_some_iff.mp h
  cases cs with
  | nil => cases hinteger
  | cons c cs =>
    refine ⟨c, cs, rfl, ?_⟩
    rw [scanSigned] at hinteger
    split_ifs at hinteger with hc
    · exact .inl hc
    · rw [scanInteger] at hinteger
      split_ifs at hinteger with h₁ h₂
      · exact .inr (by rw [h₁]; rfl)
      · exact .inr h₂

/-- The scanned text of a number is read as its value. -/
theorem readValue_number {cs r : List Char} {parts : List Char × List Char × List Char} {v : Val} (hr : Ends r)
    (hscan : scanNumber cs = some (parts, [])) (hv : numberOf parts = some v) (n : Nat) :
    readValue (n + 1) (cs ++ r) = some (v, r) := by
  obtain ⟨c, rest, rfl, hc⟩ := scanNumber_head hscan
  have hne : ∀ d ∈ ['"', '[', '\x7b', 'n', 't', 'f'], c ≠ d := by
    have hnot : ∀ d ∈ ['"', '[', '\x7b', 'n', 't', 'f'], d ≠ '-' ∧ isAsciiDigit d = false :=
      List.all_iff_forall_prop.mp (by decide)
    rintro d hd rfl
    rcases hc with hc | hc
    · exact (hnot c hd).1 hc
    · rw [(hnot c hd).2] at hc
      cases hc
  have hname : ∀ d ∈ ['n', 't', 'f'], ∀ ds, (d :: ds).isPrefixOf (c :: (rest ++ r)) = false := by
    intro d hd ds
    have hcd : d ≠ c := (hne d (List.mem_cons_of_mem _ (List.mem_cons_of_mem _ (List.mem_cons_of_mem _ hd)))).symm
    simp [List.isPrefixOf, hcd]
  have hnull : "null".toList.isPrefixOf (c :: (rest ++ r)) = false := hname 'n' (by decide) _
  have htrue : "true".toList.isPrefixOf (c :: (rest ++ r)) = false := hname 't' (by decide) _
  have hfalse : "false".toList.isPrefixOf (c :: (rest ++ r)) = false := hname 'f' (by decide) _
  have hscan' := scanNumber_append hr hscan
  rw [List.cons_append] at hscan' ⊢
  rw [readValue, if_neg (hne '"' (by decide)), if_neg (hne '[' (by decide)), if_neg (hne '\x7b' (by decide)), readScalar,
    hnull, htrue, hfalse, hscan']
  simp only [Bool.false_eq_true, ↓reduceIte, Option.bind_some, hv, Option.map_some]

omit [FloatText] in
theorem skipSpace_cons {c : Char} {cs : List Char} (h : isJsonSpace c = false) : skipSpace (c :: cs) = c :: cs :=
  List.dropWhile_cons_of_neg (by rw [h]; exact Bool.false_ne_true)

/-- A character that a value may begin with. -/
def Begins (c : Char) : Prop := isJsonSpace c = false ∧ c ≠ ']' ∧ c ≠ '\x7d'

omit [FloatText] in
theorem begins_number {c : Char} (h : c = '-' ∨ isAsciiDigit c = true) : Begins c := by
  have hnot : ∀ d ∈ [' ', '\t', '\n', '\r', ']', '\x7d'], d ≠ '-' ∧ isAsciiDigit d = false :=
    List.all_iff_forall_prop.mp (by decide)
  have hne : ∀ d ∈ [' ', '\t', '\n', '\r', ']', '\x7d'], c ≠ d := by
    rintro d hd rfl
    rcases h with h | h
    · exact (hnot c hd).1 h
    · rw [(hnot c hd).2] at h
      cases h
  refine ⟨?_, hne ']' (by decide), hne '\x7d' (by decide)⟩
  simp [isJsonSpace, hne ' ' (by decide), hne '\t' (by decide), hne '\n' (by decide), hne '\r' (by decide)]

theorem Val.json_begins {v : Val} (h : v.Readable) : ∃ c rest, v.json.toList = c :: rest ∧ Begins c := by
  cases v with
  | none => exact ⟨'n', _, rfl, by decide, by decide, by decide⟩
  | bool b => cases b <;> exact ⟨_, _, rfl, by decide, by decide, by decide⟩
  | int i =>
    obtain ⟨c, rest, heq, hc⟩ := scanNumber_head (scanNumber_toString i)
    exact ⟨c, rest, heq, begins_number hc⟩
  | float f =>
    simp only [Readable] at h
    obtain ⟨parts, hscan, -⟩ := h.scanned
    obtain ⟨c, rest, heq, hc⟩ := scanNumber_head hscan
    exact ⟨c, rest, heq, begins_number hc⟩
  | str s => exact ⟨'"', _, toList_jsonStr s, by decide, by decide, by decide⟩
  | list xs => exact ⟨'[', _, toList_json_list xs, by decide, by decide, by decide⟩
  | dict items => exact ⟨'\x7b', _, toList_json_dict items, by decide, by decide, by decide⟩

omit [FloatText] in
theorem ends_close {close : Char} (hclose : close ∈ [']', '\x7d']) (r : List Char) : Ends (close :: r) := by
  rintro c ⟨⟩
  exact List.mem_cons_of_mem _ (List.mem_append_left ['\n'] hclose)

omit [FloatText] in
theorem ends_comma (r : List Char) : Ends (',' :: r) := by
  rintro c ⟨⟩
  exact List.mem_cons_self

/-- The value is read from its text, with enough fuel. -/
def Val.Reads (v : Val) : Prop :=
  ∀ n r, 2 * v.json.toList.length ≤ n → Ends r → readValue n (v.json.toList ++ r) = some (v.sortKeys, r)

/-- The elements of an array are read from their texts. -/
theorem readElements_json {x : Val} {xs : List Val} (hreads : ∀ y ∈ x :: xs, y.Reads) (hreadable : ∀ y ∈ x :: xs, y.Readable)
    {n : Nat} (hn : 2 * ([','].intercalate ((x :: xs).map fun y => y.json.toList)).length + 1 ≤ n) (r : List Char) :
    readElements n ([','].intercalate ((x :: xs).map fun y => y.json.toList) ++ ']' :: r) =
      some ((x :: xs).map Val.sortKeys, r) := by
  induction xs generalizing x n with
  | nil =>
    obtain ⟨m, rfl⟩ : ∃ m, n = m + 1 := ⟨n - 1, by omega⟩
    rw [List.map_singleton, List.intercalate_singleton] at hn ⊢
    rw [readElements, hreads x List.mem_cons_self m _ (by omega) (ends_close (by decide) r)]
    rfl
  | cons y ys ih =>
    obtain ⟨m, rfl⟩ : ∃ m, n = m + 1 := ⟨n - 1, by omega⟩
    obtain ⟨c, rest, hc, hbegins⟩ := Val.json_begins (hreadable y (by simp))
    have hskip (t : List Char) : skipSpace ([','].intercalate ((y :: ys).map fun z => z.json.toList) ++ t) =
        [','].intercalate ((y :: ys).map fun z => z.json.toList) ++ t := by
      rw [List.map_cons, Val.intercalate_cons, hc]
      exact skipSpace_cons hbegins.1
    have htail := @ih y (fun z hz => hreads z (List.mem_cons_of_mem x hz)) (fun z hz => hreadable z (List.mem_cons_of_mem x hz)) m
    rw [List.map_cons, List.map_cons, List.intercalate_cons_cons, ← List.map_cons (f := fun z : Val => z.json.toList)] at hn ⊢
    rw [List.length_append, List.length_append, List.length_singleton] at hn
    rw [List.append_assoc, List.append_assoc, List.singleton_append, readElements,
      hreads x List.mem_cons_self m _ (by omega) (ends_comma _)]
    have hcomma : skipSpace (',' :: ([','].intercalate ((y :: ys).map fun z => z.json.toList) ++ ']' :: r)) =
        ',' :: ([','].intercalate ((y :: ys).map fun z => z.json.toList) ++ ']' :: r) := skipSpace_cons (by decide)
    simp only [hcomma, hskip, Char.reduceEq, ↓reduceIte]
    rw [htail (by omega)]
    rfl

omit [FloatText] in
/-- A key is read from its text. -/
theorem readKey_json (k : String) {n : Nat} (hn : k.toList.length < n) {c : Char} (hc : isJsonSpace c = false) (r : List Char) :
    readKey n ((jsonStr k).toList ++ ':' :: c :: r) = some (k, c :: r) := by
  have hcolon : skipSpace (':' :: c :: r) = ':' :: c :: r := skipSpace_cons (by decide)
  rw [toList_jsonStr, List.cons_append, List.cons_append, List.append_assoc, List.singleton_append, readKey, if_pos rfl,
    readString_chars _ hn]
  simp only [hcolon, ↓reduceIte, skipSpace_cons hc, String.ofList_toList]

/-- The members of an object are read from their texts. -/
theorem readMembers_json {x : String × Val} {xs : List (String × Val)} (hreads : ∀ y ∈ x :: xs, y.2.Reads)
    (hreadable : ∀ y ∈ x :: xs, y.2.Readable) {n : Nat}
    (hn : 2 * ([','].intercalate ((x :: xs).map Val.itemText)).length + 1 ≤ n) (r : List Char) :
    readMembers n ([','].intercalate ((x :: xs).map Val.itemText) ++ '\x7d' :: r) =
      some ((x :: xs).map fun kv => (kv.1, kv.2.sortKeys), r) := by
  -- the first member, with what follows it
  have hmember {x : String × Val} (hr : x.2.Reads) (hread : x.2.Readable) {m : Nat} (hm : 2 * (Val.itemText x).length ≤ m)
      {r : List Char} (hends : Ends r) : ∃ t, readKey m (Val.itemText x ++ r) = some (x.1, t) ∧
        readValue m t = some (x.2.sortKeys, r) := by
    obtain ⟨c, rest, hc, hbegins⟩ := Val.json_begins hread
    have hlength := length_le_jsonStr x.1
    rw [Val.itemText, List.length_append, List.length_cons] at hm
    refine ⟨x.2.json.toList ++ r, ?_, hr m r (by omega) hends⟩
    rw [Val.itemText, List.append_assoc, List.cons_append, hc, List.cons_append]
    exact readKey_json x.1 (by omega) hbegins.1 _
  induction xs generalizing x n with
  | nil =>
    obtain ⟨m, rfl⟩ : ∃ m, n = m + 1 := ⟨n - 1, by omega⟩
    rw [List.map_singleton, List.intercalate_singleton] at hn ⊢
    obtain ⟨t, hkey, hvalue⟩ := hmember (hreads x List.mem_cons_self) (hreadable x List.mem_cons_self) (m := m) (by omega)
      (ends_close (by decide : '\x7d' ∈ _) r)
    rw [readMembers, hkey]
    simp only [hvalue, skipSpace_cons (show isJsonSpace '\x7d' = false by decide), ↓reduceIte, List.map_cons, List.map_nil]
  | cons y ys ih =>
    obtain ⟨m, rfl⟩ : ∃ m, n = m + 1 := ⟨n - 1, by omega⟩
    have hskip (t : List Char) : skipSpace ([','].intercalate ((y :: ys).map Val.itemText) ++ t) =
        [','].intercalate ((y :: ys).map Val.itemText) ++ t := by
      rw [List.map_cons, Val.intercalate_cons, Val.itemText, toList_jsonStr]
      exact skipSpace_cons (by decide)
    have htail := @ih y (fun z hz => hreads z (List.mem_cons_of_mem x hz)) (fun z hz => hreadable z (List.mem_cons_of_mem x hz)) m
    rw [List.map_cons, List.map_cons, List.intercalate_cons_cons, ← List.map_cons (f := Val.itemText)] at hn ⊢
    rw [List.length_append, List.length_append, List.length_singleton] at hn
    rw [List.append_assoc, List.append_assoc, List.singleton_append]
    obtain ⟨t, hkey, hvalue⟩ := hmember (hreads x List.mem_cons_self) (hreadable x List.mem_cons_self) (m := m) (by omega)
      (ends_comma ([','].intercalate ((y :: ys).map Val.itemText) ++ '\x7d' :: r))
    have hcomma : skipSpace (',' :: ([','].intercalate ((y :: ys).map Val.itemText) ++ '\x7d' :: r)) =
        ',' :: ([','].intercalate ((y :: ys).map Val.itemText) ++ '\x7d' :: r) := skipSpace_cons (by decide)
    rw [readMembers, hkey]
    simp only [hvalue, hcomma, hskip, Char.reduceEq, ↓reduceIte]
    rw [htail (by omega)]
    rfl

omit [FloatText] in
theorem Val.sizeOf_sorted_lt {items : List (String × Val)} {kv : String × Val} (h : kv ∈ sortItems items) :
    sizeOf kv.2 < sizeOf (Val.dict items) := by
  have hmem : kv ∈ items := (List.mem_insertionSort _).mp h
  have hlt := List.sizeOf_lt_of_mem hmem
  obtain ⟨k, v⟩ := kv
  grind

/-- Every value is read from its text. -/
theorem Val.reads {v : Val} (hv : v.Readable) : v.Reads := by
  induction hn : sizeOf v using Nat.strong_induction_on generalizing v with
  | _ size ih =>
  subst hn
  intro n r hlength hr
  obtain ⟨c, rest, hc, -⟩ := json_begins hv
  obtain ⟨m, rfl⟩ : ∃ m, n = m + 1 := ⟨n - 1, by rw [hc, List.length_cons] at hlength; omega⟩
  cases v with
  | none => rfl
  | bool b => cases b <;> rfl
  | int i =>
    refine readValue_number hr (scanNumber_toString i) ?_ m
    show (String.ofList (toString i).toList).toInt?.map Val.int = _
    rw [String.ofList_toList, sortKeys]
    exact congrArg (Option.map Val.int) (Int.toInt?_repr i)
  | float f =>
    simp only [Readable] at hv
    obtain ⟨parts, hscan, hparts⟩ := hv.scanned
    have hfloat : ¬ (parts.2.1.isEmpty && parts.2.2.isEmpty) = true := by simpa using hparts
    refine readValue_number hr hscan ?_ m
    rw [numberOf, if_neg hfloat, scanNumber_eq hscan, hv.read, sortKeys]
  | str s =>
    have hlength' := length_le_jsonStr s
    rw [json] at hlength ⊢
    rw [toList_jsonStr, List.cons_append, List.cons_append, List.append_assoc, List.singleton_append, readValue, if_pos rfl,
      readString_chars _ (by omega), Option.map_some, String.ofList_toList, sortKeys]
  | list xs =>
    simp only [Readable, readableList_iff] at hv
    have hreads : ∀ x ∈ xs, x.Reads := fun x hx => ih _ (by have := List.sizeOf_lt_of_mem hx; grind) (hv x hx) rfl
    rw [toList_json_list] at hlength ⊢
    rw [sortKeys, sortKeysList_eq_map, List.cons_append, List.cons_append, List.append_assoc, List.singleton_append, readValue,
      if_neg (by decide), if_pos rfl]
    cases xs with
    | nil => rfl
    | cons x xs =>
      obtain ⟨c, rest, hc, hbegins⟩ := json_begins (hv x List.mem_cons_self)
      have hskip (t : List Char) : skipSpace ([','].intercalate ((x :: xs).map fun z => z.json.toList) ++ t) =
          [','].intercalate ((x :: xs).map fun z => z.json.toList) ++ t := by
        rw [List.map_cons, intercalate_cons, hc]
        exact skipSpace_cons hbegins.1
      have hhead (t : List Char) : ([','].intercalate ((x :: xs).map fun z => z.json.toList) ++ t).head? = some c := by
        rw [List.map_cons, intercalate_cons, hc]
        rfl
      rw [List.length_append, List.length_cons, List.length_singleton] at hlength
      rw [hskip, hhead, if_neg (by simpa using hbegins.2.1), readElements_json hreads hv (by omega)]
      rfl
  | dict items =>
    simp only [Readable, readableItems_iff] at hv
    have hsorted : ∀ kv ∈ sortItems items, kv ∈ items := fun kv h => (List.mem_insertionSort _).mp h
    have hreads : ∀ kv ∈ sortItems items, kv.2.Reads := fun kv h => ih _ (sizeOf_sorted_lt h) (hv.2 kv (hsorted kv h)) rfl
    have hreadable : ∀ kv ∈ sortItems items, kv.2.Readable := fun kv h => hv.2 kv (hsorted kv h)
    have hnodup : ((sortItems items).map Prod.fst).Nodup :=
      (((List.perm_insertionSort _ items).map Prod.fst).nodup_iff).mpr hv.1
    rw [toList_json_dict] at hlength ⊢
    rw [sortKeys, sortKeysItems_eq_map, sortItems_map, List.cons_append, List.cons_append, List.append_assoc,
      List.singleton_append, readValue, if_neg (by decide), if_neg (by decide), if_pos rfl]
    cases hitems : sortItems items with
    | nil => rfl
    | cons x xs =>
      rw [hitems] at hreads hreadable hnodup hlength
      have hfirst (t : List Char) : ∃ t', [','].intercalate ((x :: xs).map itemText) ++ t = '"' :: t' := by
        rw [List.map_cons, intercalate_cons, itemText, toList_jsonStr]
        exact ⟨_, rfl⟩
      obtain ⟨t', ht'⟩ := hfirst ('\x7d' :: r)
      rw [List.length_append, List.length_cons, List.length_singleton] at hlength
      have hmembers := readMembers_json hreads hreadable (n := m) (by omega) r
      rw [ht'] at hmembers ⊢
      rw [skipSpace_cons (by decide), List.head?_cons, if_neg (by decide), hmembers, Option.map_some, Dict.ofItems_toVal]
      rw [List.map_map]
      exact hnodup

/-- Canonical text is read back, with the keys sorted, also where something blank follows that ends it. -/
theorem jsonLoads_json_append {v : Val} (hv : v.Readable) {s : String} (hends : Ends s.toList)
    (hblank : skipSpace s.toList = []) : jsonLoads (v.json ++ s) = .ok v.sortKeys := by
  obtain ⟨c, rest, hc, hbegins⟩ := Val.json_begins hv
  have hreads := Val.reads hv (2 * (v.json.toList ++ s.toList).length + 2) s.toList (by rw [List.length_append]; omega) hends
  have hskip : skipSpace (v.json.toList ++ s.toList) = v.json.toList ++ s.toList := by
    rw [hc]
    exact skipSpace_cons hbegins.1
  rw [jsonLoads, String.toList_append, hskip, hreads]
  dsimp only
  rw [hblank]
  rfl

theorem jsonLoads_json {v : Val} (hv : v.Readable) : jsonLoads v.json = .ok v.sortKeys := by
  have hloads := jsonLoads_json_append hv (s := "") (fun c hc => nomatch hc) rfl
  rwa [String.append_empty] at hloads

/-- Readable values are told apart by their canonical text. -/
theorem sortKeys_eq_of_json {v w : Val} (hv : v.Readable) (hw : w.Readable) (h : v.json = w.json) : v.sortKeys = w.sortKeys := by
  have hloads := jsonLoads_json hv
  rw [h, jsonLoads_json hw] at hloads
  exact (Except.ok.inj hloads).symm

end

end Py
