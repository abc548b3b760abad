import Mathlib.Data.List.Basic

/-!
# `base64`

`base64.b64encode` and `base64.b64decode(s, validate=True)`: three bytes are
four characters, and what is missing of the last three is padding.
-/

namespace Py.Base64

def ALPHABET : List Char := "ABCDEFGHIJKLMNOPQRSTUVWXYZabcdefghijklmnopqrstuvwxyz0123456789+/".toList

/-- The character of six bits. -/
def symbol (n : Nat) : Char := ALPHABET.getD n '='

/-- The six bits of a character. -/
def bits (c : Char) : Option Nat := ALPHABET.idxOf? c

def encode : List UInt8 → List Char
  | [] => []
  | [a] => [symbol (a.toNat / 4), symbol (a.toNat % 4 * 16), '=', '=']
  | [a, b] =>
    [symbol (a.toNat / 4), symbol (a.toNat % 4 * 16 + b.toNat / 16), symbol (b.toNat % 16 * 4), '=']
  | a :: b :: c :: rest =>
    symbol (a.toNat / 4) :: symbol (a.toNat % 4 * 16 + b.toNat / 16) :: symbol (b.toNat % 16 * 4 + c.toNat / 64) ::
      symbol (c.toNat % 64) :: encode rest

/-- The bytes of four characters. -/
def decodeQuad (a b c d : Char) : Option (List UInt8) := do
  let w ← bits a
  let x ← bits b
  if c = '=' ∧ d = '=' then return [.ofNat (w * 4 + x / 16)]
  let y ← bits c
  if d = '=' then return [.ofNat (w * 4 + x / 16), .ofNat (x % 16 * 16 + y / 4)]
  let z ← bits d
  return [.ofNat (w * 4 + x / 16), .ofNat (x % 16 * 16 + y / 4), .ofNat (y % 4 * 64 + z)]

/-- The bytes of a text; padding ends it. -/
def decode : List Char → Option (List UInt8)
  | [] => some []
  | a :: b :: c :: d :: rest =>
    if d = '=' ∧ rest ≠ [] then none
    else
      match decodeQuad a b c d, decode rest with
      | some bytes, some more => some (bytes ++ more)
      | _, _ => none
  | _ => none

theorem bits_symbol {n : Nat} (h : n < 64) : bits (symbol n) = some n ∧ symbol n ≠ '=' := by
  have hall : ∀ k < 64, bits (symbol k) = some k ∧ symbol k ≠ '=' := by decide +kernel
  exact hall n h

theorem ofNat_eq {n : Nat} {a : UInt8} (h : n = a.toNat) : UInt8.ofNat n = a := by rw [h, UInt8.ofNat_toNat]

theorem decodeQuad_one (a : UInt8) : decodeQuad (symbol (a.toNat / 4)) (symbol (a.toNat % 4 * 16)) '=' '=' = some [a] := by
  have ha := a.toNat_lt
  have hw := (bits_symbol (show a.toNat / 4 < 64 by omega)).1
  have hx := (bits_symbol (show a.toNat % 4 * 16 < 64 by omega)).1
  have hfirst : UInt8.ofNat (a.toNat / 4 * 4 + a.toNat % 4 * 16 / 16) = a := ofNat_eq (by omega)
  simp only [decodeQuad, hw, hx, Option.bind_eq_bind, Option.bind_some, and_self, ↓reduceIte, hfirst]
  rfl

theorem decodeQuad_two (a b : UInt8) :
    decodeQuad (symbol (a.toNat / 4)) (symbol (a.toNat % 4 * 16 + b.toNat / 16)) (symbol (b.toNat % 16 * 4)) '=' =
      some [a, b] := by
  have ha := a.toNat_lt
  have hb := b.toNat_lt
  have hw := (bits_symbol (show a.toNat / 4 < 64 by omega)).1
  have hx := (bits_symbol (show a.toNat % 4 * 16 + b.toNat / 16 < 64 by omega)).1
  obtain ⟨hy, hpad⟩ := bits_symbol (show b.toNat % 16 * 4 < 64 by omega)
  have hfirst : UInt8.ofNat (a.toNat / 4 * 4 + (a.toNat % 4 * 16 + b.toNat / 16) / 16) = a := ofNat_eq (by omega)
  have hsecond : UInt8.ofNat ((a.toNat % 4 * 16 + b.toNat / 16) % 16 * 16 + b.toNat % 16 * 4 / 4) = b := ofNat_eq (by omega)
  simp only [decodeQuad, hw, hx, hy, hpad, Option.bind_eq_bind, Option.bind_some, false_and, ↓reduceIte, hfirst, hsecond]
  rfl

theorem decodeQuad_three (a b c : UInt8) :
    decodeQuad (symbol (a.toNat / 4)) (symbol (a.toNat % 4 * 16 + b.toNat / 16)) (symbol (b.toNat % 16 * 4 + c.toNat / 64))
      (symbol (c.toNat % 64)) = some [a, b, c] := by
  have ha := a.toNat_lt
  have hb := b.toNat_lt
  have hc := c.toNat_lt
  have hw := (bits_symbol (show a.toNat / 4 < 64 by omega)).1
  have hx := (bits_symbol (show a.toNat % 4 * 16 + b.toNat / 16 < 64 by omega)).1
  have hy := (bits_symbol (show b.toNat % 16 * 4 + c.toNat / 64 < 64 by omega)).1
  obtain ⟨hz, hpad⟩ := bits_symbol (show c.toNat % 64 < 64 by omega)
  have hfirst : UInt8.ofNat (a.toNat / 4 * 4 + (a.toNat % 4 * 16 + b.toNat / 16) / 16) = a := ofNat_eq (by omega)
  have hsecond : UInt8.ofNat ((a.toNat % 4 * 16 + b.toNat / 16) % 16 * 16 + (b.toNat % 16 * 4 + c.toNat / 64) / 4) = b :=
    ofNat_eq (by omega)
  have hthird : UInt8.ofNat ((b.toNat % 16 * 4 + c.toNat / 64) % 4 * 64 + c.toNat % 64) = c := ofNat_eq (by omega)
  simp only [decodeQuad, hw, hx, hy, hz, hpad, Option.bind_eq_bind, Option.bind_some, and_false, ↓reduceIte, hfirst, hsecond,
    hthird]
  rfl

/-- What was encoded is decoded. -/
theorem decode_encode : ∀ bytes : List UInt8, decode (encode bytes) = some bytes
  | [] => rfl
  | [a] => by
    rw [encode, decode, if_neg (fun h => h.2 rfl), decodeQuad_one]
    rfl
  | [a, b] => by
    rw [encode, decode, if_neg (fun h => h.2 rfl), decodeQuad_two]
    rfl
  | a :: b :: c :: rest => by
    have hpad := (bits_symbol (show c.toNat % 64 < 64 by omega)).2
    rw [encode, decode, if_neg (fun h => hpad h.1), decodeQuad_three, decode_encode rest]
    rfl

end Py.Base64

namespace Py

/-- `base64.b64encode(b).decode("ascii")` -/
def b64encode (b : ByteArray) : String := String.ofList (Base64.encode b.data.toList)

/-- `base64.b64decode(s, validate=True)` of a string; `none` where it raises `binascii.Error` or another `ValueError`. -/
def b64decode (s : String) : Option ByteArray := (Base64.decode s.toList).map fun bytes => ⟨bytes.toArray⟩

/-- `base64.b64decode(s, validate=True)` of bytes; a byte that is not ASCII is no digit. -/
def b64decodeBytes (s : ByteArray) : Option ByteArray :=
  (Base64.decode (s.data.toList.map fun b => .ofNat b.toNat)).map fun bytes => ⟨bytes.toArray⟩

theorem b64decode_b64encode (b : ByteArray) : b64decode (b64encode b) = some b := by
  rw [b64decode, b64encode, String.toList_ofList, Base64.decode_encode, Option.map_some, Array.toArray_toList]

end Py
