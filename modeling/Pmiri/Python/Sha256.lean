import Pmiri.Python.Runtime

/-!
# SHA-256

FIPS 180-4, and with it a `Runtime` for programs whose text is ASCII: the
Unicode tables are never asked there, so theirs are the trivial ones.
-/

namespace Py

namespace Sha256

def rotr (x : UInt32) (n : UInt32) : UInt32 := (x >>> n) ||| (x <<< (32 - n))

def ch (x y z : UInt32) : UInt32 := (x &&& y) ^^^ (~~~x &&& z)
def maj (x y z : UInt32) : UInt32 := (x &&& y) ^^^ (x &&& z) ^^^ (y &&& z)
def bigSigma0 (x : UInt32) : UInt32 := rotr x 2 ^^^ rotr x 13 ^^^ rotr x 22
def bigSigma1 (x : UInt32) : UInt32 := rotr x 6 ^^^ rotr x 11 ^^^ rotr x 25
def smallSigma0 (x : UInt32) : UInt32 := rotr x 7 ^^^ rotr x 18 ^^^ (x >>> 3)
def smallSigma1 (x : UInt32) : UInt32 := rotr x 17 ^^^ rotr x 19 ^^^ (x >>> 10)

def roundConstants : List UInt32 := [
  0x428a2f98, 0x71374491, 0xb5c0fbcf, 0xe9b5dba5, 0x3956c25b, 0x59f111f1, 0x923f82a4, 0xab1c5ed5,
  0xd807aa98, 0x12835b01, 0x243185be, 0x550c7dc3, 0x72be5d74, 0x80deb1fe, 0x9bdc06a7, 0xc19bf174,
  0xe49b69c1, 0xefbe4786, 0x0fc19dc6, 0x240ca1cc, 0x2de92c6f, 0x4a7484aa, 0x5cb0a9dc, 0x76f988da,
  0x983e5152, 0xa831c66d, 0xb00327c8, 0xbf597fc7, 0xc6e00bf3, 0xd5a79147, 0x06ca6351, 0x14292967,
  0x27b70a85, 0x2e1b2138, 0x4d2c6dfc, 0x53380d13, 0x650a7354, 0x766a0abb, 0x81c2c92e, 0x92722c85,
  0xa2bfe8a1, 0xa81a664b, 0xc24b8b70, 0xc76c51a3, 0xd192e819, 0xd6990624, 0xf40e3585, 0x106aa070,
  0x19a4c116, 0x1e376c08, 0x2748774c, 0x34b0bcb5, 0x391c0cb3, 0x4ed8aa4a, 0x5b9cca4f, 0x682e6ff3,
  0x748f82ee, 0x78a5636f, 0x84c87814, 0x8cc70208, 0x90befffa, 0xa4506ceb, 0xbef9a3f7, 0xc67178f2]

/-- The eight working variables, or the eight words of a hash value. -/
structure Words where
  a : UInt32
  b : UInt32
  c : UInt32
  d : UInt32
  e : UInt32
  f : UInt32
  g : UInt32
  h : UInt32

def initial : Words :=
  ⟨0x6a09e667, 0xbb67ae85, 0x3c6ef372, 0xa54ff53a, 0x510e527f, 0x9b05688c, 0x1f83d9ab, 0x5be0cd19⟩

/-- One round, with the sum of its constant and its word of the schedule. -/
def round (s : Words) (kw : UInt32) : Words :=
  let t1 := s.h + bigSigma1 s.e + ch s.e s.f s.g + kw
  let t2 := bigSigma0 s.a + maj s.a s.b s.c
  ⟨t1 + t2, s.a, s.b, s.c, s.d + t1, s.e, s.f, s.g⟩

def add (s t : Words) : Words := ⟨s.a + t.a, s.b + t.b, s.c + t.c, s.d + t.d, s.e + t.e, s.f + t.f, s.g + t.g, s.h + t.h⟩

/-- The next `n` words of the schedule, after the sixteen in `window`. -/
def schedule : Nat → List UInt32 → List UInt32
  | 0, _ => []
  | n + 1, window =>
    let w := smallSigma1 (window.getD 14 0) + window.getD 9 0 + smallSigma0 (window.getD 1 0) + window.getD 0 0
    w :: schedule n (window.drop 1 ++ [w])

def compress (s : Words) (block : List UInt32) : Words :=
  add s ((roundConstants.zipWith (· + ·) (block ++ schedule 48 block)).foldl round s)

/-- The big-endian words of some bytes. -/
def wordsOf : List UInt8 → List UInt32
  | a :: b :: c :: d :: rest =>
    ((a.toUInt32 <<< 24) ||| (b.toUInt32 <<< 16) ||| (c.toUInt32 <<< 8) ||| d.toUInt32) :: wordsOf rest
  | _ => []

/-- The message with its padding: a one bit, zeros, and its length in bits. -/
def pad (message : List UInt8) : List UInt8 :=
  let zeros := (119 - message.length % 64) % 64
  let bits := 8 * message.length
  message ++ [0x80] ++ List.replicate zeros 0 ++
    (List.range 8).map fun i => UInt8.ofNat (bits / 256 ^ (7 - i))

def digest (message : List UInt8) : Words := ((wordsOf (pad message)).toChunks 16).foldl compress initial

/-- A digit of four bits. -/
def nibble (n : Fin 16) : Char := "0123456789abcdef".toList.getD n '0'

/-- The eight digits of a word. -/
def hexWord (w : UInt32) : List Char :=
  [28, 24, 20, 16, 12, 8, 4, 0].map fun shift : Nat => nibble (Fin.ofNat 16 (w.toNat / 2 ^ shift))

def Words.hex (s : Words) : String := String.ofList ([s.a, s.b, s.c, s.d, s.e, s.f, s.g, s.h].flatMap hexWord)

theorem isHexDigit_nibble : ∀ n : Fin 16, isHexDigit (nibble n) = true := by decide

theorem length_hexWord (w : UInt32) : (hexWord w).length = 8 := rfl

theorem isHex_hex (s : Words) : isHex 64 s.hex = true := by
  have hdigit : ∀ w, ∀ c ∈ hexWord w, isHexDigit c = true := by
    intro w c hc
    obtain ⟨shift, -, rfl⟩ := List.mem_map.mp hc
    exact isHexDigit_nibble _
  rw [isHex, Words.hex, Bool.and_eq_true, beq_iff_eq, String.length_ofList, String.toList_ofList, List.all_eq_true]
  refine ⟨rfl, fun c hc => ?_⟩
  obtain ⟨w, -, hw⟩ := List.mem_flatMap.mp hc
  exact hdigit w c hw

theorem nibble_injective : ∀ m n : Fin 16, nibble m = nibble n → m = n := by decide

theorem hexWord_injective {v w : UInt32} (h : hexWord v = hexWord w) : v = w := by
  simp only [hexWord, List.map_cons, List.map_nil, List.cons.injEq, and_true] at h
  obtain ⟨h0, h1, h2, h3, h4, h5, h6, h7⟩ := h
  have hdigit : ∀ {k m : Nat}, nibble (Fin.ofNat 16 k) = nibble (Fin.ofNat 16 m) → k % 16 = m % 16 := fun h =>
    congrArg Fin.val (nibble_injective _ _ h)
  have hv := v.toNat_lt
  have hw := w.toNat_lt
  have := hdigit h0
  have := hdigit h1
  have := hdigit h2
  have := hdigit h3
  have := hdigit h4
  have := hdigit h5
  have := hdigit h6
  have := hdigit h7
  refine UInt32.toNat_inj.mp ?_
  simp only [Nat.reducePow, Nat.div_one] at *
  omega

theorem take_hex (s : Words) : s.hex.toList.take 8 = hexWord s.a := by
  rw [Words.hex, String.toList_ofList, List.flatMap_cons, List.take_append_of_le_length (length_hexWord s.a).ge]
  rfl

end Sha256

/-- `hashlib.sha256(b).hexdigest()` -/
def sha256Hex (b : ByteArray) : String := (Sha256.digest b.toList).hex

theorem toList_loop_eq (b : ByteArray) (i : Nat) (r : List UInt8) :
    ByteArray.toList.loop b i r = r.reverse ++ b.data.toList.drop i := by
  induction i, r using ByteArray.toList.loop.induct b with
  | case1 i r h ih =>
    have hi : i < b.data.toList.length := h
    have hget : b.get! i = b.data.toList[i] := getElem!_pos b.data i h
    rw [ByteArray.toList.loop, if_pos h, ih, hget, List.reverse_cons, List.append_assoc, List.singleton_append,
      ← List.drop_eq_getElem_cons hi]
  | case2 i r h =>
    have hi : b.data.toList.length ≤ i := Nat.le_of_not_lt h
    rw [ByteArray.toList.loop, if_neg h, List.drop_eq_nil_of_le hi, List.append_nil]

theorem toList_eq_data (b : ByteArray) : b.toList = b.data.toList := toList_loop_eq b 0 []

/-- The first word of the hash value of some bytes. -/
def Sha256.firstWord (b : ByteArray) : Nat := (Sha256.digest b.data.toList).a.toNat

/-- The first digits of a hash value write its first word. -/
theorem firstWord_eq_of_take {b b' : ByteArray} {n : Nat} (hn : 8 ≤ n)
    (h : (sha256Hex b).toList.take n = (sha256Hex b').toList.take n) : Sha256.firstWord b = Sha256.firstWord b' := by
  have htake := congrArg (List.take 8) h
  rw [List.take_take, List.take_take, Nat.min_eq_left hn, sha256Hex, sha256Hex, Sha256.take_hex, Sha256.take_hex,
    toList_eq_data, toList_eq_data] at htake
  exact congrArg UInt32.toNat (Sha256.hexWord_injective htake)

theorem sha256Hex_ne {b b' : ByteArray} (h : Sha256.firstWord b ≠ Sha256.firstWord b') : sha256Hex b ≠ sha256Hex b' := by
  intro heq
  exact h (firstWord_eq_of_take (Nat.le_refl 8) (by rw [heq]))

/-- The runtime of programs whose text is ASCII. -/
@[reducible] def asciiRuntime : Runtime where
  sha256 := sha256Hex
  sha256_hex _ := Sha256.isHex_hex _
  printable _ := true
  word _ := true
  decimal _ := none
  casefold cs := cs
  lower cs := cs
  nfkc cs := cs

end Py
