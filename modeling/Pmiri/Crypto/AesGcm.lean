import Mathlib.Algebra.Group.Nat.Defs
import Mathlib.Data.List.Basic
import Pmiri.Python.Value

/-!
# AES-256-GCM

What the program uses of `cryptography`'s `AESGCM`, and an instance of it that
is the cipher: AES-256 in Galois/counter mode, with a tag of sixteen bytes.
-/

namespace Pmiri

open Py

/-- `AESGCM`. Encryption raises on data that is too long; decryption raises `InvalidTag`, here `none`, where the
ciphertext is not authentic. -/
class AesGcm where
  encrypt : (key nonce plaintext aad : ByteArray) → Except Exc ByteArray
  decrypt : (key nonce ciphertext aad : ByteArray) → Option ByteArray
  decrypt_encrypt : ∀ {key nonce plaintext aad ciphertext : ByteArray}, key.size = 32 → nonce.size = 12 →
    encrypt key nonce plaintext aad = .ok ciphertext → decrypt key nonce ciphertext aad = some plaintext

/-! ## The block cipher -/

namespace Aes256

/-- Doubling in the field of 256 elements. -/
def xtime (a : UInt8) : UInt8 := (a <<< 1) ^^^ (if a &&& 0x80 = 0 then 0 else 0x1b)

/-- Multiplication in it, by the bits of `a` from the lowest. -/
def mulBits : Nat → UInt8 → UInt8 → UInt8
  | 0, _, _ => 0
  | n + 1, a, b => (if a &&& 1 = 0 then 0 else b) ^^^ mulBits n (a >>> 1) (xtime b)

def mul (a b : UInt8) : UInt8 := mulBits 8 a b

/-- `a ^ 254`, the inverse of `a`. -/
def inverse (a : UInt8) : UInt8 :=
  let square (x : UInt8) := mul x x
  let a2 := square a
  let a4 := square a2
  let a8 := square a4
  let a16 := square a8
  let a32 := square a16
  let a64 := square a32
  let a128 := square a64
  [a4, a8, a16, a32, a64, a128].foldl mul a2

def rotl (a : UInt8) (n : UInt8) : UInt8 := (a <<< n) ||| (a >>> (8 - n))

def subByte (a : UInt8) : UInt8 :=
  let b := inverse a
  b ^^^ rotl b 1 ^^^ rotl b 2 ^^^ rotl b 3 ^^^ rotl b 4 ^^^ 0x63

def xorBytes (xs ys : List UInt8) : List UInt8 := xs.zipWith (· ^^^ ·) ys

/-- The round constant of the `i`th use, from one on. -/
def roundConstant (i : Nat) : List UInt8 := [Nat.repeat xtime (i - 1) 1, 0, 0, 0]

/-- The words of the key schedule from the `i`th on, after the eight in `window`. -/
def schedule : Nat → Nat → List (List UInt8) → List (List UInt8)
  | 0, _, _ => []
  | n + 1, i, window =>
    let last := window.getD 7 []
    let mixed :=
      if i % 8 = 0 then xorBytes ((last.drop 1 ++ last.take 1).map subByte) (roundConstant (i / 8))
      else if i % 8 = 4 then last.map subByte
      else last
    let w := xorBytes (window.getD 0 []) mixed
    w :: schedule n (i + 1) (window.drop 1 ++ [w])

/-- The fifteen round keys. -/
def roundKeys (key : List UInt8) : List (List UInt8) :=
  let words := key.toChunks 4
  ((words ++ schedule 52 8 words).toChunks 4).map List.flatten

def shiftRows (state : List UInt8) : List UInt8 := (List.range 16).map fun i => state.getD ((i + 4 * (i % 4)) % 16) 0

def mixColumn : List UInt8 → List UInt8
  | [a, b, c, d] => [
      xtime a ^^^ (xtime b ^^^ b) ^^^ c ^^^ d,
      a ^^^ xtime b ^^^ (xtime c ^^^ c) ^^^ d,
      a ^^^ b ^^^ xtime c ^^^ (xtime d ^^^ d),
      (xtime a ^^^ a) ^^^ b ^^^ c ^^^ xtime d]
  | column => column

/-- The rounds after the first key; the last one mixes no columns. -/
def rounds : List (List UInt8) → List UInt8 → List UInt8
  | [], state => state
  | [key], state => xorBytes (shiftRows (state.map subByte)) key
  | key :: keys, state => rounds keys (xorBytes (((shiftRows (state.map subByte)).toChunks 4).flatMap mixColumn) key)

def encryptBlock (key block : List UInt8) : List UInt8 :=
  match roundKeys key with
  | [] => block
  | k :: keys => rounds keys (xorBytes block k)

end Aes256

/-! ## The mode -/

namespace Gcm

/-- The `n` big-endian bytes of a number. -/
def bytesOf (n x : Nat) : List UInt8 := (List.range n).map fun i => UInt8.ofNat (x / 256 ^ (n - 1 - i))

def numberOf (bytes : List UInt8) : Nat := bytes.foldl (fun n b => 256 * n + b.toNat) 0

/-- Multiplication in the field of 2¹²⁸ elements, by the bits of `x` from the highest. -/
def mulBits (x : Nat) : Nat → Nat → Nat → Nat
  | 0, _, z => z
  | n + 1, v, z =>
    mulBits x n ((v / 2) ^^^ (if v % 2 = 0 then 0 else 0xe1 * 2 ^ 120)) (if x.testBit n then z ^^^ v else z)

def mul (x y : Nat) : Nat := mulBits x 128 y 0

/-- The bytes with zeros up to a whole number of blocks. -/
def padded (bytes : List UInt8) : List UInt8 := bytes ++ List.replicate ((16 - bytes.length % 16) % 16) 0

def ghash (h : Nat) (bytes : List UInt8) : Nat := (bytes.toChunks 16).foldl (fun y block => mul (y ^^^ numberOf block) h) 0

/-- A byte of the keystream of a nonce; its first block is that of the counter two. -/
def keystream (key nonce : List UInt8) (i : Nat) : UInt8 :=
  (Aes256.encryptBlock key (nonce ++ bytesOf 4 (2 + i / 16))).getD (i % 16) 0

def counterMode (key nonce data : List UInt8) : List UInt8 := data.mapIdx fun i b => b ^^^ keystream key nonce i

def tag (key nonce aad ciphertext : List UInt8) : List UInt8 :=
  let h := numberOf (Aes256.encryptBlock key (List.replicate 16 0))
  let lengths := bytesOf 8 (8 * aad.length) ++ bytesOf 8 (8 * ciphertext.length)
  let y := ghash h (padded aad ++ padded ciphertext ++ lengths)
  bytesOf 16 (y ^^^ numberOf (Aes256.encryptBlock key (nonce ++ bytesOf 4 1)))

def encrypt (key nonce plaintext aad : List UInt8) : List UInt8 :=
  let body := counterMode key nonce plaintext
  body ++ tag key nonce aad body

def decrypt (key nonce ciphertext aad : List UInt8) : Option (List UInt8) :=
  let body := ciphertext.take (ciphertext.length - 16)
  if ciphertext.drop (ciphertext.length - 16) = tag key nonce aad body then some (counterMode key nonce body) else none

theorem length_tag (key nonce aad ciphertext : List UInt8) : (tag key nonce aad ciphertext).length = 16 := by
  simp [tag, bytesOf]

/-- The keystream cancels itself. -/
theorem counterMode_counterMode (key nonce data : List UInt8) :
    counterMode key nonce (counterMode key nonce data) = data := by
  apply List.ext_getElem
  · simp [counterMode]
  · intro i h₁ h₂
    simp only [counterMode, List.getElem_mapIdx, UInt8.xor_assoc, UInt8.xor_self, UInt8.xor_zero]

theorem decrypt_encrypt (key nonce plaintext aad : List UInt8) :
    decrypt key nonce (encrypt key nonce plaintext aad) aad = some plaintext := by
  have hlength : (encrypt key nonce plaintext aad).length - 16 = (counterMode key nonce plaintext).length := by
    simp only [encrypt, List.length_append, length_tag, Nat.add_sub_cancel]
  have htake : (encrypt key nonce plaintext aad).take (counterMode key nonce plaintext).length = counterMode key nonce plaintext :=
    List.take_left
  have hdrop : (encrypt key nonce plaintext aad).drop (counterMode key nonce plaintext).length =
      tag key nonce aad (counterMode key nonce plaintext) :=
    List.drop_left
  simp only [decrypt, hlength, htake, hdrop, ↓reduceIte, counterMode_counterMode]

end Gcm

/-- The cipher. -/
@[reducible] def aes256Gcm : AesGcm where
  encrypt key nonce plaintext aad :=
    if 2 ^ 31 - 1 < plaintext.size ∨ 2 ^ 31 - 1 < aad.size then
      .error (.overflowError "Data or associated data too long. Max 2**31 - 1 bytes")
    else .ok ⟨(Gcm.encrypt key.data.toList nonce.data.toList plaintext.data.toList aad.data.toList).toArray⟩
  decrypt key nonce ciphertext aad :=
    (Gcm.decrypt key.data.toList nonce.data.toList ciphertext.data.toList aad.data.toList).map fun bytes => ⟨bytes.toArray⟩
  decrypt_encrypt _ _ h := by
    split at h
    · cases h
    · obtain rfl := Except.ok.inj h
      simp [Gcm.decrypt_encrypt]

end Pmiri
