import Mathlib.Algebra.Group.Int.Defs
import Mathlib.Algebra.GroupWithZero.Nat
import Pmiri.Python.Text

/-!
# `ipaddress`

IP addresses as `ipaddress.ip_address` reads and prints them, and the classes
of addresses it knows, by the networks of the IANA special-purpose registries.
-/

namespace Py

/-- An IP address; an IPv6 address may carry a scope. -/
inductive IpAddress where
  | v4 (n : Nat)
  | v6 (n : Nat) (scope : Option (List Char))
deriving DecidableEq

namespace IpAddress

/-! ## Reading -/

/-- One part of a dotted quad: at most three digits, no leading zero. -/
def readOctet (cs : List Char) : Option Nat :=
  if cs.isEmpty || !cs.all isAsciiDigit || 3 < cs.length || (cs != ['0'] && cs.head? == some '0') then none
  else if decNumber cs ≤ 255 then some (decNumber cs) else none

def readV4 (cs : List Char) : Option Nat := do
  match splitOn '.' cs with
  | [a, b, c, d] => some ((((← readOctet a) * 256 + (← readOctet b)) * 256 + (← readOctet c)) * 256 + (← readOctet d))
  | _ => none

/-- One part of an IPv6 address. -/
def readHextet (cs : List Char) : Option Nat :=
  if cs.isEmpty || 4 < cs.length then none else hexNumber cs

def readHextets (parts : List (List Char)) : Option Nat :=
  parts.foldl (fun acc p => do some ((← acc) * 65536 + (← readHextet p))) (some 0)

/-- The parts of an IPv6 address, a final dotted quad replaced by the two
hextets it stands for. -/
def v6Parts (cs : List Char) : Option (List (List Char)) := do
  let parts := splitOn ':' cs
  if parts.length < 3 then none
  else
    let last := parts.getLastD []
    if last.contains '.' then
      let n ← readV4 last
      some (parts.dropLast ++ [(Nat.toDigits 16 (n / 65536)), (Nat.toDigits 16 (n % 65536))])
    else some parts

/-- The positions of the empty parts that are neither first nor last. -/
def innerEmpty (parts : List (List Char)) : List Nat :=
  (List.range parts.length).filter fun i => 0 < i && i + 1 < parts.length && (parts.getD i []).isEmpty

def readV6 (cs : List Char) : Option Nat := do
  let parts ← v6Parts cs
  if 9 < parts.length then none
  else
    match innerEmpty parts with
    | [] =>
      if parts.length = 8 then readHextets parts else none
    | [skip] =>
      let hi := parts.take skip
      let lo := parts.drop (skip + 1)
      let hi ← if (hi.head?.getD []).isEmpty then (if hi.length = 1 then some [] else none) else some hi
      let lo ← if (lo.getLastD []).isEmpty then (if lo.length = 1 then some [] else none) else some lo
      if 8 ≤ hi.length + lo.length then none
      else
        let h ← readHextets hi
        let l ← readHextets lo
        some (h * 65536 ^ (8 - hi.length) + l)
    | _ => none

/-- `ipaddress.ip_address(s)`; `none` where it raises `ValueError`. -/
def read (s : String) : Option IpAddress :=
  let cs := s.toList
  if cs.contains '/' then none
  else
    match readV4 cs with
    | some n => some (.v4 n)
    | none =>
      match partition '%' cs with
      | (addr, _, false) => (readV6 addr).map (.v6 · none)
      | (addr, scope, true) =>
        if scope.isEmpty || scope.contains '%' then none else (readV6 addr).map (.v6 · (some scope))

/-! ## Printing -/

def octets (n : Nat) : List (List Char) :=
  [n / 256 ^ 3, n / 256 ^ 2 % 256, n / 256 % 256, n % 256].map (Nat.toDigits 10)

def hextets (n : Nat) : List (List Char) :=
  (List.range 8).map fun i => Nat.toDigits 16 (n / 65536 ^ (7 - i) % 65536)

/-- The start and the length of the first longest run of zero hextets. -/
def longestZeros : List (List Char) → Nat → Nat × Nat → Nat × Nat
  | [], _, best => best
  | h :: hs, i, best =>
    let run := ((h :: hs).takeWhile (· == ['0'])).length
    longestZeros hs (i + 1) (if best.2 < run then (i, run) else best)

def compressHextets (hs : List (List Char)) : List (List Char) :=
  let (start, len) := longestZeros hs 0 (0, 0)
  if len ≤ 1 then hs
  else
    (if start = 0 then [[]] else hs.take start) ++ [[]] ++ (if start + len = hs.length then [[]] else hs.drop (start + len))

/-- `str(address)` -/
def print : IpAddress → String
  | .v4 n => String.ofList (joinWith '.' (octets n))
  | .v6 n scope =>
    let text := joinWith ':' (compressHextets (hextets n))
    String.ofList (match scope with
      | some s => text ++ '%' :: s
      | none => text)

/-- `address.version` -/
def version : IpAddress → Nat
  | .v4 _ => 4
  | .v6 .. => 6

/-! ## Classes of addresses -/

/-- `n` is in the network of the addresses of `width` bits that agree with
`base` in the first `prefixLen` bits. -/
def inNet (width n : Nat) (net : Nat × Nat) : Bool :=
  n / 2 ^ (width - net.2) == net.1 / 2 ^ (width - net.2)

def quad (a b c d : Nat) : Nat := ((a * 256 + b) * 256 + c) * 256 + d

/-- An IPv6 address from its first hextets. -/
def hex6 (hs : List Nat) : Nat := ((List.range 8).map fun i => hs.getD i 0 * 65536 ^ (7 - i)).sum

def private4 : List (Nat × Nat) :=
  [(quad 0 0 0 0, 8), (quad 10 0 0 0, 8), (quad 127 0 0 0, 8), (quad 169 254 0 0, 16), (quad 172 16 0 0, 12),
   (quad 192 0 0 0, 24), (quad 192 0 2 0, 24), (quad 192 168 0 0, 16), (quad 198 18 0 0, 15),
   (quad 198 51 100 0, 24), (quad 203 0 113 0, 24), (quad 240 0 0 0, 4), (quad 255 255 255 255, 32)]

def privateExceptions4 : List (Nat × Nat) := [(quad 192 0 0 9, 32), (quad 192 0 0 10, 32)]

def private6 : List (Nat × Nat) :=
  [(hex6 [0, 0, 0, 0, 0, 0, 0, 1], 128), (hex6 [], 128), (hex6 [0, 0, 0, 0, 0, 0xffff], 96),
   (hex6 [0x64, 0xff9b, 1], 48), (hex6 [0x100], 64), (hex6 [0x2001], 23), (hex6 [0x2001, 0xdb8], 32),
   (hex6 [0x2002], 16), (hex6 [0xfc00], 7), (hex6 [0xfe80], 10)]

def privateExceptions6 : List (Nat × Nat) :=
  [(hex6 [0x2001, 1, 0, 0, 0, 0, 0, 1], 128), (hex6 [0x2001, 1, 0, 0, 0, 0, 0, 2], 128), (hex6 [0x2001, 3], 32),
   (hex6 [0x2001, 4, 0x112], 48), (hex6 [0x2001, 0x20], 28), (hex6 [0x2001, 0x30], 28)]

def reserved6 : List (Nat × Nat) :=
  [(hex6 [], 8), (hex6 [0x100], 8), (hex6 [0x200], 7), (hex6 [0x400], 6), (hex6 [0x800], 5), (hex6 [0x1000], 4),
   (hex6 [0x4000], 3), (hex6 [0x6000], 3), (hex6 [0x8000], 3), (hex6 [0xa000], 3), (hex6 [0xc000], 3),
   (hex6 [0xe000], 4), (hex6 [0xf000], 5), (hex6 [0xf800], 6), (hex6 [0xfe00], 9)]

def isPrivate4 (n : Nat) : Bool := private4.any (inNet 32 n) && !privateExceptions4.any (inNet 32 n)

/-- The IPv4 address an IPv6 address maps, if it does. -/
def mapped? (n : Nat) : Option Nat := if n / 2 ^ 32 = 0xffff then some (n % 2 ^ 32) else none

def isPrivate : IpAddress → Bool
  | .v4 n => isPrivate4 n
  | .v6 n _ =>
    match mapped? n with
    | some m => isPrivate4 m
    | none => private6.any (inNet 128 n) && !privateExceptions6.any (inNet 128 n)

def isLoopback : IpAddress → Bool
  | .v4 n => inNet 32 n (quad 127 0 0 0, 8)
  | .v6 n _ => n == 1

def isLinkLocal : IpAddress → Bool
  | .v4 n => inNet 32 n (quad 169 254 0 0, 16)
  | .v6 n _ => inNet 128 n (hex6 [0xfe80], 10)

def isUnspecified : IpAddress → Bool
  | .v4 n => n == 0
  | .v6 n _ => n == 0

def isMulticast : IpAddress → Bool
  | .v4 n => inNet 32 n (quad 224 0 0 0, 4)
  | .v6 n _ => inNet 128 n (hex6 [0xff00], 8)

def isReserved : IpAddress → Bool
  | .v4 n => inNet 32 n (quad 240 0 0 0, 4)
  | .v6 n _ => reserved6.any (inNet 128 n)

def isGlobal : IpAddress → Bool
  | .v4 n => !inNet 32 n (quad 100 64 0 0, 10) && !isPrivate4 n
  | .v6 n scope => !isPrivate (.v6 n scope)

end IpAddress

end Py
