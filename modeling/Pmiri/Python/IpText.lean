import Pmiri.Python.Ipaddress
import Mathlib.Data.List.Induction

/-!
# Texts of IP addresses

What `ipaddress` prints, it reads as the address it printed: the four octets of
an IPv4 address; the eight hextets of an IPv6 address, the first longest run
of zeros among them left out.
-/

namespace Py

/-! ## Digits -/

theorem hexValue_digitChar : ∀ d < 16, hexValue (Nat.digitChar d) = some d := by decide

theorem hexValue_lt {c : Char} {d : Nat} (h : hexValue c = some d) : d < 16 := by
  simp only [hexValue, Bool.and_eq_true, decide_eq_true_eq] at h
  split_ifs at h with h₁ h₂ h₃ <;> simp only [Option.some.injEq] at h <;> omega

theorem hexNumber_concat (cs : List Char) (c : Char) :
    hexNumber (cs ++ [c]) = (do some ((← hexNumber cs) * 16 + (← hexValue c))) := by
  rw [hexNumber, List.foldl_append]
  rfl

theorem hexNumber_toDigits (n : Nat) : hexNumber (Nat.toDigits 16 n) = some n := by
  induction n using Nat.strongRecOn with
  | ind n ih =>
    by_cases h : n < 16
    · rw [Nat.toDigits_of_lt_base h, ← List.nil_append [Nat.digitChar n], hexNumber_concat, hexValue_digitChar n h]
      simp [hexNumber]
    · rw [Nat.toDigits_of_base_le (by decide) (by omega), hexNumber_concat, ih (n / 16) (by omega),
        hexValue_digitChar _ (Nat.mod_lt n (by decide))]
      simp only [Option.bind_eq_bind, Option.bind_some, Option.some.injEq]
      omega

theorem hexNumber_lt {cs : List Char} {n : Nat} (h : hexNumber cs = some n) : n < 16 ^ cs.length := by
  induction cs using List.reverseRecOn generalizing n with
  | nil =>
    obtain rfl := Option.some.inj h
    decide
  | append_singleton cs c ih =>
    rw [hexNumber_concat] at h
    obtain ⟨a, ha, d, hd, hn⟩ : ∃ a, hexNumber cs = some a ∧ ∃ d, hexValue c = some d ∧ a * 16 + d = n := by
      simpa [Option.bind_eq_some_iff] using h
    have h₁ := ih ha
    have h₂ := hexValue_lt hd
    rw [List.length_append, List.length_singleton, Nat.pow_succ]
    omega

theorem exists_digit_of_mem_toDigits {b n : Nat} {c : Char} (hb : 1 < b) (h : c ∈ Nat.toDigits b n) :
    ∃ d < b, c = Nat.digitChar d := by
  induction n using Nat.strongRecOn with
  | ind n ih =>
    by_cases hn : n < b
    · rw [Nat.toDigits_of_lt_base hn, List.mem_singleton] at h
      exact ⟨n, hn, h⟩
    · rw [Nat.toDigits_of_base_le hb (by omega), List.mem_append, List.mem_singleton] at h
      rcases h with h | h
      · exact ih (n / b) (Nat.div_lt_self (by omega) hb) h
      · exact ⟨n % b, Nat.mod_lt _ (by omega), h⟩

theorem toDigits_eq_zero_iff {b n : Nat} (hb : 1 < b) : Nat.toDigits b n = ['0'] ↔ n = 0 := by
  constructor
  · intro h
    by_cases hn : n < b
    · rw [Nat.toDigits_of_lt_base hn, List.cons.injEq] at h
      exact Nat.digitChar_eq_zero.mp h.1
    · rw [Nat.toDigits_of_base_le hb (by omega)] at h
      have hl := congrArg List.length h
      have hp : 0 < (Nat.toDigits b (n / b)).length := Nat.length_toDigits_pos
      rw [List.length_append, List.length_singleton, List.length_singleton] at hl
      omega
  · rintro rfl
    exact Nat.toDigits_zero b

namespace IpAddress

/-- The characters that numbers are printed with. -/
def IsDigitChar (c : Char) : Prop := ∃ d < 16, c = Nat.digitChar d

theorem isDigitChar_of_mem_toDigits {b n : Nat} {c : Char} (hb : 1 < b) (hb' : b ≤ 16) (h : c ∈ Nat.toDigits b n) :
    IsDigitChar c := by
  obtain ⟨d, hd, rfl⟩ := exists_digit_of_mem_toDigits hb h
  exact ⟨d, Nat.lt_of_lt_of_le hd hb', rfl⟩

theorem IsDigitChar.ne {c : Char} (h : IsDigitChar c) : c ≠ ':' ∧ c ≠ '.' ∧ c ≠ '/' ∧ c ≠ '%' := by
  obtain ⟨d, hd, rfl⟩ := h
  have hall : ∀ d < 16, Nat.digitChar d ≠ ':' ∧ Nat.digitChar d ≠ '.' ∧ Nat.digitChar d ≠ '/' ∧ Nat.digitChar d ≠ '%' := by
    decide
  exact hall d hd

/-! ## IPv4 -/

theorem readOctet_toDigits : ∀ n < 256, readOctet (Nat.toDigits 10 n) = some n := by decide +kernel

theorem readOctet_le {cs : List Char} {n : Nat} (h : readOctet cs = some n) : n ≤ 255 := by
  rw [readOctet] at h
  split_ifs at h with h₁ h₂
  obtain rfl := Option.some.inj h
  exact h₂

theorem isAsciiDigit_of_readOctet {cs : List Char} {n : Nat} (h : readOctet cs = some n) {c : Char} (hc : c ∈ cs) :
    isAsciiDigit c = true := by
  rw [readOctet] at h
  split_ifs at h with h₁ h₂
  simp only [Bool.or_eq_true, not_or, Bool.not_eq_true', Bool.not_eq_false] at h₁
  exact List.all_eq_true.mp h₁.1.1.2 c hc

/-- A dotted quad is four octets. -/
theorem readV4_eq {cs : List Char} {n : Nat} (h : readV4 cs = some n) :
    ∃ a b c d w x y z, splitOn '.' cs = [a, b, c, d] ∧ readOctet a = some w ∧ readOctet b = some x ∧
      readOctet c = some y ∧ readOctet d = some z ∧ ((w * 256 + x) * 256 + y) * 256 + z = n := by
  rw [readV4] at h
  split at h
  · rename_i a b c d hs
    obtain ⟨w, hw, x, hx, y, hy, z, hz, hn⟩ : ∃ w, readOctet a = some w ∧ ∃ x, readOctet b = some x ∧
        ∃ y, readOctet c = some y ∧ ∃ z, readOctet d = some z ∧ ((w * 256 + x) * 256 + y) * 256 + z = n := by
      simpa [Option.bind_eq_some_iff] using h
    exact ⟨a, b, c, d, w, x, y, z, hs, hw, hx, hy, hz, hn⟩
  · cases h

theorem readV4_lt {cs : List Char} {n : Nat} (h : readV4 cs = some n) : n < 2 ^ 32 := by
  obtain ⟨a, b, c, d, w, x, y, z, -, hw, hx, hy, hz, rfl⟩ := readV4_eq h
  have := readOctet_le hw
  have := readOctet_le hx
  have := readOctet_le hy
  have := readOctet_le hz
  omega

/-- A text with anything but digits and dots is no dotted quad. -/
theorem readV4_none {cs : List Char} {c : Char} (hc : c ∈ cs) (hdot : c ≠ '.') (hdigit : isAsciiDigit c = false) :
    readV4 cs = none := by
  rw [← Option.not_isSome_iff_eq_none, Option.isSome_iff_exists]
  rintro ⟨n, h⟩
  obtain ⟨p, q, r, s, w, x, y, z, hs, hw, hx, hy, hz, -⟩ := readV4_eq h
  rw [← joinWith_splitOn '.' cs, hs] at hc
  have hpart : ∀ part ∈ [p, q, r, s], ∃ k, readOctet part = some k := by
    simp [hw, hx, hy, hz]
  rcases mem_joinWith hc with h | ⟨part, hp, hc⟩
  · exact hdot h
  · obtain ⟨k, hk⟩ := hpart part hp
    rw [isAsciiDigit_of_readOctet hk hc] at hdigit
    cases hdigit

theorem mem_octets {n : Nat} {part : List Char} (h : part ∈ octets n) : ∃ k, part = Nat.toDigits 10 k := by
  simp only [octets, List.map_cons, List.map_nil, List.mem_cons, List.not_mem_nil, or_false] at h
  rcases h with rfl | rfl | rfl | rfl <;> exact ⟨_, rfl⟩

theorem isDigitChar_of_mem_octets {n : Nat} {part : List Char} {c : Char} (h : part ∈ octets n) (hc : c ∈ part) :
    IsDigitChar c := by
  obtain ⟨k, rfl⟩ := mem_octets h
  exact isDigitChar_of_mem_toDigits (by decide) (by decide) hc

theorem readV4_octets {n : Nat} (h : n < 2 ^ 32) : readV4 (joinWith '.' (octets n)) = some n := by
  have hs : splitOn '.' (joinWith '.' (octets n)) = octets n :=
    splitOn_joinWith (by simp [octets]) fun part hp hc => (isDigitChar_of_mem_octets hp hc).ne.2.1 rfl
  rw [readV4, hs, octets]
  simp only [List.map_cons, List.map_nil]
  rw [readOctet_toDigits _ (by omega), readOctet_toDigits _ (by omega), readOctet_toDigits _ (by omega),
    readOctet_toDigits _ (by omega)]
  simp only [Option.bind_eq_bind, Option.bind_some, Option.some.injEq]
  omega

/-! ## IPv6: hextets -/

theorem readHextet_toDigits {d : Nat} (h : d < 65536) : readHextet (Nat.toDigits 16 d) = some d := by
  have hl : (Nat.toDigits 16 d).length ≤ 4 := (Nat.length_toDigits_le_iff (by decide) (by decide)).mpr h
  rw [readHextet, if_neg, hexNumber_toDigits]
  simpa [Nat.toDigits_ne_nil] using hl

theorem readHextet_lt {cs : List Char} {d : Nat} (h : readHextet cs = some d) : d < 65536 := by
  rw [readHextet] at h
  split_ifs at h with hc
  simp only [Bool.or_eq_true, not_or, decide_eq_true_eq, Nat.not_lt] at hc
  exact Nat.lt_of_lt_of_le (hexNumber_lt h) (Nat.pow_le_pow_right (by decide) hc.2)

theorem readHextets_concat (parts : List (List Char)) (part : List Char) :
    readHextets (parts ++ [part]) = (do some ((← readHextets parts) * 65536 + (← readHextet part))) := by
  rw [readHextets, List.foldl_append]
  rfl

theorem readHextets_lt {parts : List (List Char)} {n : Nat} (h : readHextets parts = some n) :
    n < 65536 ^ parts.length := by
  induction parts using List.reverseRecOn generalizing n with
  | nil =>
    obtain rfl := Option.some.inj h
    decide
  | append_singleton parts part ih =>
    rw [readHextets_concat] at h
    obtain ⟨a, ha, d, hd, hn⟩ : ∃ a, readHextets parts = some a ∧ ∃ d, readHextet part = some d ∧ a * 65536 + d = n := by
      simpa [Option.bind_eq_some_iff] using h
    have h₁ := ih ha
    have h₂ := readHextet_lt hd
    rw [List.length_append, List.length_singleton, Nat.pow_succ]
    omega

/-- The number that hextets stand for. -/
def ofHextets (ds : List Nat) : Nat := ds.foldl (fun acc d => acc * 65536 + d) 0

theorem ofHextets_concat (ds : List Nat) (d : Nat) : ofHextets (ds ++ [d]) = ofHextets ds * 65536 + d := by
  rw [ofHextets, List.foldl_append]
  rfl

theorem ofHextets_append (ds es : List Nat) : ofHextets (ds ++ es) = ofHextets ds * 65536 ^ es.length + ofHextets es := by
  induction es using List.reverseRecOn with
  | nil => simp [ofHextets]
  | append_singleton es e ih =>
    rw [← List.append_assoc, ofHextets_concat, ofHextets_concat, ih, List.length_append, List.length_singleton,
      Nat.pow_succ, ← Nat.mul_assoc, Nat.add_mul, Nat.add_assoc]

theorem ofHextets_zeros (k : Nat) : ofHextets (List.replicate k 0) = 0 := by
  induction k with
  | zero => rfl
  | succ k ih => rw [List.replicate_succ', ofHextets_concat, ih]

theorem readHextets_map {ds : List Nat} (h : ∀ d ∈ ds, d < 65536) :
    readHextets (ds.map (Nat.toDigits 16)) = some (ofHextets ds) := by
  induction ds using List.reverseRecOn with
  | nil => rfl
  | append_singleton ds d ih =>
    rw [List.forall_mem_append, List.forall_mem_singleton] at h
    rw [List.map_append, List.map_singleton, readHextets_concat, ih h.1, readHextet_toDigits h.2, ofHextets_concat]
    rfl

/-- The hextets of an address. -/
def digits (n : Nat) : List Nat := (List.range 8).map fun i => n / 65536 ^ (7 - i) % 65536

theorem hextets_eq (n : Nat) : hextets n = (digits n).map (Nat.toDigits 16) := by
  simp [hextets, digits, Function.comp_def]

theorem length_digits (n : Nat) : (digits n).length = 8 := by simp [digits]

theorem digits_lt {n d : Nat} (h : d ∈ digits n) : d < 65536 := by
  obtain ⟨i, -, rfl⟩ := List.mem_map.mp h
  exact Nat.mod_lt _ (by decide)

theorem ofHextets_digits {n : Nat} (h : n < 2 ^ 128) : ofHextets (digits n) = n := by
  simp only [digits, List.range, List.range.loop, List.map_cons, List.map_nil, ofHextets, List.foldl_cons, List.foldl_nil]
  omega

/-! ## IPv6: the run of zeros -/

/-- Hextets with a run of `len` zeros from `start` on. -/
def ZeroRun (hs : List (List Char)) (run : Nat × Nat) : Prop :=
  ∃ a b, hs = a ++ List.replicate run.2 ['0'] ++ b ∧ a.length = run.1

theorem zeroRun_takeWhile (before hs : List (List Char)) :
    ZeroRun (before ++ hs) (before.length, (hs.takeWhile (· == ['0'])).length) := by
  refine ⟨before, hs.dropWhile (· == ['0']), ?_, rfl⟩
  have hrun : hs.takeWhile (· == ['0']) = List.replicate (hs.takeWhile (· == ['0'])).length ['0'] :=
    List.eq_replicate_iff.mpr ⟨rfl, fun h hh => by simpa using List.all_eq_true.mp List.all_takeWhile h hh⟩
  rw [← hrun, List.append_assoc, List.takeWhile_append_dropWhile]

theorem zeroRun_longestZeros {hs : List (List Char)} {before : List (List Char)} {best : Nat × Nat}
    (h : ZeroRun (before ++ hs) best) : ZeroRun (before ++ hs) (longestZeros hs before.length best) := by
  induction hs generalizing before best with
  | nil => exact h
  | cons x hs ih =>
    rw [longestZeros]
    have happ : before ++ x :: hs = (before ++ [x]) ++ hs := by simp
    have hlen : before.length + 1 = (before ++ [x]).length := by simp
    rw [happ, hlen]
    refine ih ?_
    rw [← happ]
    split
    · exact zeroRun_takeWhile before (x :: hs)
    · exact h

/-- The parts printed for the hextets beside a run of zeros. -/
def edge (hs : List (List Char)) : List (List Char) := if hs = [] then [[]] else hs

theorem compressHextets_cases (hs : List (List Char)) :
    compressHextets hs = hs ∨
      ∃ a len b, 2 ≤ len ∧ hs = a ++ List.replicate len ['0'] ++ b ∧ compressHextets hs = edge a ++ [] :: edge b := by
  have hrun : ZeroRun ([] ++ hs) (longestZeros hs 0 (0, 0)) := zeroRun_longestZeros ⟨[], hs, by simp, rfl⟩
  rw [compressHextets]
  generalize longestZeros hs 0 (0, 0) = run at hrun
  obtain ⟨start, len⟩ := run
  obtain ⟨a, b, hhs, ha⟩ := hrun
  simp only [List.nil_append] at hhs ha ⊢
  split
  · exact .inl rfl
  · rename_i hlen
    refine .inr ⟨a, len, b, by omega, hhs, ?_⟩
    have hstart : start = 0 ↔ a = [] := by rw [← ha, List.length_eq_zero_iff]
    have hstop : start + len = hs.length ↔ b = [] := by
      rw [hhs, ← List.length_eq_zero_iff, List.length_append, List.length_append, List.length_replicate, ha]
      omega
    have htake : hs.take start = a := by
      rw [hhs, List.append_assoc, ← ha, List.take_left]
    have hdrop : hs.drop (start + len) = b := by
      rw [hhs, List.drop_left' (by simp [ha])]
    simp only [hstart, hstop, htake, hdrop, edge, List.append_assoc, List.singleton_append]

/-! ## IPv6: reading -/

/-- The one empty part between others is found. -/
theorem filter_range_eq_singleton {p : Nat → Bool} {n k : Nat} (hk : k < n) (h : ∀ i < n, p i = true ↔ i = k) :
    (List.range n).filter p = [k] := by
  have hp : (List.range n).filter p = (List.range n).filter (· == k) :=
    List.filter_congr fun i hi => by rw [Bool.eq_iff_iff, h i (List.mem_range.mp hi), beq_iff_eq]
  rw [hp, List.filter_beq, List.count_range]
  simp [hk]

theorem innerEmpty_none {parts : List (List Char)} (h : ∀ part ∈ parts, part ≠ []) : innerEmpty parts = [] := by
  refine List.filter_eq_nil_iff.mpr fun i hi => ?_
  have hlt := List.mem_range.mp hi
  simp [List.getD_eq_getElem?_getD, hlt, h _ (List.getElem_mem hlt)]

theorem length_edge_pos (hs : List (List Char)) : 0 < (edge hs).length := by
  rw [edge]
  split
  · exact Nat.one_pos
  · exact List.length_pos_iff.mpr ‹_›

theorem length_edge_nil : (edge []).length = 1 := rfl

theorem edge_of_ne {hs : List (List Char)} (h : hs ≠ []) : edge hs = hs := if_neg h

theorem getElem_edge {hs : List (List Char)} (h : ∀ part ∈ hs, part ≠ []) {i : Nat} (hi : i < (edge hs).length) :
    (edge hs)[i] = [] ↔ hs = [] := by
  by_cases hs' : hs = []
  · subst hs'
    rw [length_edge_nil, Nat.lt_one_iff] at hi
    simp [edge, hi]
  · simp only [edge_of_ne hs', hs', iff_false]
    exact h _ (List.getElem_mem _)

/-- The one empty part between others is found. -/
theorem innerEmpty_edges {a b : List (List Char)} (ha : ∀ part ∈ a, part ≠ []) (hb : ∀ part ∈ b, part ≠ []) :
    innerEmpty (edge a ++ [] :: edge b) = [(edge a).length] := by
  have hlen : (edge a ++ [] :: edge b).length = (edge a).length + 1 + (edge b).length := by
    rw [List.length_append, List.length_cons]
    omega
  have hpa := length_edge_pos a
  have hpb := length_edge_pos b
  refine filter_range_eq_singleton (by omega) fun i hi => ?_
  rw [hlen] at hi ⊢
  simp only [Bool.and_eq_true, decide_eq_true_eq, List.isEmpty_iff, List.getD_eq_getElem?_getD]
  rcases Nat.lt_trichotomy i (edge a).length with h | h | h
  · rw [List.getElem?_append_left h, List.getElem?_eq_getElem h, Option.getD_some, getElem_edge ha h]
    refine iff_of_false ?_ (by omega)
    rintro ⟨⟨h₀, -⟩, rfl⟩
    rw [length_edge_nil] at h
    omega
  · subst h
    rw [List.getElem?_append_right (le_refl _), Nat.sub_self, List.getElem?_cons_zero]
    exact iff_of_true ⟨⟨hpa, by omega⟩, rfl⟩ rfl
  · obtain ⟨j, rfl⟩ : ∃ j, i = (edge a).length + (j + 1) := ⟨i - (edge a).length - 1, by omega⟩
    have hj : j < (edge b).length := by omega
    rw [List.getElem?_append_right (by omega), Nat.add_sub_cancel_left, List.getElem?_cons_succ,
      List.getElem?_eq_getElem hj, Option.getD_some, getElem_edge hb hj]
    refine iff_of_false ?_ (by omega)
    rintro ⟨⟨-, h₁⟩, rfl⟩
    rw [length_edge_nil] at h₁ hj
    omega

theorem isEmpty_head_edge {hs : List (List Char)} (h : ∀ part ∈ hs, part ≠ []) :
    ((edge hs).head?.getD []).isEmpty = hs.isEmpty := by
  cases hs with
  | nil => rfl
  | cons part hs => simpa [edge] using h part List.mem_cons_self

theorem isEmpty_last_edge {hs : List (List Char)} (h : ∀ part ∈ hs, part ≠ []) :
    ((edge hs).getLastD []).isEmpty = hs.isEmpty := by
  cases hs using List.reverseRecOn with
  | nil => rfl
  | append_singleton hs part =>
    have hp : part.isEmpty = false := by simpa using h part (by simp)
    simp [edge, hp]

/-- The hextets beside the run, read where they are printed. -/
theorem bind_trimmed {β : Type} (hs : List (List Char)) (k : List (List Char) → Option β) :
    (if hs.isEmpty = true then (if (edge hs).length = 1 then some [] else none).bind k else k (edge hs)) = k hs := by
  cases hs <;> rfl

/-- What a text of hextets without a dotted quad is split into. -/
theorem v6Parts_joinWith {parts : List (List Char)} (hlen : 3 ≤ parts.length)
    (h : ∀ part ∈ parts, ∀ c ∈ part, IsDigitChar c) : v6Parts (joinWith ':' parts) = some parts := by
  have hne : parts ≠ [] := List.ne_nil_of_length_pos (by omega)
  have hs : splitOn ':' (joinWith ':' parts) = parts := splitOn_joinWith hne fun part hp hc => (h part hp _ hc).ne.1 rfl
  have hlast : (parts.getLastD []).contains '.' = false := by
    rw [List.getLastD_eq_getLast?, List.getLast?_eq_getLast_of_ne_nil hne, Option.getD_some, List.contains_eq_mem,
      decide_eq_false_iff_not]
    exact fun hc => (h _ (List.getLast_mem hne) _ hc).ne.2.1 rfl
  rw [v6Parts, hs]
  simp only [if_neg (Nat.not_lt.mpr hlen), hlast, Bool.false_eq_true, ↓reduceIte]

/-- Two lists of hextets with a run of zeros left out between them. -/
theorem readV6_edges {a b : List Nat} (ha : ∀ d ∈ a, d < 65536) (hb : ∀ d ∈ b, d < 65536)
    (hlen : a.length + b.length < 8) :
    readV6 (joinWith ':' (edge (a.map (Nat.toDigits 16)) ++ [] :: edge (b.map (Nat.toDigits 16)))) =
      some (ofHextets a * 65536 ^ (8 - a.length) + ofHextets b) := by
  have hne : ∀ ds : List Nat, ∀ part ∈ ds.map (Nat.toDigits 16), part ≠ [] := by
    intro ds part hp
    obtain ⟨d, -, rfl⟩ := List.mem_map.mp hp
    exact Nat.toDigits_ne_nil
  have hdigit : ∀ ds : List Nat, ∀ part ∈ edge (ds.map (Nat.toDigits 16)), ∀ c ∈ part, IsDigitChar c := by
    intro ds part hp c hc
    rw [edge] at hp
    split at hp
    · obtain rfl := List.mem_singleton.mp hp
      cases hc
    · obtain ⟨d, -, rfl⟩ := List.mem_map.mp hp
      exact isDigitChar_of_mem_toDigits (by decide) (by decide) hc
  have hedge : ∀ ds : List Nat, (edge (ds.map (Nat.toDigits 16))).length = max 1 ds.length := by
    intro ds
    cases ds with
    | nil => rfl
    | cons d ds =>
      rw [edge_of_ne (by simp), List.length_map, List.length_cons]
      omega
  have hparts : v6Parts (joinWith ':' (edge (a.map (Nat.toDigits 16)) ++ [] :: edge (b.map (Nat.toDigits 16)))) =
      some (edge (a.map (Nat.toDigits 16)) ++ [] :: edge (b.map (Nat.toDigits 16))) := by
    refine v6Parts_joinWith ?_ ?_
    · rw [List.length_append, List.length_cons, hedge, hedge]
      omega
    · intro part hp c hc
      rcases List.mem_append.mp hp with hp | hp
      · exact hdigit a part hp c hc
      · rcases List.mem_cons.mp hp with rfl | hp
        · cases hc
        · exact hdigit b part hp c hc
  rw [readV6, hparts]
  have hnine : ¬ 9 < (edge (a.map (Nat.toDigits 16)) ++ [] :: edge (b.map (Nat.toDigits 16))).length := by
    rw [List.length_append, List.length_cons, hedge, hedge]
    omega
  simp only [Option.bind_eq_bind, Option.bind_some, if_neg hnine, innerEmpty_edges (hne a) (hne b), List.take_left,
    List.drop_append, List.drop_eq_nil_of_le (Nat.le_succ _), List.nil_append, Nat.add_sub_cancel_left, List.drop_succ_cons,
    List.drop_zero, isEmpty_head_edge (hne a), isEmpty_last_edge (hne b)]
  rw [bind_trimmed, bind_trimmed, List.length_map, List.length_map, if_neg (Nat.not_le.mpr hlen), readHextets_map ha,
    readHextets_map hb]
  rfl

/-- Eight hextets, none of them left out. -/
theorem readV6_all {ds : List Nat} (h : ∀ d ∈ ds, d < 65536) (hlen : ds.length = 8) :
    readV6 (joinWith ':' (ds.map (Nat.toDigits 16))) = some (ofHextets ds) := by
  have hne : ∀ part ∈ ds.map (Nat.toDigits 16), part ≠ [] := by
    intro part hp
    obtain ⟨d, -, rfl⟩ := List.mem_map.mp hp
    exact Nat.toDigits_ne_nil
  have hparts : v6Parts (joinWith ':' (ds.map (Nat.toDigits 16))) = some (ds.map (Nat.toDigits 16)) := by
    refine v6Parts_joinWith (by rw [List.length_map]; omega) ?_
    intro part hp c hc
    obtain ⟨d, -, rfl⟩ := List.mem_map.mp hp
    exact isDigitChar_of_mem_toDigits (by decide) (by decide) hc
  rw [readV6, hparts]
  simp only [Option.bind_eq_bind, Option.bind_some, List.length_map, hlen, innerEmpty_none hne, readHextets_map h]
  rfl

theorem readV6_hextets {n : Nat} (h : n < 2 ^ 128) : readV6 (joinWith ':' (compressHextets (hextets n))) = some n := by
  rcases compressHextets_cases (hextets n) with hall | ⟨a, len, b, hlen, hhs, hcompress⟩
  · rw [hall, hextets_eq, readV6_all (fun d => digits_lt) (length_digits n), ofHextets_digits h]
  · -- the digits are split where their texts are
    rw [hextets_eq, List.map_eq_append_iff] at hhs
    obtain ⟨ds, db, hdigits, hds, rfl⟩ := hhs
    obtain ⟨da, dz, rfl, rfl, hz⟩ := List.map_eq_append_iff.mp hds
    have hzeros : dz = List.replicate len 0 := by
      refine List.eq_replicate_iff.mpr ⟨by simpa using congrArg List.length hz, fun d hd => ?_⟩
      have htext : Nat.toDigits 16 d ∈ List.replicate len ['0'] := hz ▸ List.mem_map.mpr ⟨d, hd, rfl⟩
      exact (toDigits_eq_zero_iff (by decide)).mp (List.eq_of_mem_replicate htext)
    have hlt : ∀ d ∈ digits n, d < 65536 := fun d => digits_lt
    have height := length_digits n
    rw [hdigits, hzeros] at hlt height
    simp only [List.length_append, List.length_replicate] at height
    rw [hcompress, readV6_edges (fun d hd => hlt d (by simp [hd])) (fun d hd => hlt d (by simp [hd])) (by omega),
      ← ofHextets_digits h, hdigits, hzeros, ofHextets_append, ofHextets_append, ofHextets_zeros, Nat.add_zero,
      List.length_replicate, Nat.mul_assoc, ← Nat.pow_add]
    rw [show 8 - da.length = len + db.length by omega]

/-! ## Addresses -/

/-- What reading gives: numbers of the width of the address, and a scope that
can stand behind a percent sign. -/
def WellFormed : IpAddress → Prop
  | .v4 n => n < 2 ^ 32
  | .v6 n scope => n < 2 ^ 128 ∧ ∀ s, scope = some s → s ≠ [] ∧ '%' ∉ s ∧ '/' ∉ s

/-- Hextets on both sides of a run stay within the address. -/
theorem lt_of_hextets {j k x y : Nat} (hlen : j + k < 8) (hx : x < 65536 ^ j) (hy : y < 65536 ^ k) :
    x * 65536 ^ (8 - j) + y < 2 ^ 128 := by
  have hk : 65536 ^ k ≤ 65536 ^ (8 - j) := Nat.pow_le_pow_right (by decide) (by omega)
  calc x * 65536 ^ (8 - j) + y < x * 65536 ^ (8 - j) + 65536 ^ (8 - j) := by omega
    _ = (x + 1) * 65536 ^ (8 - j) := (Nat.succ_mul ..).symm
    _ ≤ 65536 ^ j * 65536 ^ (8 - j) := Nat.mul_le_mul_right _ hx
    _ = 65536 ^ 8 := by rw [← Nat.pow_add, show j + (8 - j) = 8 by omega]
    _ = 2 ^ 128 := by decide

theorem readV6_lt {cs : List Char} {n : Nat} (h : readV6 cs = some n) : n < 2 ^ 128 := by
  rw [readV6] at h
  obtain ⟨parts, -, h⟩ := Option.bind_eq_some_iff.mp h
  split at h
  · cases h
  split at h
  · split at h
    · rename_i hlen
      have hlt := readHextets_lt h
      rw [hlen] at hlt
      exact hlt
    · cases h
  · rename_i skip _
    extract_lets hi lo jp at h
    obtain ⟨hi', h⟩ : ∃ hi', jp hi' = some n := by
      split at h
      · obtain ⟨hi', -, h⟩ := Option.bind_eq_some_iff.mp h
        exact ⟨hi', h⟩
      · exact ⟨hi, h⟩
    simp -zeta only [jp] at h
    extract_lets jp' at h
    obtain ⟨lo', h⟩ : ∃ lo', jp' lo' = some n := by
      split at h
      · obtain ⟨lo', -, h⟩ := Option.bind_eq_some_iff.mp h
        exact ⟨lo', h⟩
      · exact ⟨lo, h⟩
    simp only [jp'] at h
    split at h
    · cases h
    rename_i hlen
    obtain ⟨x, hx, h⟩ := Option.bind_eq_some_iff.mp h
    obtain ⟨y, hy, h⟩ := Option.bind_eq_some_iff.mp h
    obtain rfl := Option.some.inj h
    exact lt_of_hextets (by omega) (readHextets_lt hx) (readHextets_lt hy)
  · cases h

theorem wellFormed_of_read {s : String} {p : IpAddress} (h : read s = some p) : p.WellFormed := by
  rw [read] at h
  split at h
  · cases h
  rename_i hslash
  split at h
  · rename_i n hn
    obtain rfl := Option.some.inj h
    exact readV4_lt hn
  · rcases partition_cases '%' s.toList with ⟨-, hp⟩ | ⟨before, after, hb, hs, hp⟩
    · rw [hp] at h
      obtain ⟨n, hn, rfl⟩ := Option.map_eq_some_iff.mp h
      exact ⟨readV6_lt hn, fun s hs => (by cases hs)⟩
    · rw [hp] at h
      simp only at h
      split at h
      · cases h
      · rename_i hscope
        obtain ⟨n, hn, rfl⟩ := Option.map_eq_some_iff.mp h
        refine ⟨readV6_lt hn, ?_⟩
        intro s' hs'
        obtain rfl : after = s' := Option.some.inj hs'
        simp only [Bool.or_eq_true, not_or, List.isEmpty_iff, List.contains_iff_mem] at hscope
        refine ⟨hscope.1, hscope.2, fun hc => hslash ?_⟩
        rw [List.contains_iff_mem, hs]
        simp [hc]

theorem length_compressHextets {hs : List (List Char)} (h : hs.length = 8) : 2 ≤ (compressHextets hs).length := by
  rcases compressHextets_cases hs with hall | ⟨a, len, b, -, -, hcompress⟩
  · rw [hall, h]
    decide
  · have hpa := length_edge_pos a
    have hpb := length_edge_pos b
    rw [hcompress, List.length_append, List.length_cons]
    omega

theorem mem_compressHextets {hs : List (List Char)} {part : List Char} (h : part ∈ compressHextets hs) :
    part = [] ∨ part ∈ hs := by
  have hedge : ∀ hs' : List (List Char), part ∈ edge hs' → part = [] ∨ part ∈ hs' := by
    intro hs' hp
    rw [edge] at hp
    split at hp
    · exact .inl (List.mem_singleton.mp hp)
    · exact .inr hp
  rcases compressHextets_cases hs with hall | ⟨a, len, b, -, hhs, hcompress⟩
  · rw [hall] at h
    exact .inr h
  · rw [hcompress, List.mem_append, List.mem_cons] at h
    rcases h with h | h | h
    · exact (hedge a h).imp_right fun hp => by simp [hhs, hp]
    · exact .inl h
    · exact (hedge b h).imp_right fun hp => by simp [hhs, hp]

theorem mem_joinWith_sep {sep : Char} {parts : List (List Char)} (h : 2 ≤ parts.length) : sep ∈ joinWith sep parts := by
  rcases parts with _ | ⟨part, _ | ⟨part', parts⟩⟩
  · simp at h
  · simp at h
  · simp [joinWith]

/-- The text of an IPv6 address without its scope. -/
def text6 (n : Nat) : List Char := joinWith ':' (compressHextets (hextets n))

theorem colon_mem_text6 (n : Nat) : ':' ∈ text6 n :=
  mem_joinWith_sep (length_compressHextets (by simp [hextets]))

theorem mem_text6 {n : Nat} {c : Char} (h : c ∈ text6 n) : c = ':' ∨ IsDigitChar c := by
  refine (mem_joinWith h).imp_right ?_
  rintro ⟨part, hp, hc⟩
  rcases mem_compressHextets hp with rfl | hp
  · cases hc
  · rw [hextets_eq] at hp
    obtain ⟨d, -, rfl⟩ := List.mem_map.mp hp
    exact isDigitChar_of_mem_toDigits (by decide) (by decide) hc

theorem not_mem_text6 {n : Nat} {c : Char} (hcolon : c ≠ ':') (hdigit : ¬ IsDigitChar c) : c ∉ text6 n :=
  fun h => (mem_text6 h).elim hcolon hdigit

/-- What is printed for an address is read as the address. -/
theorem read_print_of_wellFormed {p : IpAddress} (h : p.WellFormed) : read p.print = some p := by
  cases p with
  | v4 n =>
    have hslash : (joinWith '.' (octets n)).contains '/' = false := by
      rw [List.contains_eq_mem, decide_eq_false_iff_not]
      intro hc
      rcases mem_joinWith hc with hc | ⟨part, hp, hc⟩
      · cases hc
      · exact (isDigitChar_of_mem_octets hp hc).ne.2.2.1 rfl
    simp only [read, print, String.toList_ofList, hslash, readV4_octets h, Bool.false_eq_true, ↓reduceIte]
  | v6 n scope =>
    obtain ⟨hn, hscope⟩ := h
    have hpercent : '%' ∉ text6 n := not_mem_text6 (by decide) fun h => h.ne.2.2.2 rfl
    have hslash : '/' ∉ text6 n := not_mem_text6 (by decide) fun h => h.ne.2.2.1 rfl
    have hread : readV6 (text6 n) = some n := readV6_hextets hn
    cases scope with
    | none =>
      have htext : (print (.v6 n none)).toList = text6 n := String.toList_ofList
      have h4 : readV4 (text6 n) = none := readV4_none (colon_mem_text6 n) (by decide) (by decide)
      rw [read, htext, if_neg (by simpa using hslash)]
      simp only [h4, partition_self hpercent, hread, Option.map_some]
    | some s =>
      obtain ⟨hne, hs, hs'⟩ := hscope s rfl
      have htext : (print (.v6 n (some s))).toList = text6 n ++ '%' :: s := String.toList_ofList
      have h4 : readV4 (text6 n ++ '%' :: s) = none :=
        readV4_none (List.mem_append_left _ (colon_mem_text6 n)) (by decide) (by decide)
      rw [read, htext, if_neg (by simp [hslash, hs'])]
      simp only [h4, partition_append hpercent, hread, Option.map_some]
      rw [if_neg (by simp [hne, hs])]

theorem read_print {s : String} {p : IpAddress} (h : read s = some p) : read p.print = some p :=
  read_print_of_wellFormed (wellFormed_of_read h)

end IpAddress

/-! ## Dotted quads -/

theorem decNumber_concat (cs : List Char) (c : Char) : decNumber (cs ++ [c]) = decNumber cs * 10 + (c.toNat - 48) := by
  rw [decNumber, List.foldl_append]
  rfl

theorem digitChar_of_isAsciiDigit {c : Char} (h : isAsciiDigit c = true) :
    c.toNat - 48 < 10 ∧ Nat.digitChar (c.toNat - 48) = c := by
  simp only [isAsciiDigit, Bool.and_eq_true, decide_eq_true_eq] at h
  have hlt : c.toNat - 48 < 10 := by omega
  refine ⟨hlt, Char.toNat_inj.mp ?_⟩
  rw [Nat.toNat_digitChar_of_lt_ten hlt]
  omega

/-- A number without leading zeros is written as it is read. -/
theorem toDigits_decNumber {cs : List Char} (hne : cs ≠ []) (hdigits : ∀ c ∈ cs, isAsciiDigit c = true)
    (hzero : cs.head? ≠ some '0' ∨ cs = ['0']) :
    Nat.toDigits 10 (decNumber cs) = cs ∧ (cs.head? ≠ some '0' → 0 < decNumber cs) := by
  induction cs using List.reverseRecOn with
  | nil => exact absurd rfl hne
  | append_singleton ds c ih =>
    obtain ⟨hlt, hc⟩ := digitChar_of_isAsciiDigit (hdigits c (by simp))
    rw [decNumber_concat]
    rcases eq_or_ne ds [] with rfl | hds
    · have hdec : decNumber [] * 10 + (c.toNat - 48) = c.toNat - 48 := by simp [decNumber]
      rw [hdec, Nat.toDigits_of_lt_base hlt, hc]
      refine ⟨rfl, fun h => ?_⟩
      rcases Nat.eq_zero_or_pos (c.toNat - 48) with h₀ | h₀
      · rw [h₀] at hc
        exact absurd (by rw [← hc]; rfl) h
      · exact h₀
    · have hhead : (ds ++ [c]).head? = ds.head? := by
        obtain ⟨d, ds', rfl⟩ := List.exists_cons_of_ne_nil hds
        rfl
      have hds0 : ds.head? ≠ some '0' := by
        rw [hhead] at hzero
        rcases hzero with h | h
        · exact h
        · have hl := congrArg List.length h
          rw [List.length_append, List.length_singleton, List.length_singleton] at hl
          exact absurd (List.length_eq_zero_iff.mp (by omega)) hds
      obtain ⟨htext, hpos⟩ := ih hds (fun d hd => hdigits d (by simp [hd])) (.inl hds0)
      have happ := Nat.toDigits_append_toDigits (b := 10) (by decide) (hpos hds0) hlt
      rw [htext, Nat.toDigits_of_lt_base hlt, hc, Nat.mul_comm] at happ
      exact ⟨happ.symm, fun _ => by have := hpos hds0; omega⟩

namespace IpAddress

theorem toDigits_of_readOctet {cs : List Char} {n : Nat} (h : readOctet cs = some n) : Nat.toDigits 10 n = cs := by
  have hdigits : ∀ c ∈ cs, isAsciiDigit c = true := fun c hc => isAsciiDigit_of_readOctet h hc
  rw [readOctet] at h
  split_ifs at h with h₁ h₂
  simp only [Bool.or_eq_true, not_or, Bool.and_eq_true, not_and, bne_iff_ne, beq_iff_eq, List.isEmpty_iff] at h₁
  obtain rfl := Option.some.inj h
  refine (toDigits_decNumber h₁.1.1.1 hdigits ?_).1
  by_cases hz : cs = ['0']
  · exact .inr hz
  · exact .inl (h₁.2 hz)

/-- A dotted quad is printed as it was read. -/
theorem joinWith_octets {cs : List Char} {n : Nat} (h : readV4 cs = some n) : joinWith '.' (octets n) = cs := by
  obtain ⟨a, b, c, d, w, x, y, z, hs, hw, hx, hy, hz, rfl⟩ := readV4_eq h
  have := readOctet_le hw
  have := readOctet_le hx
  have := readOctet_le hy
  have := readOctet_le hz
  rw [octets, show (((w * 256 + x) * 256 + y) * 256 + z) / 256 ^ 3 = w by omega,
    show (((w * 256 + x) * 256 + y) * 256 + z) / 256 ^ 2 % 256 = x by omega,
    show (((w * 256 + x) * 256 + y) * 256 + z) / 256 % 256 = y by omega,
    show (((w * 256 + x) * 256 + y) * 256 + z) % 256 = z by omega]
  simp only [List.map_cons, List.map_nil, toDigits_of_readOctet hw, toDigits_of_readOctet hx, toDigits_of_readOctet hy,
    toDigits_of_readOctet hz]
  rw [← hs, joinWith_splitOn]

end IpAddress

end Py
