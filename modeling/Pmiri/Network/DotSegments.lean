import Pmiri.Network.CanonicalPath
import Pmiri.Python.IpText
import Pmiri.Segments

/-!
# What a path becomes

A path is spelled from characters and escapes. Canonicalization reads it so,
spells it anew and resolves its segments on a stack.
-/

namespace Pmiri

open Py

/-! ## Spellings -/

/-- A character of a path that is written as it is, or an escaped byte. -/
inductive PathUnit where
  | char (c : Char)
  | escape (byte : Nat)

/-- A text is spelled from units. -/
inductive Spells : List PathUnit → List Char → Prop
  | nil : Spells [] []
  | char {c : Char} {us : List PathUnit} {cs : List Char} (hc : c ≠ '%') (h : Spells us cs) : Spells (.char c :: us) (c :: cs)
  | escape {a b : Char} {x y : Nat} {us : List PathUnit} {cs : List Char} (ha : hexValue a = some x)
      (hb : hexValue b = some y) (h : Spells us cs) : Spells (.escape (x * 16 + y) :: us) ('%' :: a :: b :: cs)

/-- An escaped slash or backslash. -/
def PathUnit.isDelimiter : PathUnit → Bool
  | .char _ => false
  | .escape byte => byte = 0x2F || byte = 0x5C

/-- The character that a unit stands for. -/
def PathUnit.decoded : PathUnit → Char
  | .char c => c
  | .escape byte => Char.ofNat byte

/-- A digit of an escape, in upper case. -/
def hexUpper (d : Nat) : Char := upperAscii (Nat.digitChar d)

/-- A unit in canonical encoding. -/
def PathUnit.canonical : PathUnit → List Char
  | .char c => [c]
  | .escape byte =>
    if isUnreserved (Char.ofNat byte) then [Char.ofNat byte] else ['%', hexUpper (byte / 16), hexUpper (byte % 16)]

/-- A text that has no spelling, or one with an escaped delimiter. -/
def Refused (path : List Char) : Prop := ∀ us, Spells us path → ∃ u ∈ us, u.isDelimiter = true

theorem upperAscii_hexValue {a : Char} {x : Nat} (h : hexValue a = some x) : upperAscii a = hexUpper x := by
  have hall : ∀ k < 128, ∀ x < 16, hexValue (Char.ofNat k) = some x → upperAscii (Char.ofNat k) = hexUpper x := by
    decide +kernel
  have hlt : a.toNat < 128 ∧ x < 16 := by
    simp only [hexValue, Bool.and_eq_true, decide_eq_true_eq] at h
    split_ifs at h <;> simp only [Option.some.injEq] at h <;> omega
  have ha := hall a.toNat hlt.1 x hlt.2
  rw [Char.ofNat_toNat] at ha
  exact ha h

theorem canonical_escape {a b : Char} {x y : Nat} (ha : hexValue a = some x) (hb : hexValue b = some y) :
    (PathUnit.escape (x * 16 + y)).canonical =
      if isUnreserved (Char.ofNat (x * 16 + y)) then [Char.ofNat (x * 16 + y)] else ['%', upperAscii a, upperAscii b] := by
  have hy := hexValue_lt hb
  rw [PathUnit.canonical, upperAscii_hexValue ha, upperAscii_hexValue hb, show (x * 16 + y) / 16 = x by omega,
    show (x * 16 + y) % 16 = y by omega]

/-- A text has one spelling. -/
theorem Spells.unique {us vs : List PathUnit} {cs : List Char} (h : Spells us cs) (h' : Spells vs cs) : us = vs := by
  induction h generalizing vs with
  | nil =>
    cases h'
    rfl
  | char hc h ih =>
    cases h' with
    | char _ h' => rw [ih h']
    | escape => exact absurd rfl hc
  | escape ha hb h ih =>
    cases h' with
    | char hc => exact absurd rfl hc
    | escape ha' hb' h' =>
      obtain rfl := Option.some.inj (ha.symm.trans ha')
      obtain rfl := Option.some.inj (hb.symm.trans hb')
      rw [ih h']

/-- A spelling without escaped delimiters is spelled anew. -/
theorem Spells.canonicalize {us : List PathUnit} {cs : List Char} (h : Spells us cs) :
    (∀ u ∈ us, u.isDelimiter = false) → canonicalizePercentEncoding cs = .ok (us.flatMap PathUnit.canonical) := by
  induction h with
  | nil => exact fun _ => rfl
  | char hc h ih =>
    intro hus
    rw [canonicalize_char hc, ih (List.forall_mem_cons.mp hus).2]
    rfl
  | escape ha hb h ih =>
    intro hus
    obtain ⟨hu, hus⟩ := List.forall_mem_cons.mp hus
    simp only [PathUnit.isDelimiter, Bool.or_eq_false_iff, decide_eq_false_iff_not] at hu
    rw [canonicalize_triple ha hb, if_neg (not_or.mpr hu), ih hus, List.flatMap_cons, canonical_escape ha hb]
    rfl

/-- What is accepted has such a spelling. -/
theorem spells_of_canonicalize {cs out : List Char} (h : canonicalizePercentEncoding cs = .ok out) :
    ∃ us, Spells us cs ∧ ∀ u ∈ us, u.isDelimiter = false := by
  induction cs using canonicalizePercentEncoding.induct generalizing out with
  | case1 => exact ⟨[], .nil, fun u hu => (by cases hu)⟩
  | case2 c rest hc ih =>
    have hc' : c ≠ '%' := by simpa using hc
    rw [canonicalize_char hc'] at h
    obtain ⟨tail, htail, -⟩ := exceptMap_ok h
    obtain ⟨us, hus, hdelim⟩ := ih htail
    exact ⟨.char c :: us, .char hc' hus, List.forall_mem_cons.mpr ⟨rfl, hdelim⟩⟩
  | case3 c hc a b rest x y hb ha byte =>
    rename_i hdelim
    obtain rfl : c = '%' := by simpa using hc
    rw [canonicalize_triple ha hb, if_pos (by simpa using hdelim)] at h
    cases h
  | case4 c hc a b rest x y hb ha byte hdelim =>
    rename_i ih
    obtain rfl : c = '%' := by simpa using hc
    have hdelim' : ¬ (x * 16 + y = 0x2F ∨ x * 16 + y = 0x5C) := by simpa using hdelim
    rw [canonicalize_triple ha hb, if_neg hdelim'] at h
    obtain ⟨tail, htail, -⟩ := exceptMap_ok h
    obtain ⟨us, hus, hdelims⟩ := ih htail
    refine ⟨.escape (x * 16 + y) :: us, .escape ha hb hus, List.forall_mem_cons.mpr ⟨?_, hdelims⟩⟩
    simpa [PathUnit.isDelimiter] using hdelim'
  | case5 c hc a b rest hbad =>
    rw [canonicalizePercentEncoding, if_neg hc] at h
    split at h
    · rename_i x y hx hy
      exact (hbad x y hx hy).elim
    · cases h
  | case6 c rest hc hshort =>
    rw [canonicalizePercentEncoding, if_neg hc] at h
    · cases h
    · exact hshort

/-- Text in canonical encoding is its own canonical spelling. -/
theorem Encoded.spells {cs : List Char} (h : Encoded cs) :
    ∃ us, Spells us cs ∧ us.flatMap PathUnit.canonical = cs ∧
      ∀ byte, .escape byte ∈ us → isUnreserved (Char.ofNat byte) = false := by
  induction h with
  | nil => exact ⟨[], .nil, rfl, fun byte hb => (by cases hb)⟩
  | @char c cs hc _ ih =>
    obtain ⟨us, hus, hspell, hescape⟩ := ih
    refine ⟨.char c :: us, .char hc hus, ?_, ?_⟩
    · rw [List.flatMap_cons, hspell]
      rfl
    · intro byte hb
      rcases List.mem_cons.mp hb with h | h
      · cases h
      · exact hescape byte h
  | @triple a b x y cs ha hb hua hub _ _ hreserved _ ih =>
    obtain ⟨us, hus, hspell, hescape⟩ := ih
    refine ⟨.escape (x * 16 + y) :: us, .escape ha hb hus, ?_, ?_⟩
    · rw [List.flatMap_cons, hspell, canonical_escape ha hb, hreserved, hua, hub]
      rfl
    · intro byte hb
      rcases List.mem_cons.mp hb with h | h
      · cases h
        exact hreserved
      · exact hescape byte h

/-! ## The stack -/

/-- The segments of a path. -/
def pathSegments (path : List Char) : List (List Char) := splitOn '/' (if startsWith path "/" then path.tail else path)

/-- The path of segments. -/
def rootedPath (segs : List (List Char)) : List Char := segs.flatMap ('/' :: ·)

/-- The segments of a path without its dot segments. -/
def resolveSegments (segs : List (List Char)) : List (List Char) := Segments.resolve ['.'] ['.', '.'] [] [] segs

/-- A path with a slash at its front. -/
def rooted (path : List Char) : List Char := if startsWith path "/" then path else '/' :: path

theorem rootedPath_splitOn (cs : List Char) : rootedPath (splitOn '/' cs) = '/' :: cs := by
  induction cs with
  | nil => rfl
  | cons c cs ih =>
    obtain ⟨part, parts, hparts⟩ := List.exists_cons_of_ne_nil (splitOn_ne_nil '/' cs)
    rw [hparts] at ih
    rw [splitOn, hparts]
    split
    · rename_i hc
      rw [rootedPath, List.flatMap_cons, ← rootedPath, ih, hc]
      rfl
    · rw [rootedPath, List.flatMap_cons] at ih ⊢
      rw [List.cons_append, List.cons_append, ← (List.cons.inj ih).2]
      rfl

/-- The path of its segments is the path. -/
theorem rootedPath_pathSegments (path : List Char) : rootedPath (pathSegments path) = rooted path := by
  rw [pathSegments, rootedPath_splitOn, rooted]
  split
  · rename_i h
    obtain ⟨rest, rfl⟩ := List.isPrefixOf_iff_prefix.mp h
    rfl
  · rfl

theorem rooted_rootedPath (segs : List (List Char)) : Rooted (rootedPath segs) := by
  cases segs with
  | nil => exact .inl rfl
  | cons s segs => exact .inr rfl

theorem removeDots_nil (output : List (List Char)) : removeDots [] output = output := by
  rw [removeDots, if_pos rfl]

theorem removeDots_root (output : List (List Char)) : removeDots ['/'] output = output ++ [['/']] := by
  have hempty : '/' ∉ ([] : List Char) := List.not_mem_nil
  have h := removeDots_segment hempty (by simp) (by simp) (.inl rfl) output
  rw [removeDots_nil] at h
  exact h

/-- A segment that stays where it is, in front of others. -/
theorem removeDots_dot (rest : List Char) (output : List (List Char)) :
    removeDots ('/' :: '.' :: '/' :: rest) output = removeDots ('/' :: rest) output := by
  rw [removeDots]
  simp [startsWith, List.isPrefixOf]

/-- A segment that goes up, in front of others. -/
theorem removeDots_up (rest : List Char) (output : List (List Char)) :
    removeDots ('/' :: '.' :: '.' :: '/' :: rest) output = removeDots ('/' :: rest) output.dropLast := by
  rw [removeDots]
  simp [startsWith, List.isPrefixOf]

theorem removeDots_lastDot (output : List (List Char)) : removeDots ['/', '.'] output = output ++ [['/']] := by
  rw [removeDots]
  simp [startsWith, List.isPrefixOf, removeDots_root]

theorem removeDots_lastUp (output : List (List Char)) :
    removeDots ['/', '.', '.'] output = output.dropLast ++ [['/']] := by
  rw [removeDots]
  simp [startsWith, List.isPrefixOf, removeDots_root]

theorem dropLast_map_slash (stack : List (List Char)) :
    (stack.map ('/' :: ·)).dropLast = stack.dropLast.map ('/' :: ·) := (List.map_dropLast ..).symm

/-- The loop resolves the segments of its input on a stack. -/
theorem removeDots_resolve (stack : List (List Char)) {segs : List (List Char)} (h : ∀ s ∈ segs, '/' ∉ s) :
    removeDots (rootedPath segs) (stack.map ('/' :: ·)) =
      (Segments.resolve ['.'] ['.', '.'] [] stack segs).map ('/' :: ·) := by
  induction stack, segs using Segments.resolve.induct ['.'] ['.', '.'] with
  | case1 stack => exact removeDots_nil _
  | case2 stack =>
    rw [Segments.resolve, if_pos rfl, List.map_append]
    exact removeDots_lastDot _
  | case3 stack hdot =>
    rw [Segments.resolve, if_neg hdot, if_pos rfl, List.map_append, ← dropLast_map_slash]
    exact removeDots_lastUp _
  | case4 stack s hdot hup =>
    rw [Segments.resolve, if_neg hdot, if_neg hup, List.map_append]
    have hs := removeDots_segment (h s List.mem_cons_self) hdot hup (.inl rfl) (stack.map ('/' :: ·))
    rw [removeDots_nil] at hs
    exact hs
  | case5 stack t rest ih =>
    rw [Segments.resolve, if_pos rfl, ← ih (List.forall_mem_cons.mp h).2]
    exact removeDots_dot _ _
  | case6 stack t rest hdot ih =>
    rw [Segments.resolve, if_neg hdot, if_pos rfl, ← ih (List.forall_mem_cons.mp h).2, ← dropLast_map_slash]
    exact removeDots_up _ _
  | case7 stack s t rest hdot hup ih =>
    obtain ⟨hs, hrest⟩ := List.forall_mem_cons.mp h
    rw [Segments.resolve, if_neg hdot, if_neg hup, ← ih hrest, List.map_append]
    exact removeDots_segment hs hdot hup (rooted_rootedPath (t :: rest)) _

/-- `_remove_dot_segments` is the stack algorithm. -/
theorem removeDotSegments_eq (path : List Char) :
    removeDotSegments path = rootedPath (resolveSegments (pathSegments path)) := by
  have hslash : ∀ s ∈ pathSegments path, '/' ∉ s := fun s hs => not_mem_of_mem_splitOn hs
  have hloop := removeDots_resolve [] hslash
  rw [rootedPath_pathSegments, rooted] at hloop
  have hne : resolveSegments (pathSegments path) ≠ [] := Segments.resolve_ne_nil (splitOn_ne_nil _ _)
  obtain ⟨s, segs, hsegs⟩ := List.exists_cons_of_ne_nil hne
  rw [removeDotSegments]
  simp only [List.map_nil] at hloop
  rw [hloop, ← resolveSegments, hsegs, rootedPath, List.flatMap_def]
  simp [startsWith, List.isPrefixOf]

/-! ## Canonicalization -/

/-- `_remove_dot_segments(_canonicalize_percent_encoding(path))` -/
def canonicalPath (path : List Char) : Except Exc (List Char) := (canonicalizePercentEncoding path).map removeDotSegments

/-- What an accepted path becomes. -/
structure Canonicalized (path result : List Char) : Prop where
  /-- The segments of the path in canonical encoding, resolved on a stack. -/
  resolved : ∃ us, Spells us path ∧
    result = rootedPath (resolveSegments (pathSegments (us.flatMap PathUnit.canonical)))
  rooted : ∃ rest, result = '/' :: rest
  /-- No segment is a dot segment, also after decoding. -/
  noDots : ∀ seg ∈ pathSegments result, ∃ us, Spells us seg ∧ us.map PathUnit.decoded ≠ ['.'] ∧
    us.map PathUnit.decoded ≠ ['.', '.']
  /-- Where there are no dot segments, all segments stay, the empty ones included. -/
  slashes : ∀ us, Spells us path → (∀ seg ∈ pathSegments (us.flatMap PathUnit.canonical), seg ≠ ['.'] ∧ seg ≠ ['.', '.']) →
    result = Pmiri.rooted (us.flatMap PathUnit.canonical)
  /-- The escapes are in upper case, and of characters that are not unreserved. -/
  escapes : ∃ us, Spells us result ∧ us.flatMap PathUnit.canonical = result ∧
    ∀ byte, .escape byte ∈ us → isUnreserved (Char.ofNat byte) = false
  fixed : canonicalPath result = .ok result

/-- A segment in canonical encoding does not decode to a dot segment, unless it is one. -/
theorem Encoded.decoded_ne {seg dots : List Char} (h : Encoded seg) (hne : seg ≠ dots)
    (hdots : ∀ c ∈ dots, isUnreserved c = true) : ∃ us, Spells us seg ∧ us.map PathUnit.decoded ≠ dots := by
  obtain ⟨us, hus, hspell, hescape⟩ := h.spells
  refine ⟨us, hus, ?_⟩
  rintro rfl
  apply hne
  rw [← hspell]
  have hall : ∀ u ∈ us, u.canonical = [u.decoded] := by
    intro u hu
    cases u with
    | char c => rfl
    | escape byte =>
      have hc := hdots _ (List.mem_map_of_mem hu)
      exact if_pos hc
  clear hspell hescape hne hdots hus
  induction us with
  | nil => rfl
  | cons u us ih =>
    obtain ⟨hu, hus⟩ := List.forall_mem_cons.mp hall
    rw [List.flatMap_cons, hu, ih hus]
    rfl

theorem canonicalPath_true {path : List Char} (he : Encoded path) : CanonicalPath (fun _ => True) (removeDotSegments path) :=
  canonicalPath_removeDotSegments trivial he fun _ _ => trivial

theorem rootedPath_eq {parts : List (List Char)} (hne : parts ≠ []) : rootedPath parts = '/' :: joinWith '/' parts := by
  induction parts with
  | nil => exact absurd rfl hne
  | cons part parts ih =>
    rw [rootedPath, List.flatMap_cons]
    cases parts with
    | nil => simp [joinWith]
    | cons part' parts =>
      rw [← rootedPath, ih (List.cons_ne_nil _ _)]
      rfl

/-- A path of segments is cut into these. -/
theorem pathSegments_rootedPath {parts : List (List Char)} (hne : parts ≠ []) (h : ∀ part ∈ parts, '/' ∉ part) :
    pathSegments (rootedPath parts) = parts := by
  rw [pathSegments, rootedPath_eq hne, if_pos (by simp [startsWith, List.isPrefixOf]), List.tail_cons]
  exact splitOn_joinWith hne h

/-- The segments of a canonical path are in canonical encoding, and no dot segments. -/
theorem CanonicalPath.mem_pathSegments {Q : Char → Prop} {path seg : List Char} (h : CanonicalPath Q path)
    (hseg : seg ∈ pathSegments path) : Encoded seg ∧ seg ≠ ['.'] ∧ seg ≠ ['.', '.'] := by
  obtain ⟨segs, hne, hsegs, rfl⟩ := h
  have hparts : ∃ parts : List (List Char), segs = parts.map ('/' :: ·) ∧
      ∀ s ∈ parts, '/' ∉ s ∧ Encoded s ∧ s ≠ ['.'] ∧ s ≠ ['.', '.'] := by
    clear hne hseg
    induction segs with
    | nil => exact ⟨[], rfl, fun s hs => (by cases hs)⟩
    | cons seg segs ih =>
      obtain ⟨hfirst, hrest⟩ := List.forall_mem_cons.mp hsegs
      obtain ⟨parts, rfl, hparts⟩ := ih hrest
      obtain ⟨s, rfl, hslash, hdot, hdots⟩ := hfirst.shape
      exact ⟨s :: parts, rfl, List.forall_mem_cons.mpr ⟨⟨hslash, hfirst.encoded.of_cons (by decide), hdot, hdots⟩, hparts⟩⟩
  obtain ⟨parts, rfl, hparts⟩ := hparts
  rw [← List.flatMap_def, ← rootedPath, pathSegments_rootedPath (fun h => hne (by rw [h]; rfl)) fun s hs => (hparts s hs).1]
    at hseg
  exact (hparts seg hseg).2

/-- Canonicalization of a path refuses exactly what has no spelling without escaped delimiters, and else gives the
canonical encoding with its segments resolved. -/
theorem canonicalPath_spec (path : List Char) :
    match canonicalPath path with
    | .error _ => Refused path
    | .ok result => ¬ Refused path ∧ Canonicalized path result := by
  cases hc : canonicalizePercentEncoding path with
  | error e =>
    rw [canonicalPath, hc]
    intro us hus
    by_contra hnone
    push Not at hnone
    have hok := hus.canonicalize fun u hu => by simpa using hnone u hu
    rw [hc] at hok
    cases hok
  | ok encoded =>
    rw [canonicalPath, hc]
    obtain ⟨us, hus, hdelim⟩ := spells_of_canonicalize hc
    obtain rfl : us.flatMap PathUnit.canonical = encoded := Except.ok.inj ((hus.canonicalize hdelim).symm.trans hc)
    have hcanonical := canonicalPath_true (encoded_of_canonicalize hc).1
    have heq := removeDotSegments_eq (us.flatMap PathUnit.canonical)
    refine ⟨?_, ⟨us, hus, heq⟩, hcanonical.rooted, ?_, ?_, hcanonical.encoded.spells, ?_⟩
    · intro hrefused
      obtain ⟨u, hu, hd⟩ := hrefused us hus
      rw [hdelim u hu] at hd
      cases hd
    · intro seg hseg
      obtain ⟨hencoded, hdot, hdots⟩ := hcanonical.mem_pathSegments hseg
      obtain ⟨vs, hvs, hvdot⟩ := hencoded.decoded_ne hdot (List.forall_mem_singleton.mpr rfl)
      obtain ⟨ws, hws, hwdots⟩ := hencoded.decoded_ne hdots
        (List.forall_mem_cons.mpr ⟨rfl, List.forall_mem_singleton.mpr rfl⟩)
      obtain rfl := hvs.unique hws
      exact ⟨vs, hvs, hvdot, hwdots⟩
    · intro vs hvs hplain
      obtain rfl := hus.unique hvs
      show removeDotSegments _ = _
      rw [heq, resolveSegments, Segments.resolve_of_plain hplain, List.nil_append, rootedPath_pathSegments]
    · rw [canonicalPath, hcanonical.encoded.canonicalize]
      exact congrArg Except.ok hcanonical.removeDotSegments

end Pmiri
