import Pmiri.Network.Target

/-!
# Canonical paths and queries

What `_canonicalize_percent_encoding` puts out is in canonical encoding, which
it leaves alone; what `_remove_dot_segments` puts out is a sequence of
segments none of which is a dot segment, which it leaves alone as well. A
triple does not straddle a slash, so cutting a path into segments keeps its
encoding canonical.
-/

namespace Pmiri

open Py

/-! ## Percent-encoding -/

/-- Text in canonical encoding: the triples are in upper case, and none stands
for an unreserved character or a delimiter. -/
inductive Encoded : List Char → Prop
  | nil : Encoded []
  | char {c : Char} {cs : List Char} (hc : c ≠ '%') (h : Encoded cs) : Encoded (c :: cs)
  | triple {a b : Char} {x y : Nat} {cs : List Char} (ha : hexValue a = some x) (hb : hexValue b = some y)
      (hua : upperAscii a = a) (hub : upperAscii b = b) (hslash : x * 16 + y ≠ 0x2F) (hback : x * 16 + y ≠ 0x5C)
      (hreserved : isUnreserved (Char.ofNat (x * 16 + y)) = false) (h : Encoded cs) : Encoded ('%' :: a :: b :: cs)

theorem canonicalize_char {c : Char} (hc : c ≠ '%') (rest : List Char) :
    canonicalizePercentEncoding (c :: rest) = (canonicalizePercentEncoding rest).map (c :: ·) := by
  have hc' : (c != '%') = true := by simpa using hc
  rcases rest with _ | ⟨a, _ | ⟨b, rest⟩⟩ <;> simp [canonicalizePercentEncoding, hc']

theorem canonicalize_triple {a b : Char} {x y : Nat} (ha : hexValue a = some x) (hb : hexValue b = some y)
    (rest : List Char) :
    canonicalizePercentEncoding ('%' :: a :: b :: rest) =
      if x * 16 + y = 0x2F ∨ x * 16 + y = 0x5C then .error (networkBoundaryError "ENCODED_DELIMITER_FORBIDDEN")
      else (canonicalizePercentEncoding rest).map
        ((if isUnreserved (Char.ofNat (x * 16 + y)) then [Char.ofNat (x * 16 + y)]
          else ['%', upperAscii a, upperAscii b]) ++ ·) := by
  rw [canonicalizePercentEncoding, if_neg (by simp)]
  simp only [ha, hb, Bool.or_eq_true, decide_eq_true_eq]

/-- Canonical encoding is left alone. -/
theorem Encoded.canonicalize {cs : List Char} (h : Encoded cs) : canonicalizePercentEncoding cs = .ok cs := by
  induction h with
  | nil => rfl
  | char hc h ih =>
    rw [canonicalize_char hc, ih]
    rfl
  | triple ha hb hua hub hslash hback hreserved h ih =>
    rw [canonicalize_triple ha hb, if_neg (by simp [hslash, hback]), ih, hreserved, hua, hub]
    rfl

theorem encoded_of_not_mem {cs : List Char} (h : '%' ∉ cs) : Encoded cs := by
  induction cs with
  | nil => exact .nil
  | cons c cs ih =>
    rw [List.mem_cons, not_or] at h
    exact .char (Ne.symm h.1) (ih h.2)

theorem upperAscii_of_hex {a : Char} {x : Nat} (h : hexValue a = some x) :
    hexValue (upperAscii a) = some x ∧ upperAscii (upperAscii a) = upperAscii a ∧ isUnreserved (upperAscii a) = true := by
  have hall : ∀ k < 128, (hexValue (Char.ofNat k)).isSome = true →
      hexValue (upperAscii (Char.ofNat k)) = hexValue (Char.ofNat k) ∧
        upperAscii (upperAscii (Char.ofNat k)) = upperAscii (Char.ofNat k) ∧
        isUnreserved (upperAscii (Char.ofNat k)) = true := by decide +kernel
  have hlt : a.toNat < 128 := by
    simp only [hexValue, Bool.and_eq_true, decide_eq_true_eq] at h
    split_ifs at h <;> omega
  have ha := hall a.toNat hlt
  rw [Char.ofNat_toNat, h] at ha
  exact ha rfl

theorem ne_percent_of_unreserved {c : Char} (h : isUnreserved c = true) : c ≠ '%' := by
  rintro rfl
  cases h

/-- What is put out is in canonical encoding, and made of what was put in and
of unreserved characters. -/
theorem encoded_of_canonicalize {cs out : List Char} (h : canonicalizePercentEncoding cs = .ok out) :
    Encoded out ∧ (∀ c ∈ out, c ∈ cs ∨ isUnreserved c = true) ∧ (out = [] → cs = []) := by
  induction cs using canonicalizePercentEncoding.induct generalizing out with
  | case1 =>
    obtain rfl := Except.ok.inj h
    exact ⟨.nil, fun c hc => (by cases hc), fun _ => rfl⟩
  | case2 c rest hc ih =>
    have hc' : c ≠ '%' := by simpa using hc
    rw [canonicalize_char hc'] at h
    obtain ⟨tail, htail, rfl⟩ := exceptMap_ok h
    obtain ⟨he, hmem, -⟩ := ih htail
    refine ⟨.char hc' he, ?_, fun h => (by cases h)⟩
    intro d hd
    rcases List.mem_cons.mp hd with rfl | hd
    · exact .inl List.mem_cons_self
    · exact (hmem d hd).imp_left (List.mem_cons_of_mem c)
  | case3 c hc a b rest x y hb ha byte =>
    rename_i hdelim
    obtain rfl : c = '%' := by simpa using hc
    rw [canonicalize_triple ha hb, if_pos (by simpa using hdelim)] at h
    cases h
  | case4 c hc a b rest x y hb ha byte hdelim =>
    rename_i ih
    obtain rfl : c = '%' := by simpa using hc
    have hdelim' : ¬ (x * 16 + y = 0x2F ∨ x * 16 + y = 0x5C) := by simpa using hdelim
    rw [canonicalize_triple ha hb, if_neg hdelim'] at h
    obtain ⟨tail, htail, rfl⟩ := exceptMap_ok h
    obtain ⟨he, hmem, -⟩ := ih htail
    obtain ⟨hxa, hua, hra⟩ := upperAscii_of_hex ha
    obtain ⟨hxb, hub, hrb⟩ := upperAscii_of_hex hb
    have htl : ∀ d ∈ tail, d ∈ '%' :: a :: b :: rest ∨ isUnreserved d = true := fun d hd =>
      (hmem d hd).imp_left fun h => by simp [h]
    by_cases hres : isUnreserved (Char.ofNat (x * 16 + y)) = true
    · rw [if_pos hres]
      refine ⟨.char (ne_percent_of_unreserved hres) he, ?_, fun h => (by cases h)⟩
      intro d hd
      rcases List.mem_cons.mp hd with rfl | hd
      · exact .inr hres
      · exact htl d hd
    · rw [if_neg hres]
      push Not at hdelim'
      refine ⟨.triple hxa hxb hua hub hdelim'.1 hdelim'.2 (by simpa using hres) he, ?_, fun h => (by cases h)⟩
      intro d hd
      simp only [List.cons_append, List.nil_append, List.mem_cons] at hd
      rcases hd with rfl | rfl | rfl | hd
      · exact .inl List.mem_cons_self
      · exact .inr hra
      · exact .inr hrb
      · exact htl d hd
  | case5 c hc a b rest hbad =>
    rw [canonicalizePercentEncoding, if_neg hc] at h
    split at h
    · rename_i x y hx hy
      exact (hbad x y hx hy).elim
    · cases h
  | case6 c rest hc hshort =>
    rw [canonicalizePercentEncoding, if_neg hc] at h
    · cases h
    · exact hshort

/-! ## Segments -/

/-- The input of the loop: nothing, or a path from a slash on. -/
def Rooted (input : List Char) : Prop := input = [] ∨ input.head? = some '/'

/-- A segment that the loop may put out of a path whose characters satisfy
`Q`. -/
structure Segment (Q : Char → Prop) (seg : List Char) : Prop where
  shape : ∃ s, seg = '/' :: s ∧ '/' ∉ s ∧ s ≠ ['.'] ∧ s ≠ ['.', '.']
  encoded : Encoded seg
  chars : ∀ c ∈ seg, Q c

theorem Encoded.of_cons {c : Char} {cs : List Char} (hc : c ≠ '%') (h : Encoded (c :: cs)) : Encoded cs := by
  cases h with
  | char _ h => exact h
  | triple => exact absurd rfl hc

/-- A triple is on one side of a slash. -/
theorem Encoded.span {cs : List Char} (h : Encoded cs) :
    Encoded (cs.takeWhile (· != '/')) ∧ Encoded (cs.dropWhile (· != '/')) := by
  have hne : ∀ {a : Char} {x : Nat}, hexValue a = some x → (a != '/') = true := by
    intro a x ha
    rw [bne_iff_ne]
    rintro rfl
    cases ha
  induction h with
  | nil => exact ⟨.nil, .nil⟩
  | @char c cs hc h ih =>
    rw [List.takeWhile_cons, List.dropWhile_cons]
    split
    · exact ⟨.char hc ih.1, ih.2⟩
    · exact ⟨.nil, .char hc h⟩
  | triple ha hb hua hub hslash hback hreserved h ih =>
    simp only [List.takeWhile_cons, List.dropWhile_cons, hne ha, hne hb, show ('%' != '/') = true from rfl, ↓reduceIte]
    exact ⟨.triple ha hb hua hub hslash hback hreserved ih.1, ih.2⟩

theorem encoded_append {cs ds : List Char} (h : Encoded cs) (h' : Encoded ds) : Encoded (cs ++ ds) := by
  induction h with
  | nil => exact h'
  | char hc _ ih => exact .char hc ih
  | triple ha hb hua hub hslash hback hreserved _ ih => exact .triple ha hb hua hub hslash hback hreserved ih

theorem rooted_dropWhile (cs : List Char) : Rooted (cs.dropWhile (· != '/')) := by
  induction cs with
  | nil => exact .inl rfl
  | cons c cs ih =>
    rw [List.dropWhile_cons]
    split
    · exact ih
    · rename_i hc
      exact .inr (by simpa using hc)

theorem Rooted.cases {input : List Char} (h : Rooted input) : input = [] ∨ ∃ rest, input = '/' :: rest := by
  refine h.imp_right fun h => ?_
  cases input with
  | nil => cases h
  | cons c rest => exact ⟨rest, by simpa using h⟩

theorem Rooted.not_dots {input : List Char} (h : Rooted input) :
    startsWith input "../" = false ∧ startsWith input "./" = false ∧ input ≠ ['.'] ∧ input ≠ ['.', '.'] := by
  rcases h.cases with rfl | ⟨rest, rfl⟩
  · decide
  · exact ⟨by simp [startsWith, List.isPrefixOf], by simp [startsWith, List.isPrefixOf], by simp, by simp⟩

/-- A prefix of slashes and dots is cut off between triples. -/
theorem Encoded.drop_of_startsWith {input : List Char} {p : String} (h : Encoded input) (hs : startsWith input p = true)
    (hp : '%' ∉ p.toList) {n : Nat} (hn : n ≤ p.toList.length) : Encoded (input.drop n) := by
  obtain ⟨rest, rfl⟩ := List.isPrefixOf_iff_prefix.mp hs
  have hall : ∀ (n : Nat) (cs : List Char), '%' ∉ cs → n ≤ cs.length → Encoded (cs ++ rest) → Encoded ((cs ++ rest).drop n) := by
    intro n
    induction n with
    | zero => exact fun cs _ _ h => h
    | succ n ih =>
      intro cs hcs hn h
      cases cs with
      | nil => simp at hn
      | cons c cs =>
        rw [List.mem_cons, not_or] at hcs
        exact ih cs hcs.2 (by simpa using hn) (h.of_cons (Ne.symm hcs.1))
  exact hall n p.toList hp hn h

/-- After a dot segment the input goes on with a slash. -/
theorem rooted_drop {input : List Char} {p : String} {n : Nat} (hs : startsWith input p = true)
    (hn : p.toList[n]? = some '/') : Rooted (input.drop n) := by
  obtain ⟨rest, rfl⟩ := List.isPrefixOf_iff_prefix.mp hs
  refine .inr ?_
  obtain ⟨hlt, hget⟩ := List.getElem?_eq_some_iff.mp hn
  rw [List.head?_drop, List.getElem?_append_left hlt, hn]

/-- The first segment of a path that does not start with a dot segment. -/
theorem segment_firstSegment {Q : Char → Prop} {input : List Char} (hne : input ≠ []) (hr : Rooted input)
    (he : Encoded input) (hq : ∀ c ∈ input, Q c) (h₁ : startsWith input "/./" = false) (h₂ : input ≠ ['/', '.'])
    (h₃ : startsWith input "/../" = false) (h₄ : input ≠ ['/', '.', '.']) :
    Segment Q (firstSegment input).1 ∧ Rooted (firstSegment input).2 ∧ Encoded (firstSegment input).2 ∧
      ∀ c ∈ (firstSegment input).2, Q c := by
  obtain ⟨cs, rfl⟩ : ∃ cs, input = '/' :: cs := by
    rcases hr.cases with h | h
    · exact absurd h hne
    · exact h
  obtain ⟨htake, hdrop⟩ := (he.of_cons (by decide)).span
  have hsplit : cs.takeWhile (· != '/') ++ cs.dropWhile (· != '/') = cs := List.takeWhile_append_dropWhile
  have hrest := rooted_dropWhile cs
  refine ⟨⟨⟨_, rfl, ?_, ?_, ?_⟩, .char (by decide) htake, ?_⟩, hrest, hdrop, ?_⟩
  · intro hm
    have := List.all_eq_true.mp List.all_takeWhile _ hm
    simp at this
  · intro hdot
    rw [hdot] at hsplit
    rcases hrest.cases with h | ⟨rest, h⟩ <;> rw [h] at hsplit
    · exact h₂ (by rw [← hsplit]; rfl)
    · rw [← hsplit] at h₁
      simp [startsWith, List.isPrefixOf] at h₁
  · intro hdots
    rw [hdots] at hsplit
    rcases hrest.cases with h | ⟨rest, h⟩ <;> rw [h] at hsplit
    · exact h₄ (by rw [← hsplit]; rfl)
    · rw [← hsplit] at h₃
      simp [startsWith, List.isPrefixOf] at h₃
  · intro c hc
    rcases List.mem_cons.mp hc with rfl | hc
    · exact hq _ List.mem_cons_self
    · exact hq c (List.mem_cons_of_mem _ ((List.takeWhile_sublist _).subset hc))
  · exact fun c hc => hq c (List.mem_cons_of_mem _ ((List.dropWhile_sublist _).subset hc))

/-- The loop puts out segments. -/
theorem segments_removeDots {Q : Char → Prop} (hslash : Q '/') {input : List Char} {output : List (List Char)}
    (hr : Rooted input) (he : Encoded input) (hq : ∀ c ∈ input, Q c) (ho : ∀ seg ∈ output, Segment Q seg) :
    ∀ seg ∈ removeDots input output, Segment Q seg := by
  have hroot : Rooted ['/'] ∧ Encoded ['/'] ∧ ∀ c ∈ ['/'], Q c :=
    ⟨.inr rfl, .char (by decide) .nil, fun c hc => List.mem_singleton.mp hc ▸ hslash⟩
  have hlast : ∀ seg ∈ output.dropLast, Segment Q seg := fun seg hs => ho seg (List.dropLast_subset _ hs)
  induction input, output using removeDots.induct with
  | case1 output =>
    rw [removeDots, if_pos rfl]
    exact ho
  | case2 input output hne h₁ ih =>
    rw [hr.not_dots.1] at h₁
    cases h₁
  | case3 input output hne h₁ h₂ ih =>
    rw [hr.not_dots.2.1] at h₂
    cases h₂
  | case4 input output hne h₁ h₂ h₃ ih =>
    rw [removeDots, if_neg hne, if_neg h₁, if_neg h₂, if_pos h₃]
    exact ih (rooted_drop h₃ rfl) (he.drop_of_startsWith h₃ (by decide) (by decide))
      (fun c hc => hq c (List.drop_subset _ _ hc)) ho hlast
  | case5 output hne h₁ h₂ h₃ ih =>
    rw [removeDots, if_neg hne, if_neg h₁, if_neg h₂, if_neg h₃, if_pos rfl]
    exact ih hroot.1 hroot.2.1 hroot.2.2 ho hlast
  | case6 input output hne h₁ h₂ h₃ h₄ h₅ ih =>
    rw [removeDots, if_neg hne, if_neg h₁, if_neg h₂, if_neg h₃, if_neg h₄, if_pos h₅]
    exact ih (rooted_drop h₅ rfl) (he.drop_of_startsWith h₅ (by decide) (by decide))
      (fun c hc => hq c (List.drop_subset _ _ hc)) hlast fun seg hs => hlast seg (List.dropLast_subset _ hs)
  | case7 output hne h₁ h₂ h₃ h₄ h₅ ih =>
    rw [removeDots, if_neg hne, if_neg h₁, if_neg h₂, if_neg h₃, if_neg h₄, if_neg h₅, if_pos rfl]
    exact ih hroot.1 hroot.2.1 hroot.2.2 hlast fun seg hs => hlast seg (List.dropLast_subset _ hs)
  | case8 input output hne h₁ h₂ h₃ h₄ h₅ h₆ h₇ =>
    rw [removeDots, if_neg hne, if_neg h₁, if_neg h₂, if_neg h₃, if_neg h₄, if_neg h₅, if_neg h₆, if_pos h₇]
    exact ho
  | case9 input output hne h₁ h₂ h₃ h₄ h₅ h₆ h₇ ih =>
    rw [removeDots, if_neg hne, if_neg h₁, if_neg h₂, if_neg h₃, if_neg h₄, if_neg h₅, if_neg h₆, if_neg h₇]
    obtain ⟨hseg, hr', he', hq'⟩ := segment_firstSegment hne hr he hq (by simpa using h₃) h₄ (by simpa using h₅) h₆
    have ho' : ∀ seg ∈ output ++ [(firstSegment input).1], Segment Q seg := by
      intro seg hs
      rcases List.mem_append.mp hs with hs | hs
      · exact ho seg hs
      · exact List.mem_singleton.mp hs ▸ hseg
    exact ih hr' he' hq' ho' fun seg hs => ho' seg (List.dropLast_subset _ hs)

theorem rooted_flatten {Q : Char → Prop} {segs : List (List Char)} (h : ∀ seg ∈ segs, Segment Q seg) :
    Rooted segs.flatten := by
  cases segs with
  | nil => exact .inl rfl
  | cons seg segs =>
    obtain ⟨s, rfl, -⟩ := (h seg List.mem_cons_self).shape
    exact .inr rfl

/-- A segment is cut where the next one starts. -/
theorem span_segment {s rest : List Char} (hs : '/' ∉ s) (hr : Rooted rest) :
    (s ++ rest).takeWhile (· != '/') = s ∧ (s ++ rest).dropWhile (· != '/') = rest := by
  have hall : ∀ c ∈ s, (c != '/') = true := fun c hc => by
    rw [bne_iff_ne]
    rintro rfl
    exact hs hc
  rw [List.takeWhile_append_of_pos hall, List.dropWhile_append_of_pos hall]
  rcases hr.cases with rfl | ⟨rest, rfl⟩ <;> simp

/-- A segment that is not a dot segment is put out as it is. -/
theorem removeDots_segment {s rest : List Char} (hs : '/' ∉ s) (hdot : s ≠ ['.']) (hdots : s ≠ ['.', '.']) (hr : Rooted rest)
    (output : List (List Char)) : removeDots ('/' :: (s ++ rest)) output = removeDots rest (output ++ ['/' :: s]) := by
  obtain ⟨htake, hdrop⟩ := span_segment hs hr
  -- a dot segment at the front would be the segment itself
  have hfront : ∀ t, s ++ rest ≠ '.' :: '/' :: t ∧ s ++ rest ≠ '.' :: '.' :: '/' :: t := by
    intro t
    constructor
    · intro he
      rw [he] at htake
      exact hdot htake.symm
    · intro he
      rw [he] at htake
      exact hdots htake.symm
  have h₁ : startsWith ('/' :: (s ++ rest)) "/./" = false := by
    rw [← Bool.not_eq_true]
    intro hp
    obtain ⟨t, ht⟩ := List.isPrefixOf_iff_prefix.mp hp
    exact (hfront t).1 (List.cons.inj ht).2.symm
  have h₂ : startsWith ('/' :: (s ++ rest)) "/../" = false := by
    rw [← Bool.not_eq_true]
    intro hp
    obtain ⟨t, ht⟩ := List.isPrefixOf_iff_prefix.mp hp
    exact (hfront t).2 (List.cons.inj ht).2.symm
  have h₃ : '/' :: (s ++ rest) ≠ ['/', '.'] := by
    intro he
    rw [(List.cons.inj he).2] at htake
    exact hdot htake.symm
  have h₄ : '/' :: (s ++ rest) ≠ ['/', '.', '.'] := by
    intro he
    rw [(List.cons.inj he).2] at htake
    exact hdots htake.symm
  have hroot : Rooted ('/' :: (s ++ rest)) := .inr rfl
  obtain ⟨h₅, h₆, h₇, h₈⟩ := hroot.not_dots
  have hfirst : firstSegment ('/' :: (s ++ rest)) = ('/' :: s, rest) := by
    rw [firstSegment, htake, hdrop]
  rw [removeDots]
  simp only [List.cons_ne_nil, h₁, h₂, h₃, h₄, h₅, h₆, h₇, h₈, hfirst, decide_false, Bool.or_self, Bool.false_eq_true,
    ↓reduceIte]

/-- The loop leaves segments as they are. -/
theorem removeDots_flatten {Q : Char → Prop} {segs : List (List Char)} (h : ∀ seg ∈ segs, Segment Q seg)
    (output : List (List Char)) : removeDots segs.flatten output = output ++ segs := by
  induction segs generalizing output with
  | nil => simp [removeDots]
  | cons seg segs ih =>
    rw [List.forall_mem_cons] at h
    obtain ⟨s, rfl, hslash, hdot, hdots⟩ := h.1.shape
    rw [List.flatten_cons, List.cons_append, removeDots_segment hslash hdot hdots (rooted_flatten h.2), ih h.2,
      List.append_assoc, List.singleton_append]

/-! ## Canonical paths -/

/-- A path in canonical form. -/
def CanonicalPath (Q : Char → Prop) (path : List Char) : Prop :=
  ∃ segs, segs ≠ [] ∧ (∀ seg ∈ segs, Segment Q seg) ∧ path = segs.flatten

namespace CanonicalPath

variable {Q : Char → Prop} {path : List Char}

theorem encoded (h : CanonicalPath Q path) : Encoded path := by
  obtain ⟨segs, -, hsegs, rfl⟩ := h
  induction segs with
  | nil => exact .nil
  | cons seg segs ih =>
    rw [List.forall_mem_cons] at hsegs
    exact encoded_append hsegs.1.encoded (ih hsegs.2)

theorem chars (h : CanonicalPath Q path) : ∀ c ∈ path, Q c := by
  obtain ⟨segs, -, hsegs, rfl⟩ := h
  intro c hc
  obtain ⟨seg, hs, hc⟩ := List.mem_flatten.mp hc
  exact (hsegs seg hs).chars c hc

theorem rooted (h : CanonicalPath Q path) : ∃ rest, path = '/' :: rest := by
  obtain ⟨segs, hne, hsegs, rfl⟩ := h
  obtain ⟨seg, rest, rfl⟩ := List.exists_cons_of_ne_nil hne
  obtain ⟨s, rfl, -⟩ := (hsegs seg List.mem_cons_self).shape
  exact ⟨_, rfl⟩

/-- A canonical path has no dot segments to remove. -/
theorem removeDotSegments (h : CanonicalPath Q path) : removeDotSegments path = path := by
  obtain ⟨rest, hrest⟩ := h.rooted
  have hslash : startsWith path "/" = true := by
    rw [hrest]
    simp [startsWith, List.isPrefixOf]
  obtain ⟨segs, -, hsegs, rfl⟩ := h
  rw [Pmiri.removeDotSegments, if_pos hslash, removeDots_flatten hsegs, List.nil_append, if_pos hslash]

end CanonicalPath

/-- Removing the dot segments makes a path canonical. -/
theorem canonicalPath_removeDotSegments {Q : Char → Prop} (hslash : Q '/') {path : List Char} (he : Encoded path)
    (hq : ∀ c ∈ path, Q c) : CanonicalPath Q (removeDotSegments path) := by
  have hinput : ∃ input, (if startsWith path "/" then path else '/' :: path) = input ∧ Rooted input ∧ Encoded input ∧
      ∀ c ∈ input, Q c := by
    split
    · rename_i hs
      obtain ⟨rest, rfl⟩ := List.isPrefixOf_iff_prefix.mp hs
      exact ⟨_, rfl, .inr rfl, he, hq⟩
    · exact ⟨_, rfl, .inr rfl, .char (by decide) he, List.forall_mem_cons.mpr ⟨hslash, hq⟩⟩
  obtain ⟨input, hi, hr, he', hq'⟩ := hinput
  have hsegs : ∀ seg ∈ removeDots input [], Segment Q seg :=
    segments_removeDots hslash hr he' hq' fun seg hs => (by cases hs)
  rw [removeDotSegments, hi]
  cases hs : removeDots input [] with
  | nil =>
    have hroot : Segment Q ['/'] := by
      refine ⟨⟨[], rfl, List.not_mem_nil, List.cons_ne_nil _ _ |>.symm, List.cons_ne_nil _ _ |>.symm⟩,
        .char (by decide) .nil, ?_⟩
      intro c hc
      rw [List.mem_singleton.mp hc]
      exact hslash
    refine ⟨[['/']], List.cons_ne_nil _ _, ?_, rfl⟩
    intro seg hs
    rw [List.mem_singleton.mp hs]
    exact hroot
  | cons seg segs =>
    rw [hs] at hsegs
    obtain ⟨s, hshape, -⟩ := (hsegs seg List.mem_cons_self).shape
    refine ⟨seg :: segs, List.cons_ne_nil _ _, hsegs, ?_⟩
    rw [List.flatten_cons, hshape]
    simp [startsWith, List.isPrefixOf]

end Pmiri
