import Pmiri.Network.Target
import Pmiri.Python.IpText

/-!
# Canonical hosts

What `canonicalHost` gives, an address or a host name, and that it is left
alone when it is canonicalized again: the text of an address is read as the
address, and a host name that happens to be read as an address is its text.
-/

namespace Pmiri

open Py

/-! ## Host names -/

/-- A text of lower-case labels. -/
def IsHostName (name : List Char) : Prop := name ≠ [] ∧ ∀ label ∈ splitOn '.' name, badLabel label = false

/-- A character of a label. -/
def IsLabelChar (c : Char) : Prop := isAsciiLower c = true ∨ isAsciiDigit c = true ∨ c = '-'

theorem isLabelChar_of_mem {label : List Char} (h : badLabel label = false) {c : Char} (hc : c ∈ label) : IsLabelChar c := by
  rw [badLabel, Bool.or_eq_false_iff] at h
  have hl := List.any_eq_false.mp h.2 c hc
  rw [Bool.not_eq_true', Bool.not_eq_false, Bool.or_eq_true, Bool.or_eq_true, beq_iff_eq, or_assoc] at hl
  exact hl

namespace IsHostName

theorem mem {name : List Char} (h : IsHostName name) {c : Char} (hc : c ∈ name) : c = '.' ∨ IsLabelChar c := by
  rw [← joinWith_splitOn '.' name] at hc
  refine (mem_joinWith hc).imp_right ?_
  rintro ⟨label, hl, hc⟩
  exact isLabelChar_of_mem (h.2 label hl) hc

theorem not_mem {name : List Char} (h : IsHostName name) {c : Char} (hdot : c ≠ '.') (hlabel : ¬ IsLabelChar c) :
    c ∉ name :=
  fun hc => (h.mem hc).elim hdot hlabel

end IsHostName

theorem IsLabelChar.ascii {c : Char} (h : IsLabelChar c) : c.toNat < 128 ∧ lowerAscii c = c := by
  rcases h with h | h | rfl
  · simp only [isAsciiLower, Bool.and_eq_true, decide_eq_true_eq] at h
    refine ⟨by omega, if_neg ?_⟩
    simp only [isAsciiUpper, Bool.and_eq_true, decide_eq_true_eq]
    omega
  · simp only [isAsciiDigit, Bool.and_eq_true, decide_eq_true_eq] at h
    refine ⟨by omega, if_neg ?_⟩
    simp only [isAsciiUpper, Bool.and_eq_true, decide_eq_true_eq]
    omega
  · decide

instance (c : Char) : Decidable (IsLabelChar c) := inferInstanceAs (Decidable (_ ∨ _ ∨ _))

section

variable [Runtime]

theorem lower_of_ascii {cs : List Char} (h : ∀ c ∈ cs, c.toNat < 128 ∧ lowerAscii c = c) : lower cs = cs := by
  have hascii : isAscii cs = true := List.all_eq_true.mpr fun c hc => decide_eq_true (h c hc).1
  rw [lower, if_pos hascii]
  exact (List.map_congr_left fun c hc => (h c hc).2).trans (List.map_id cs)

theorem casefold_of_ascii {cs : List Char} (h : ∀ c ∈ cs, c.toNat < 128 ∧ lowerAscii c = c) : casefold cs = cs := by
  have hascii : isAscii cs = true := List.all_eq_true.mpr fun c hc => decide_eq_true (h c hc).1
  rw [casefold, if_pos hascii]
  exact (List.map_congr_left fun c hc => (h c hc).2).trans (List.map_id cs)

end

/-! ## Canonical hosts -/

theorem splitOn_concat (sep : Char) (cs : List Char) : splitOn sep (cs ++ [sep]) = splitOn sep cs ++ [[]] := by
  induction cs with
  | nil => simp [splitOn]
  | cons c cs ih =>
    obtain ⟨part, parts, hparts⟩ := List.exists_cons_of_ne_nil (splitOn_ne_nil sep cs)
    rw [List.cons_append, splitOn, splitOn, ih, hparts]
    split <;> rfl

theorem IsHostName.rstrip {name : List Char} (h : IsHostName name) : rstrip (· == '.') name = name := by
  rcases List.eq_nil_or_concat name with rfl | ⟨cs, c, rfl⟩
  · rfl
  · rw [List.concat_eq_append] at h ⊢
    have hc : (c == '.') = false := by
      rw [beq_eq_false_iff_ne]
      rintro rfl
      have hempty := h.2 [] (by simp [splitOn_concat])
      cases hempty
    rw [Py.rstrip, List.reverse_append, List.reverse_singleton, List.singleton_append, List.dropWhile_cons, hc]
    simp

/-- A text that is read as an IPv6 address is split at its first percent
sign. -/
theorem read_v6 {s : String} {n : Nat} {scope : Option (List Char)} (h : IpAddress.read s = some (.v6 n scope)) :
    ∃ addr, ':' ∈ addr ∧ '%' ∉ addr ∧ s.toList = addr ++ (scope.map ('%' :: ·)).getD [] := by
  have hcolon : ∀ cs : List Char, IpAddress.readV6 cs = some n → ':' ∈ cs := by
    intro cs hcs
    by_contra hnot
    rw [IpAddress.readV6, IpAddress.v6Parts, splitOn_self hnot] at hcs
    simp at hcs
  rw [IpAddress.read] at h
  split at h
  · cases h
  split at h
  · cases h
  rcases partition_cases '%' s.toList with ⟨hnot, hp⟩ | ⟨before, after, hnot, hs, hp⟩
  · rw [hp] at h
    obtain ⟨m, hm, he⟩ := Option.map_eq_some_iff.mp h
    cases he
    exact ⟨s.toList, hcolon _ hm, hnot, by simp⟩
  · rw [hp] at h
    simp only at h
    split at h
    · cases h
    · obtain ⟨m, hm, he⟩ := Option.map_eq_some_iff.mp h
      cases he
      exact ⟨before, hcolon _ hm, hnot, hs⟩

/-- Only a text with a colon is read as an IPv6 address. -/
theorem colon_mem_of_read_v6 {s : String} {n : Nat} {scope : Option (List Char)}
    (h : IpAddress.read s = some (.v6 n scope)) : ':' ∈ s.toList := by
  obtain ⟨addr, hcolon, -, hs⟩ := read_v6 h
  rw [hs]
  exact List.mem_append_left _ hcolon

theorem readV4_of_read {s : String} {n : Nat} (h : IpAddress.read s = some (.v4 n)) :
    IpAddress.readV4 s.toList = some n := by
  rw [IpAddress.read] at h
  split at h
  · cases h
  split at h
  · rename_i m hm
    cases h
    exact hm
  · rcases partition_cases '%' s.toList with ⟨-, hp⟩ | ⟨before, after, -, hs, hp⟩
    · rw [hp] at h
      obtain ⟨m, -, he⟩ := Option.map_eq_some_iff.mp h
      cases he
    · rw [hp] at h
      simp only at h
      split at h
      · cases h
      · obtain ⟨m, -, he⟩ := Option.map_eq_some_iff.mp h
        cases he

section

variable [Runtime] [Idna]

theorem hostAscii_ok {host name : List Char} (h : hostAscii host = .ok name) : IsHostName name := by
  unfold hostAscii at h
  extract_lets jp at h
  obtain ⟨text, h⟩ : ∃ text, jp text = .ok name := by
    split at h
    · exact ⟨_, h⟩
    · split at h
      · cases h
      · split at h
        · cases h
        · exact ⟨_, h⟩
  obtain ⟨hgood, h⟩ := seq_ok.mp h
  obtain rfl := Except.ok.inj h
  simp only [raiseIf_ok, Bool.or_eq_false_iff, List.any_eq_false, List.isEmpty_eq_false_iff] at hgood
  exact ⟨hgood.1, fun label hl => by simpa using hgood.2 label hl⟩

theorem hostAscii_name {name : List Char} (h : IsHostName name) : hostAscii name = .ok name := by
  have hascii : ∀ c ∈ name, c.toNat < 128 ∧ lowerAscii c = c := by
    intro c hc
    rcases h.mem hc with rfl | hl
    · decide
    · exact hl.ascii
  have hall : isAscii name = true := List.all_eq_true.mpr fun c hc => decide_eq_true (hascii c hc).1
  have hgood : (name.isEmpty || (splitOn '.' name).any badLabel) = false := by
    rw [Bool.or_eq_false_iff, List.isEmpty_eq_false_iff, List.any_eq_false]
    exact ⟨h.1, fun label hl => by simpa using h.2 label hl⟩
  simp only [hostAscii, if_pos hall, casefold_of_ascii hascii, h.rstrip, ok_bind, hgood, raiseIf, Bool.false_eq_true,
    ↓reduceIte]
  rfl

/-- A canonical host is the text of an address or a host name. -/
theorem canonicalHost_ok {host name : List Char} (h : canonicalHost host = .ok name) :
    (∃ p, IpAddress.read (String.ofList host) = some p ∧ name = p.print.toList) ∨ IsHostName name := by
  rw [canonicalHost] at h
  split at h
  · rename_i p hp
    exact .inl ⟨p, hp, (Except.ok.inj h).symm⟩
  · exact .inr (hostAscii_ok h)

theorem canonicalHost_print {s : String} {p : IpAddress} (h : IpAddress.read s = some p) :
    canonicalHost p.print.toList = .ok p.print.toList := by
  rw [canonicalHost, String.ofList_toList, IpAddress.read_print h]

theorem canonicalHost_name {name : List Char} (h : IsHostName name) : canonicalHost name = .ok name := by
  rw [canonicalHost]
  split
  · rename_i p hp
    cases p with
    | v4 n =>
      have h4 := readV4_of_read hp
      rw [String.toList_ofList] at h4
      rw [IpAddress.print, String.toList_ofList, IpAddress.joinWith_octets h4]
    | v6 n scope =>
      have hcolon := colon_mem_of_read_v6 hp
      rw [String.toList_ofList] at hcolon
      exact absurd hcolon (h.not_mem (by decide) (by decide))
  · exact hostAscii_name h

/-- A canonical host is canonicalized to itself. -/
theorem canonicalHost_canonical {host name : List Char} (h : canonicalHost host = .ok name) :
    canonicalHost name = .ok name := by
  rcases canonicalHost_ok h with ⟨p, hp, rfl⟩ | hname
  · exact canonicalHost_print hp
  · exact canonicalHost_name hname

omit [Runtime] [Idna] in
/-- The text of an address starts with a digit or a colon. -/
theorem head_print {p : IpAddress} {c : Char} {rest : List Char} (h : p.print.toList = c :: rest) :
    c = ':' ∨ IpAddress.IsDigitChar c := by
  cases p with
  | v4 n =>
    rw [IpAddress.print, String.toList_ofList] at h
    obtain ⟨d, ds, hd⟩ := List.exists_cons_of_ne_nil (@Nat.toDigits_ne_nil (n / 256 ^ 3) 10)
    have hc : d = c := by
      rw [IpAddress.octets, List.map_cons, hd] at h
      exact (List.cons.inj h).1
    exact .inr (hc ▸ IpAddress.isDigitChar_of_mem_toDigits (by decide) (by decide) (hd ▸ List.mem_cons_self))
  | v6 n scope =>
    have hmem : c ∈ IpAddress.text6 n := by
      obtain ⟨d, ds, hd⟩ := List.exists_cons_of_ne_nil (List.ne_nil_of_mem (IpAddress.colon_mem_text6 n))
      have hc : d = c := by
        cases scope with
        | none =>
          rw [show (IpAddress.print (.v6 n none)).toList = IpAddress.text6 n from String.toList_ofList, hd] at h
          exact (List.cons.inj h).1
        | some s =>
          rw [show (IpAddress.print (.v6 n (some s))).toList = IpAddress.text6 n ++ '%' :: s from String.toList_ofList,
            hd] at h
          exact (List.cons.inj h).1
      exact hc ▸ hd ▸ List.mem_cons_self
    exact IpAddress.mem_text6 hmem

omit [Runtime] [Idna] in
theorem startsWith_of_head {name : List Char} (h : ∀ c rest, name = c :: rest → c ≠ '[') : startsWith name "[" = false := by
  rcases name with _ | ⟨c, rest⟩
  · rfl
  · have hc : ('[' == c) = false := beq_eq_false_iff_ne.mpr (h c rest rfl).symm
    simp [startsWith, List.isPrefixOf, hc]

omit [Runtime] [Idna] in
/-- The text of an address does not start with a bracket. -/
theorem startsWith_print (p : IpAddress) : startsWith p.print.toList "[" = false := by
  refine startsWith_of_head ?_
  rintro c rest hname rfl
  rcases head_print hname with hc | ⟨d, hd, hc⟩
  · cases hc
  · have hall : ∀ d < 16, '[' ≠ Nat.digitChar d := by decide
    exact hall d hd hc

/-- A canonical host does not start with a bracket. -/
theorem startsWith_canonicalHost {host name : List Char} (h : canonicalHost host = .ok name) :
    startsWith name "[" = false := by
  rcases canonicalHost_ok h with ⟨p, -, rfl⟩ | hn
  · exact startsWith_print p
  · refine startsWith_of_head ?_
    rintro c rest hname rfl
    exact hn.not_mem (by decide) (by decide) (hname ▸ List.mem_cons_self)

/-- The host of a target was canonicalized. -/
theorem normalizeUrl_host {url : String} {t : NormalizedTarget} (h : normalizeUrl url = .ok t) :
    ∃ host name, canonicalHost host = .ok name ∧ t.host = String.ofList name := by
  obtain ⟨-, parsed, -, hr⟩ := normalizeUrl_ok.mp h
  obtain ⟨host, name, -, hname, ht⟩ := hr.host
  exact ⟨host, name, hname, ht⟩

end

end Pmiri
