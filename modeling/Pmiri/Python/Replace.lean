import Mathlib.Data.List.Infix

/-!
# Replacement

`str.replace` and the splitting that it goes by: from the left, at occurrences
that do not overlap. What occurs in a text with replacements either was there
before or is in contact with what was put in.
-/

namespace Py

/-- `s.split(sep)` for a separator that is not empty. `piece` is what was read since the last one, and the first `skip`
characters are the rest of one. -/
def splitFrom (sep : List Char) : (skip : Nat) → (piece : List Char) → List Char → List (List Char)
  | _, piece, [] => [piece]
  | skip + 1, piece, _ :: cs => splitFrom sep skip piece cs
  | 0, piece, c :: cs =>
    if sep.isPrefixOf (c :: cs) then piece :: splitFrom sep (sep.length - 1) [] cs
    else splitFrom sep 0 (piece ++ [c]) cs

def split (sep cs : List Char) : List (List Char) := splitFrom sep 0 [] cs

/-- `s.replace(old, new)` -/
def replace (old new cs : List Char) : List Char := new.intercalate (split old cs)

theorem splitFrom_skip (sep : List Char) (n : Nat) (piece cs : List Char) :
    splitFrom sep n piece cs = splitFrom sep 0 piece (cs.drop n) := by
  induction n generalizing cs with
  | zero => rw [List.drop_zero]
  | succ n ih =>
    cases cs with
    | nil => rfl
    | cons c cs => rw [splitFrom, ih, List.drop_succ_cons]

theorem splitFrom_ne_nil (sep : List Char) (n : Nat) (piece cs : List Char) : splitFrom sep n piece cs ≠ [] := by
  induction cs generalizing n piece with
  | nil => simp [splitFrom]
  | cons c cs ih =>
    cases n with
    | zero =>
      rw [splitFrom]
      split
      · exact List.cons_ne_nil _ _
      · exact ih 0 _
    | succ n => exact ih n piece

theorem splitFrom_found {sep : List Char} (hsep : sep ≠ []) (piece rest : List Char) :
    splitFrom sep 0 piece (sep ++ rest) = piece :: splitFrom sep 0 [] rest := by
  obtain ⟨c, cs, rfl⟩ := List.exists_cons_of_ne_nil hsep
  have hfound : (c :: cs).isPrefixOf (c :: (cs ++ rest)) = true := List.isPrefixOf_iff_prefix.mpr ⟨rest, rfl⟩
  rw [List.cons_append, splitFrom, if_pos hfound, splitFrom_skip]
  simp

theorem splitFrom_passed {sep : List Char} {piece : List Char} {c : Char} {cs : List Char} (h : ¬ sep <+: c :: cs) :
    splitFrom sep 0 piece (c :: cs) = splitFrom sep 0 (piece ++ [c]) cs := by
  rw [splitFrom, if_neg (by rwa [List.isPrefixOf_iff_prefix])]

/-- A scan of a text for a separator: at its end, where a separator was found, or a character further. -/
theorem scan_induction {sep : List Char} (hsep : sep ≠ []) {P : List Char → List Char → Prop}
    (nil : ∀ piece, P piece []) (found : ∀ piece rest, P [] rest → P piece (sep ++ rest))
    (passed : ∀ piece c cs, ¬ sep <+: c :: cs → P (piece ++ [c]) cs → P piece (c :: cs)) (piece cs : List Char) : P piece cs := by
  induction hn : cs.length using Nat.strongRecOn generalizing piece cs with
  | ind n ih =>
    cases cs with
    | nil => exact nil piece
    | cons c cs =>
      by_cases hfound : sep <+: c :: cs
      · obtain ⟨rest, hrest⟩ := hfound
        have hlength := congrArg List.length hrest
        have hpos := List.length_pos_iff.mpr hsep
        rw [List.length_append] at hlength
        rw [← hrest]
        exact found piece rest (ih rest.length (by omega) [] rest rfl)
      · exact passed piece c cs hfound (ih cs.length (by rw [← hn, List.length_cons]; omega) _ cs rfl)

/-- The pieces joined by the separator are the text. -/
theorem intercalate_splitFrom {sep : List Char} (hsep : sep ≠ []) (piece cs : List Char) :
    sep.intercalate (splitFrom sep 0 piece cs) = piece ++ cs := by
  induction piece, cs using scan_induction hsep with
  | nil piece => rw [splitFrom, List.intercalate_singleton, List.append_nil]
  | found piece rest ih =>
    rw [splitFrom_found hsep, List.intercalate_cons_of_ne_nil (splitFrom_ne_nil sep 0 [] rest), ih, List.nil_append,
      List.append_assoc]
  | passed piece c cs h ih => rw [splitFrom_passed h, ih, List.append_assoc, List.singleton_append]

theorem intercalate_split {sep : List Char} (hsep : sep ≠ []) (cs : List Char) : sep.intercalate (split sep cs) = cs :=
  intercalate_splitFrom hsep [] cs

/-- No piece has the separator in it, if none starts in the piece that is being read. -/
theorem not_infix_of_mem_splitFrom {sep : List Char} (hsep : sep ≠ []) (piece cs : List Char)
    (h : ∀ before after, piece = before ++ after → after ≠ [] → ¬ sep <+: after ++ cs) :
    ∀ p ∈ splitFrom sep 0 piece cs, ¬ sep <:+: p := by
  -- the separator in a piece would start at one of its characters
  have hpiece {piece cs : List Char} (h : ∀ before after, piece = before ++ after → after ≠ [] → ¬ sep <+: after ++ cs) :
      ¬ sep <:+: piece := by
    rintro ⟨before, after, rfl⟩
    refine h before (sep ++ after) (List.append_assoc _ _ _) (by simp [hsep]) ?_
    exact ⟨after ++ cs, (List.append_assoc _ _ _).symm⟩
  induction piece, cs using scan_induction hsep with
  | nil piece =>
    intro p hp
    obtain rfl := List.mem_singleton.mp hp
    exact hpiece h
  | found piece rest ih =>
    intro p hp
    rw [splitFrom_found hsep] at hp
    rcases List.mem_cons.mp hp with rfl | hp
    · exact hpiece h
    · exact ih (fun before after heq hne => absurd (List.append_eq_nil_iff.mp heq.symm).2 hne) p hp
  | passed piece c cs hc ih =>
    rw [splitFrom_passed hc]
    refine ih fun before after heq hne => ?_
    obtain ⟨after', hafter⟩ : ∃ after', after = after' ++ [c] := by
      have hlast := congrArg List.getLast? heq
      rw [List.getLast?_concat, List.getLast?_append_of_ne_nil _ hne] at hlast
      exact ⟨_, (List.dropLast_append_getLast? c hlast.symm).symm⟩
    rw [hafter, ← List.append_assoc] at heq
    have hsplit := List.append_inj_left' heq rfl
    rw [hafter, List.append_assoc, List.singleton_append]
    by_cases hempty : after' = []
    · rw [hempty]
      exact hc
    · exact h before after' hsplit hempty

theorem not_infix_of_mem_split {sep : List Char} (hsep : sep ≠ []) {cs p : List Char} (hp : p ∈ split sep cs) :
    ¬ sep <:+: p :=
  not_infix_of_mem_splitFrom hsep [] cs
    (fun _ _ heq hne => absurd (List.append_eq_nil_iff.mp heq.symm).2 hne) p hp

theorem infix_of_mem_intercalate {sep : List Char} {pieces : List (List Char)} {p : List Char} (hp : p ∈ pieces) :
    p <:+: sep.intercalate pieces := by
  induction pieces with
  | nil => exact absurd hp List.not_mem_nil
  | cons q qs ih =>
    by_cases hqs : qs = []
    · rw [hqs, List.mem_singleton] at hp
      rw [hqs, hp, List.intercalate_singleton]
    · rw [List.intercalate_cons_of_ne_nil hqs]
      rcases List.mem_cons.mp hp with rfl | hp
      · exact ⟨[], sep ++ sep.intercalate qs, by simp⟩
      · exact (ih hp).trans ⟨q ++ sep, [], by simp⟩

theorem infix_of_mem_split {sep : List Char} (hsep : sep ≠ []) {cs p : List Char} (hp : p ∈ split sep cs) : p <:+: cs := by
  have h : p <:+: sep.intercalate (split sep cs) := infix_of_mem_intercalate hp
  rwa [intercalate_split hsep] at h

/-- Without an occurrence, the text is its only piece. -/
theorem split_of_not_infix {sep cs : List Char} (hsep : sep ≠ []) (h : ¬ sep <:+: cs) : split sep cs = [cs] := by
  have hjoin := intercalate_split hsep cs
  cases hpieces : split sep cs with
  | nil => exact absurd hpieces (splitFrom_ne_nil sep 0 [] cs)
  | cons p ps =>
    cases ps with
    | nil =>
      rw [hpieces, List.intercalate_singleton] at hjoin
      rw [hjoin]
    | cons q qs =>
      rw [hpieces, List.intercalate_cons_cons] at hjoin
      exact absurd ⟨p, sep.intercalate (q :: qs), by rw [← hjoin]⟩ h

/-- A text occurs in the joined pieces in contact with one of the separators. -/
def Touches (sep : List Char) (pieces : List (List Char)) (t : List Char) : Prop :=
  ∃ left right : List (List Char), left ≠ [] ∧ right ≠ [] ∧ pieces = left ++ right ∧
    ∃ before after, sep.intercalate left ++ sep ++ sep.intercalate right = before ++ t ++ after ∧
      before.length < (sep.intercalate left ++ sep).length ∧ (sep.intercalate left).length < (before ++ t).length

theorem intercalate_append {sep : List Char} {left right : List (List Char)} (hl : left ≠ []) (hr : right ≠ []) :
    sep.intercalate (left ++ right) = sep.intercalate left ++ sep ++ sep.intercalate right := by
  induction left with
  | nil => exact absurd rfl hl
  | cons p ps ih =>
    by_cases hps : ps = []
    · rw [hps, List.singleton_append, List.intercalate_cons_of_ne_nil hr, List.intercalate_singleton]
    · rw [List.cons_append, List.intercalate_cons_of_ne_nil (by simp [hps]), ih hps, List.intercalate_cons_of_ne_nil hps]
      simp only [List.append_assoc]

theorem Touches.infix {sep : List Char} {pieces : List (List Char)} {t : List Char} (h : Touches sep pieces t) :
    t <:+: sep.intercalate pieces := by
  obtain ⟨left, right, hl, hr, rfl, before, after, heq, -, -⟩ := h
  rw [intercalate_append hl hr, heq]
  exact ⟨before, after, rfl⟩

/-- What occurs in joined pieces is in one of them or in contact with a separator. -/
theorem infix_intercalate_cases {sep : List Char} {pieces : List (List Char)} (hne : pieces ≠ []) {t : List Char}
    (h : t <:+: sep.intercalate pieces) : (∃ p ∈ pieces, t <:+: p) ∨ Touches sep pieces t := by
  induction pieces with
  | nil => exact absurd rfl hne
  | cons p ps ih =>
    by_cases hps : ps = []
    · rw [hps, List.intercalate_singleton] at h
      exact .inl ⟨p, List.mem_cons_self, h⟩
    · obtain ⟨before, after, heq⟩ := h
      rw [List.intercalate_cons_of_ne_nil hps] at heq
      by_cases hin : (before ++ t).length ≤ p.length
      · -- within the first piece
        obtain ⟨rest, hrest⟩ := List.prefix_of_prefix_length_le ⟨after, heq⟩ ⟨sep ++ sep.intercalate ps, by simp⟩ hin
        exact .inl ⟨p, List.mem_cons_self, before, rest, hrest⟩
      · by_cases hafter : (p ++ sep).length ≤ before.length
        · -- after the first separator
          obtain ⟨rest, rfl⟩ := List.prefix_of_prefix_length_le ⟨sep.intercalate ps, rfl⟩
            (show before <+: _ from ⟨t ++ after, by rw [← heq, List.append_assoc]⟩) hafter
          have htail : rest ++ t ++ after = sep.intercalate ps := by
            simp only [List.append_assoc] at heq
            simpa only [List.append_assoc] using List.append_cancel_left (List.append_cancel_left heq)
          rcases ih hps ⟨rest, after, htail⟩ with ⟨q, hq, hin⟩ | ⟨left, right, hl, hr, rfl, before, after', heq', hb, ha⟩
          · exact .inl ⟨q, List.mem_cons_of_mem p hq, hin⟩
          · refine .inr ⟨p :: left, right, List.cons_ne_nil p left, hr, rfl, p ++ sep ++ before, after', ?_, ?_, ?_⟩
            · rw [List.intercalate_cons_of_ne_nil hl]
              simp only [List.append_assoc] at heq' ⊢
              rw [heq']
            · rw [List.intercalate_cons_of_ne_nil hl]
              simp only [List.length_append] at hb ⊢
              omega
            · rw [List.intercalate_cons_of_ne_nil hl]
              simp only [List.length_append] at ha ⊢
              omega
        · refine .inr ⟨[p], ps, List.cons_ne_nil p [], hps, rfl, before, after, ?_, ?_, ?_⟩
          · rw [List.intercalate_singleton, heq]
          · rw [List.intercalate_singleton]
            omega
          · rw [List.intercalate_singleton]
            omega

end Py
