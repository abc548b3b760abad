import Pmiri.Python.Replace
import Pmiri.Python.Sha256
import Pmiri.Security

/-!
# Redaction

`policy.py`: terms are replaced by a marker, one after another. A term that is
not in the text after its own replacement comes back when a marker that is put
in brings it with it, alone or together with what stands beside it.
-/

namespace Pmiri

open Py

structure RedactionResult where
  text : String
  actionResult : String
  obligations : List String
  constraintRefs : List String
  citationMapFingerprint : String

/-- `term in text` -/
def occursIn (term text : String) : Prop := term.toList <:+: text.toList

instance (term text : String) : Decidable (occursIn term text) := inferInstanceAs (Decidable (_ <:+: _))

def REDACTED : String := "[REDACTED]"

/-- The body of `for term in remove_terms`: the output, and what was removed. -/
def redactTerm (s : String × List String) (term : String) : String × List String :=
  if term ≠ "" ∧ occursIn term s.1 then
    (String.ofList (replace term.toList REDACTED.toList s.1.toList), s.2 ++ [term])
  else s

/-- The loop. -/
def redactTerms (text : String) (removeTerms : List String) : String × List String := removeTerms.foldl redactTerm (text, [])

section

variable [Runtime]

def constrainedRedact (text : String) (removeTerms requiredObligations : List String) (citations : Dict) : RedactionResult :=
  let (output, removed) := redactTerms text removeTerms
  let obligations := sortedSet requiredObligations
  let constraints := (if removed.isEmpty then [] else obligations).map fun obligation =>
    "constraint_" ++ String.ofList ((sha256Json (Dict.ofItems [
      ("obligation", .str obligation), ("removed", strList removed)]).toVal).toList.take 24)
  { text := output
    actionResult := if constraints.isEmpty then "ALLOW" else "ALLOW_WITH_CONSTRAINTS"
    obligations := obligations
    constraintRefs := constraints
    citationMapFingerprint := sha256Json (Dict.ofItems [("citations", citations.toVal), ("text", .str output)]).toVal }

/-- No term is in the text that is returned, and where one of them was in the text and there are obligations, the result
is constrained. -/
def Redacts (text : String) (removeTerms requiredObligations : List String) (citations : Dict) : Prop :=
  let result := constrainedRedact text removeTerms requiredObligations citations
  (∀ term ∈ removeTerms, term ≠ "" → ¬ occursIn term result.text) ∧
    ((∃ term ∈ removeTerms, term ≠ "" ∧ occursIn term text) → requiredObligations ≠ [] →
      result.actionResult = "ALLOW_WITH_CONSTRAINTS")

end

/-! ## Steps -/

theorem toList_ne_nil {term : String} (h : term ≠ "") : term.toList ≠ [] := fun h' => h (String.toList_eq_nil_iff.mp h')

/-- The pieces of the output around the occurrences of a term. -/
def piecesAround (output term : String) : List (List Char) := split term.toList output.toList

/-- The term's replacement leaves a text in contact with a marker that it puts in. -/
def Revives (output term text : String) : Prop := Touches REDACTED.toList (piecesAround output term) text.toList

/-- A step puts the marker between the pieces. -/
theorem redactTerm_output (s : String × List String) {term : String} (h : term ≠ "") :
    (redactTerm s term).1.toList = REDACTED.toList.intercalate (piecesAround s.1 term) := by
  rw [redactTerm]
  by_cases hin : occursIn term s.1
  · rw [if_pos ⟨h, hin⟩, String.toList_ofList, replace, piecesAround]
  · rw [if_neg (fun h' => hin h'.2), piecesAround, split_of_not_infix (toList_ne_nil h) hin, List.intercalate_singleton]

theorem redactTerm_empty (s : String × List String) : redactTerm s "" = s := if_neg fun h => h.1 rfl

/-- After a step, a term is in the output if it was in a piece, or the step revives it. -/
theorem occursIn_redactTerm {s : String × List String} {term t : String} (h : term ≠ "") :
    occursIn t (redactTerm s term).1 ↔ (∃ p ∈ piecesAround s.1 term, t.toList <:+: p) ∨ Revives s.1 term t := by
  rw [occursIn, redactTerm_output s h]
  constructor
  · exact infix_intercalate_cases (splitFrom_ne_nil _ _ _ _)
  · rintro (⟨p, hp, hin⟩ | hrevives)
    · exact hin.trans (infix_of_mem_intercalate hp)
    · exact Touches.infix hrevives

/-- A step after which no term is left: the terms before were not left before it, and it revives none. -/
theorem free_redactTerm_iff {s : String × List String} {before : List String} {term : String}
    (hfree : ∀ t ∈ before, t ≠ "" → ¬ occursIn t s.1) :
    (∀ t ∈ before ++ [term], t ≠ "" → ¬ occursIn t (redactTerm s term).1) ↔
      (term ≠ "" → ∀ t ∈ before ++ [term], t ≠ "" → ¬ Revives s.1 term t) := by
  by_cases hterm : term = ""
  · subst hterm
    rw [redactTerm_empty]
    refine ⟨fun _ h => absurd rfl h, fun _ t ht hne => ?_⟩
    rcases List.mem_append.mp ht with ht | ht
    · exact hfree t ht hne
    · exact absurd (List.mem_singleton.mp ht) hne
  · constructor
    · exact fun h _ t ht hne hrevives => h t ht hne ((occursIn_redactTerm hterm).mpr (.inr hrevives))
    · intro h t ht hne hin
      rcases (occursIn_redactTerm hterm).mp hin with ⟨p, hp, hpiece⟩ | hrevives
      · rcases List.mem_append.mp ht with ht | ht
        · exact hfree t ht hne (hpiece.trans (infix_of_mem_split (toList_ne_nil hterm) hp))
        · rw [List.mem_singleton.mp ht] at hpiece
          exact not_infix_of_mem_split (toList_ne_nil hterm) hp hpiece
      · exact h hterm t ht hne hrevives

theorem redactTerms_concat (text : String) (before : List String) (term : String) :
    redactTerms text (before ++ [term]) = redactTerm (redactTerms text before) term := by
  rw [redactTerms, List.foldl_append]
  rfl

/-- The loop over the first terms of a list leaves none of them, for as many as there are, exactly if no step revives one. -/
theorem free_redactTerms_iff (text : String) (terms : List String) :
    (∀ before, before <+: terms → ∀ t ∈ before, t ≠ "" → ¬ occursIn t (redactTerms text before).1) ↔
      ∀ before term, before ++ [term] <+: terms → term ≠ "" →
        ∀ t ∈ before ++ [term], t ≠ "" → ¬ Revives (redactTerms text before).1 term t := by
  constructor
  · intro h before term hsteps
    have hbefore := h before ((List.prefix_append before [term]).trans hsteps)
    have hafter := h (before ++ [term]) hsteps
    rw [redactTerms_concat] at hafter
    exact (free_redactTerm_iff hbefore).mp hafter
  · intro h before
    induction before using List.reverseRecOn with
    | nil => exact fun _ t ht => absurd ht List.not_mem_nil
    | append_singleton before term ih =>
      intro hsteps
      have hbefore := ih ((List.prefix_append before [term]).trans hsteps)
      rw [redactTerms_concat]
      exact (free_redactTerm_iff hbefore).mpr (h before term hsteps)

/-! ## Constraints -/

theorem removed_redactTerm (s : String × List String) (term : String) : s.2 <+: (redactTerm s term).2 := by
  rw [redactTerm]
  split
  · exact List.prefix_append _ _
  · exact List.prefix_refl _

theorem removed_foldl (s : String × List String) (terms : List String) : s.2 <+: (terms.foldl redactTerm s).2 := by
  induction terms generalizing s with
  | nil => exact List.prefix_refl _
  | cons term terms ih => exact (removed_redactTerm s term).trans (ih _)

/-- The first term that is in the text is removed. -/
theorem removed_ne_nil {text : String} {terms : List String} (h : ∃ term ∈ terms, term ≠ "" ∧ occursIn term text)
    {removed : List String} : (terms.foldl redactTerm (text, removed)).2 ≠ [] := by
  induction terms with
  | nil => exact absurd h (by simp)
  | cons term terms ih =>
    rw [List.foldl_cons]
    by_cases hfirst : term ≠ "" ∧ occursIn term text
    · have hremoved := removed_foldl (redactTerm (text, removed) term) terms
      rw [redactTerm, if_pos hfirst] at hremoved ⊢
      intro hnil
      rw [hnil] at hremoved
      exact absurd (List.prefix_nil.mp hremoved) (by simp)
    · rw [redactTerm, if_neg hfirst]
      obtain ⟨t, ht, hoccurs⟩ := h
      rcases List.mem_cons.mp ht with rfl | ht
      · exact absurd hoccurs hfirst
      · exact ih ⟨t, ht, hoccurs⟩

theorem actionResult_of_removed [Runtime] {text : String} {terms obligations : List String} (citations : Dict)
    (hremoved : (redactTerms text terms).2 ≠ []) (hobligations : obligations ≠ []) :
    (constrainedRedact text terms obligations citations).actionResult = "ALLOW_WITH_CONSTRAINTS" := by
  have hsorted : sortedSet obligations ≠ [] := by
    obtain ⟨o, ho⟩ := List.exists_mem_of_ne_nil obligations hobligations
    exact List.ne_nil_of_mem (mem_sortedSet.mpr ho)
  simp only [constrainedRedact, List.isEmpty_iff, if_neg hremoved, List.map_eq_nil_iff, if_neg hsorted]

/-- Redacting the first terms of a list removes them all, for as many as there are, exactly if no marker that is put in
brings one of them back. -/
theorem redacts_iff [Runtime] (text : String) (terms obligations : List String) (citations : Dict) :
    (∀ before, before <+: terms → Redacts text before obligations citations) ↔
      ∀ before term, before ++ [term] <+: terms → term ≠ "" →
        ∀ t ∈ before ++ [term], t ≠ "" → ¬ Revives (redactTerms text before).1 term t := by
  rw [← free_redactTerms_iff]
  constructor
  · exact fun h before hbefore => (h before hbefore).1
  · intro h before hbefore
    exact ⟨h before hbefore, fun hin => actionResult_of_removed citations (removed_ne_nil hin)⟩

/-- The marker that takes the place of the first term holds the second one, and its marker again. -/
theorem redaction_revives :
    letI := asciiRuntime
    ¬ Redacts "a secret" ["secret", "RED"] [] .empty := by
  let := asciiRuntime
  intro h
  refine h.1 "RED" (by decide) (by decide) ?_
  show occursIn "RED" (redactTerms "a secret" ["secret", "RED"]).1
  decide

end Pmiri
