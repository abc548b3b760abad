import Mathlib.Data.List.Perm.Basic

/-!
# Packing blocks

Elements of a list that belong to groups are packed along with the whole of
their group. The list is cut into blocks, one for each element without a group
and one for each group; the blocks are taken one after another, and each of
them is packed if it fits beside those that are packed already.
-/

namespace Packing

/-! ## Blocks -/

/-- An element that stands for itself, or a group. -/
inductive Block (α κ : Type*) where
  | single (a : α)
  | group (g : κ)
deriving DecidableEq

variable {α κ : Type*} [DecidableEq κ] (key : α → Option κ)

/-- The elements of a block. -/
def members (elements : List α) : Block α κ → List α
  | .single a => [a]
  | .group g => elements.filter fun a => key a = some g

/-- The blocks of the elements whose group is not among those that were met. -/
def blocksFrom (met : List κ) : List α → List (Block α κ)
  | [] => []
  | a :: as =>
    match key a with
    | none => .single a :: blocksFrom met as
    | some g => if g ∈ met then blocksFrom met as else .group g :: blocksFrom (met ++ [g]) as

/-- The elements whose group is not among those that were met. -/
def unmet (met : List κ) (elements : List α) : List α := elements.filter fun a => ∀ g ∈ key a, g ∉ met

variable {key}

theorem blocksFrom_none {met : List κ} {a : α} {as : List α} (h : key a = none) :
    blocksFrom key met (a :: as) = .single a :: blocksFrom key met as := by
  rw [blocksFrom, h]

theorem blocksFrom_met {met : List κ} {a : α} {g : κ} {as : List α} (h : key a = some g) (hg : g ∈ met) :
    blocksFrom key met (a :: as) = blocksFrom key met as := by
  simp only [blocksFrom, h, if_pos hg]

theorem blocksFrom_new {met : List κ} {a : α} {g : κ} {as : List α} (h : key a = some g) (hg : g ∉ met) :
    blocksFrom key met (a :: as) = .group g :: blocksFrom key (met ++ [g]) as := by
  simp only [blocksFrom, h, if_neg hg]

/-- The groups among the blocks are those of the elements that were not met. -/
theorem group_mem_blocksFrom {met : List κ} {elements : List α} {g : κ} :
    Block.group g ∈ blocksFrom key met elements ↔ g ∉ met ∧ ∃ a ∈ elements, key a = some g := by
  induction elements generalizing met with
  | nil => simp [blocksFrom]
  | cons a as ih =>
    cases ha : key a with
    | none => simp [blocksFrom_none ha, ih, ha]
    | some g' =>
      by_cases hg' : g' ∈ met
      · rw [blocksFrom_met ha hg', ih]
        have hne : g ∉ met → g' ≠ g := fun hg e => hg (e ▸ hg')
        simp only [List.mem_cons, exists_eq_or_imp, ha, Option.some.injEq]
        tauto
      · rw [blocksFrom_new ha hg', List.mem_cons, ih]
        simp only [List.mem_append, List.mem_cons, exists_eq_or_imp, ha, Option.some.injEq, Block.group.injEq]
        by_cases hgg : g = g'
        · simp [hgg, hg']
        · have hgg' : ¬ g' = g := fun e => hgg e.symm
          tauto

/-- The blocks without a group are the elements without one. -/
theorem single_mem_blocksFrom {met : List κ} {elements : List α} {a : α} :
    Block.single a ∈ blocksFrom key met elements ↔ a ∈ elements ∧ key a = none := by
  induction elements generalizing met with
  | nil => simp [blocksFrom]
  | cons b bs ih =>
    have hne : key b ≠ none → key a = none → a ≠ b := fun hb ha e => hb (e ▸ ha)
    cases hb : key b with
    | none =>
      rw [blocksFrom_none hb, List.mem_cons, ih, List.mem_cons, Block.single.injEq]
      constructor
      · rintro (rfl | h)
        · exact ⟨.inl rfl, hb⟩
        · exact ⟨.inr h.1, h.2⟩
      · rintro ⟨rfl | h, ha⟩
        · exact .inl rfl
        · exact .inr ⟨h, ha⟩
    | some g =>
      have hne := hne (by rw [hb]; exact Option.some_ne_none g)
      by_cases hg : g ∈ met
      · rw [blocksFrom_met hb hg, ih, List.mem_cons]
        tauto
      · rw [blocksFrom_new hb hg, List.mem_cons, ih, List.mem_cons]
        simp only [reduceCtorEq, false_or]
        tauto

/-- A group is one block at most. -/
theorem count_group_blocksFrom [DecidableEq α] (met : List κ) (elements : List α) (g : κ) :
    (blocksFrom key met elements).count (.group g) ≤ 1 := by
  induction elements generalizing met with
  | nil => exact Nat.zero_le _
  | cons a as ih =>
    cases ha : key a with
    | none =>
      rw [blocksFrom_none ha, List.count_cons_of_ne (by simp)]
      exact ih met
    | some g' =>
      by_cases hg' : g' ∈ met
      · rw [blocksFrom_met ha hg']
        exact ih met
      · rw [blocksFrom_new ha hg']
        by_cases hgg : g' = g
        · subst hgg
          have hnot : Block.group g' ∉ blocksFrom key (met ++ [g']) as := fun h =>
            (group_mem_blocksFrom.mp h).1 (List.mem_append_right _ List.mem_cons_self)
          have hnone := List.count_eq_zero_of_not_mem hnot
          rw [List.count_cons_self]
          omega
        · rw [List.count_cons_of_ne (by simpa using hgg)]
          exact ih _

theorem members_cons_of_not_mem {met : List κ} {a : α} {as bs : List α} (h : ∀ g ∈ key a, g ∈ met) :
    (blocksFrom key met bs).flatMap (members key (a :: as)) = (blocksFrom key met bs).flatMap (members key as) := by
  refine List.flatMap_congr fun b hb => ?_
  cases b with
  | single b => rfl
  | group g =>
    have hg := (group_mem_blocksFrom.mp hb).1
    rw [members, members, List.filter_cons_of_neg]
    simpa using fun e : key a = some g => hg (h g e)

/-- The blocks hold every element that was not met, and no other. -/
theorem flatMap_members_perm (met : List κ) (elements : List α) :
    ((blocksFrom key met elements).flatMap (members key elements)).Perm (unmet key met elements) := by
  induction elements generalizing met with
  | nil => exact .nil
  | cons a as ih =>
    cases ha : key a with
    | none =>
      have hkeep : unmet key met (a :: as) = a :: unmet key met as := List.filter_cons_of_pos (by simp [ha])
      rw [blocksFrom_none ha, List.flatMap_cons, members_cons_of_not_mem (by simp [ha]), hkeep]
      exact (ih met).cons a
    | some g =>
      by_cases hg : g ∈ met
      · have hdrop : unmet key met (a :: as) = unmet key met as := List.filter_cons_of_neg (by simp [ha, hg])
        rw [blocksFrom_met ha hg, members_cons_of_not_mem (by simp [ha, hg]), hdrop]
        exact ih met
      · have hkeep : unmet key met (a :: as) = a :: unmet key met as := List.filter_cons_of_pos (by simp [ha, hg])
        have hmembers : members key (a :: as) (.group g) = a :: as.filter fun b => key b = some g := by
          simp [members, ha]
        rw [blocksFrom_new ha hg, List.flatMap_cons, members_cons_of_not_mem (by simp [ha]), hkeep, hmembers,
          List.cons_append]
        refine List.Perm.cons a (((ih (met ++ [g])).append_left _).trans ?_)
        -- what was not met before is what is in the group now, and what is met neither before nor now
        have hsplit := List.filter_append_perm (fun b => decide (key b = some g)) (unmet key met as)
        rw [unmet, List.filter_filter, List.filter_filter] at hsplit
        refine List.Perm.trans (List.Perm.of_eq ?_) hsplit
        congr 1
        · refine List.filter_congr fun b _ => ?_
          rw [Bool.eq_iff_iff, Bool.and_eq_true, decide_eq_true_eq, decide_eq_true_eq]
          refine ⟨fun hb => ⟨hb, fun g' hg' => ?_⟩, And.left⟩
          rw [hb, Option.mem_some_iff] at hg'
          exact hg' ▸ hg
        · refine List.filter_congr fun b _ => ?_
          rw [Bool.eq_iff_iff]
          simp only [decide_eq_true_eq, Bool.and_eq_true, Bool.not_eq_true', decide_eq_false_iff_not, List.mem_append,
            List.mem_singleton, not_or]
          refine ⟨fun hb => ⟨fun e => (hb g e).2 rfl, fun g' hg' => (hb g' hg').1⟩, fun hb g' hg' => ⟨hb.2 g' hg', ?_⟩⟩
          rintro rfl
          exact hb.1 hg'

/-! ## Packing -/

variable {β : Type*} (fits : List β → β → Bool)

/-- A block is packed if it fits, and left if it does not. -/
def packStep (s : List β × List β) (b : β) : List β × List β :=
  if fits s.1 b then (s.1 ++ [b], s.2) else (s.1, s.2 ++ [b])

def packFrom (s : List β × List β) (bs : List β) : List β × List β := bs.foldl (packStep fits) s

/-- What is packed and what is left. -/
def pack (bs : List β) : List β × List β := packFrom fits ([], []) bs

variable {fits}

theorem packFrom_perm (s : List β × List β) (bs : List β) :
    ((packFrom fits s bs).1 ++ (packFrom fits s bs).2).Perm (s.1 ++ s.2 ++ bs) := by
  induction bs generalizing s with
  | nil => rw [List.append_nil]; exact .refl _
  | cons b bs ih =>
    refine (ih (packStep fits s b)).trans ?_
    rw [packStep]
    split
    · simp only [List.append_assoc]
      exact List.Perm.append_left _ (by simpa using List.perm_middle.symm)
    · simp

/-- Every block is packed or left, once. -/
theorem pack_perm (fits : List β → β → Bool) (bs : List β) : ((pack fits bs).1 ++ (pack fits bs).2).Perm bs := packFrom_perm ([], []) bs

/-- What packing a block that fits preserves holds of what is packed. -/
theorem packFrom_invariant {P : List β → Prop} (hstep : ∀ packed b, P packed → fits packed b = true → P (packed ++ [b]))
    {s : List β × List β} (hs : P s.1) (bs : List β) : P (packFrom fits s bs).1 := by
  induction bs generalizing s with
  | nil => exact hs
  | cons b bs ih =>
    refine ih ?_
    rw [packStep]
    split
    · exact hstep _ _ hs ‹_›
    · exact hs

end Packing
