import Mathlib.Data.List.Basic

/-!
# Resolving dot segments

A path is a list of segments, two of which have a meaning of their own: `dot`
stands for the place it is at, `up` for the place above it. `resolve` keeps
the segments passed so far on a stack, which `up` pops, and which at the top
stays as it is. A path that ends in one of the two ends in the segment
`empty`. All other segments are kept, also where they are empty.
-/

namespace Segments

variable {α : Type} [DecidableEq α] (dot up empty : α)

/-- The segments of a path, after those in `stack`, without its dot segments. -/
def resolve (stack : List α) : List α → List α
  | [] => stack
  | [s] => if s = dot then stack ++ [empty] else if s = up then stack.dropLast ++ [empty] else stack ++ [s]
  | s :: t :: rest =>
    if s = dot then resolve stack (t :: rest)
    else if s = up then resolve stack.dropLast (t :: rest)
    else resolve (stack ++ [s]) (t :: rest)

variable {dot up empty} {stack segs : List α}

/-- No segment of the list is `dot` or `up`. -/
def Plain (dot up : α) (segs : List α) : Prop := ∀ s ∈ segs, s ≠ dot ∧ s ≠ up

omit [DecidableEq α] in
theorem Plain.dropLast (h : Plain dot up segs) : Plain dot up segs.dropLast := fun s hs =>
  h s (List.dropLast_subset _ hs)

omit [DecidableEq α] in
theorem Plain.concat {s : α} (h : Plain dot up segs) (hs : s ≠ dot ∧ s ≠ up) : Plain dot up (segs ++ [s]) := by
  intro t ht
  rcases List.mem_append.mp ht with ht | ht
  · exact h t ht
  · exact List.mem_singleton.mp ht ▸ hs

/-- Without dot segments there is nothing to resolve, and the empty segments stay. -/
theorem resolve_of_plain (h : Plain dot up segs) : resolve dot up empty stack segs = stack ++ segs := by
  induction segs generalizing stack with
  | nil => rw [resolve, List.append_nil]
  | cons s segs ih =>
    obtain ⟨hs, hrest⟩ := List.forall_mem_cons.mp h
    cases segs with
    | nil => rw [resolve, if_neg hs.1, if_neg hs.2]
    | cons t rest =>
      rw [resolve, if_neg hs.1, if_neg hs.2, ih hrest, List.append_assoc, List.singleton_append]

/-- A path does not become empty. -/
theorem resolve_ne_nil (h : segs ≠ []) : resolve dot up empty stack segs ≠ [] := by
  induction stack, segs using resolve.induct dot up with
  | case1 => exact absurd rfl h
  | case2 => simp [resolve]
  | case3 stack hdot => simp [resolve, hdot]
  | case4 stack s hdot hup => simp [resolve, hdot, hup]
  | case5 stack t rest ih =>
    rw [resolve, if_pos rfl]
    exact ih (List.cons_ne_nil _ _)
  | case6 stack t rest hdot ih =>
    rw [resolve, if_neg hdot, if_pos rfl]
    exact ih (List.cons_ne_nil _ _)
  | case7 stack s t rest hdot hup ih =>
    rw [resolve, if_neg hdot, if_neg hup]
    exact ih (List.cons_ne_nil _ _)

end Segments
