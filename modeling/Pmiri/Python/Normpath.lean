import Pmiri.Python.Tree
import Pmiri.Walks

/-!
# Normalized paths

`posixpath.normpath`, and what it has to do with the directories a path leads
through: the components of a path are the steps of a walk.
-/

namespace Py

open Walks

/-! ## Components -/

/-- What a component of a path does. -/
def stepOf (comp : List Char) : Step String :=
  if comp.isEmpty || comp == ['.'] then .stay else if comp == ['.', '.'] then .up else .down (String.ofList comp)

theorem validName_ofList {comp : List Char} :
    validName (String.ofList comp) = true ↔ comp ≠ [] ∧ comp ≠ ['.'] ∧ comp ≠ ['.', '.'] ∧ '/' ∉ comp := by
  rw [validName_iff]
  simp only [ne_eq, ← String.toList_inj, String.toList_ofList]
  exact Iff.rfl

theorem stepOf_cases (comp : List Char) :
    (stepOf comp = .stay ∧ (comp = [] ∨ comp = ['.'])) ∨ (stepOf comp = .up ∧ comp = ['.', '.']) ∨
      (stepOf comp = .down (String.ofList comp) ∧ comp ≠ [] ∧ comp ≠ ['.'] ∧ comp ≠ ['.', '.']) := by
  unfold stepOf
  by_cases hstay : comp = [] ∨ comp = ['.']
  · exact .inl ⟨if_pos (by simpa using hstay), hstay⟩
  · rw [if_neg (by simpa using hstay)]
    push Not at hstay
    by_cases hup : comp = ['.', '.']
    · exact .inr (.inl ⟨if_pos (by simpa using hup), hup⟩)
    · exact .inr (.inr ⟨if_neg (by simpa using hup), hstay.1, hstay.2, hup⟩)

theorem stepOf_toList {name : String} (hname : validName name = true) : stepOf name.toList = .down name := by
  have h := validName_ofList.mp ((congrArg validName String.ofList_toList).trans hname)
  rcases stepOf_cases name.toList with ⟨-, hcomp⟩ | ⟨-, hcomp⟩ | ⟨hstep, -⟩
  · exact hcomp.elim (fun e => absurd e h.1) (fun e => absurd e h.2.1)
  · exact absurd hcomp h.2.2.1
  · rw [hstep, String.ofList_toList]

theorem stepOf_down {comp : List Char} {name : String} (h : stepOf comp = .down name) (hslash : '/' ∉ comp) :
    name.toList = comp ∧ validName name = true := by
  rcases stepOf_cases comp with ⟨hstep, -⟩ | ⟨hstep, -⟩ | ⟨hstep, hempty, hdot, hdots⟩
  · rw [hstep] at h
    cases h
  · rw [hstep] at h
    cases h
  · rw [hstep] at h
    obtain rfl := Step.down.inj h
    exact ⟨String.toList_ofList, validName_ofList.mpr ⟨hempty, hdot, hdots, hslash⟩⟩

theorem mem_of_mem_splitOn {sep c : Char} {cs part : List Char} (hpart : part ∈ splitOn sep cs) (hc : c ∈ part) : c ∈ cs := by
  rw [← joinWith_splitOn sep cs]
  generalize splitOn sep cs = parts at hpart
  induction parts with
  | nil => cases hpart
  | cons first parts ih =>
    rcases parts with _ | ⟨second, parts⟩
    · obtain rfl := List.mem_singleton.mp hpart
      exact hc
    · rw [joinWith, List.mem_append, List.mem_cons]
      · rcases List.mem_cons.mp hpart with rfl | hpart
        · exact .inl hc
        · exact .inr (.inr (ih hpart))
      · simp

/-- The components of a path below a directory are its names. -/
theorem RelPath.splitOn_asPosix (p : RelPath) : splitOn '/' p.asPosix.toList = p.names.map String.toList := by
  rw [RelPath.asPosix, String.toList_ofList]
  refine splitOn_joinWith (fun e => p.nonempty (List.map_eq_nil_iff.mp e)) fun part hpart => ?_
  obtain ⟨name, hname, rfl⟩ := List.mem_map.mp hpart
  exact (p.valid_of_mem hname).2.2.2

/-! ## `posixpath.normpath` -/

/-- The loop over the components. -/
def normComp (rooted : Bool) (comps : List (List Char)) (comp : List Char) : List (List Char) :=
  if comp.isEmpty || comp == ['.'] then comps
  else if comp != ['.', '.'] || (!rooted && comps.isEmpty) || comps.getLast? == some ['.', '.'] then comps ++ [comp]
  else comps.dropLast

/-- `posixpath.normpath` -/
def normpath (path : List Char) : List Char :=
  if path.isEmpty then ['.']
  else
    let (root, rest) := PurePath.posixSplitroot path
    let collapsed := root ++ joinWith '/' ((splitOn '/' rest).foldl (normComp !root.isEmpty) [])
    if collapsed.isEmpty then ['.'] else collapsed

/-- The components of a place. -/
def placeComps (place : Place String) : List (List Char) :=
  List.replicate place.above ['.', '.'] ++ place.below.map String.toList

/-- One round of the loop is one step of the walk. -/
theorem normComp_placeComps {place : Place String} (h : place.below.all validName = true) {comp : List Char} (hslash : '/' ∉ comp) :
    normComp false (placeComps place) comp = placeComps (move place (stepOf comp)) ∧
      (move place (stepOf comp)).below.all validName = true := by
  obtain ⟨n, names⟩ := place
  rcases stepOf_cases comp with ⟨hstep, hcomp⟩ | ⟨hstep, rfl⟩ | ⟨hstep, hcomp⟩
  · rw [hstep, normComp, if_pos (by simpa using hcomp)]
    exact ⟨rfl, h⟩
  · rw [hstep, normComp, if_neg (by decide)]
    rcases List.eq_nil_or_concat names with rfl | ⟨names, name, rfl⟩
    · -- nothing to undo: the component is kept, also behind others like it
      have hkept : (!false && (placeComps ⟨n, []⟩).isEmpty || (placeComps ⟨n, []⟩).getLast? == some ['.', '.']) = true := by
        cases n with
        | zero => rfl
        | succ n => simp [placeComps, List.getLast?_replicate]
      rw [Bool.or_assoc, hkept, Bool.or_true, if_pos rfl, move_up_of_above]
      refine ⟨?_, rfl⟩
      rw [placeComps, placeComps, List.map_nil, List.append_nil, List.append_nil, List.replicate_succ']
    · rw [List.concat_eq_append] at h ⊢
      rw [List.all_append, Bool.and_eq_true] at h
      have hname := (validName_iff.mp (List.all_eq_true.mp h.2 name (List.mem_singleton_self name))).2.2.1
      have hlast : placeComps ⟨n, names ++ [name]⟩ = placeComps ⟨n, names⟩ ++ [name.toList] := by
        rw [placeComps, placeComps, List.map_append, List.map_singleton, List.append_assoc]
      rw [hlast, List.getLast?_concat, move_up_concat, List.dropLast_concat, if_neg]
      · exact ⟨rfl, h.1⟩
      · simp only [bne_self_eq_false, Bool.not_false, Bool.true_and, Bool.false_or, Bool.or_eq_true, List.isEmpty_iff,
          List.append_eq_nil_iff, List.cons_ne_nil, and_false, false_or, beq_iff_eq, Option.some.injEq]
        exact fun e => hname (String.toList_inj.mp e)
  · have hname : validName (String.ofList comp) = true := validName_ofList.mpr ⟨hcomp.1, hcomp.2.1, hcomp.2.2, hslash⟩
    have hskip : ¬ (comp.isEmpty || comp == ['.']) = true := by simp [hcomp.1, hcomp.2.1]
    have hkept : (comp != ['.', '.']) = true := by simp [hcomp.2.2]
    rw [hstep, normComp, if_neg hskip, hkept, Bool.true_or, Bool.true_or, if_pos rfl]
    refine ⟨?_, ?_⟩
    · rw [placeComps, move_down, placeComps, List.map_append, List.map_singleton, String.toList_ofList, List.append_assoc]
    · rw [move_down, List.all_append, h, List.all_cons, hname]
      rfl

/-- What the loop makes of a path that does not start at the root. -/
theorem foldl_normComp {comps : List (List Char)} (h : ∀ comp ∈ comps, '/' ∉ comp) :
    comps.foldl (normComp false) [] = placeComps (walk (comps.map stepOf)) ∧
      (walk (comps.map stepOf)).below.all validName = true := by
  induction comps using List.reverseRecOn with
  | nil => exact ⟨rfl, rfl⟩
  | append_singleton comps comp ih =>
    obtain ⟨hfold, hvalid⟩ := ih fun comp' h' => h comp' (List.mem_append_left _ h')
    have hslash := h comp (List.mem_append_right _ (List.mem_singleton_self comp))
    rw [List.foldl_concat, hfold, List.map_append, List.map_singleton, walk_concat]
    exact normComp_placeComps hvalid hslash

theorem placeComps_eq_nil {place : Place String} : placeComps place = [] ↔ place = {} := by
  obtain ⟨n, names⟩ := place
  simp [placeComps, List.replicate_eq_nil_iff]

theorem joinWith_ne_nil {part : List Char} (h : part ≠ []) (parts : List (List Char)) : joinWith '/' (part :: parts) ≠ [] := by
  obtain ⟨c, cs, rfl⟩ := List.exists_cons_of_ne_nil h
  obtain ⟨rest, hrest⟩ : ∃ rest, joinWith '/' ((c :: cs) :: parts) = c :: rest := RelPath.joinWith_cons_ne rfl
  rw [hrest]
  exact List.cons_ne_nil c rest

/-- The walk that the components of a path are, where `/` alone separates them. -/
def slashSteps (path : List Char) : List (Step String) := (splitOn '/' path).map stepOf

section

variable {path : List Char}

theorem posixSplitroot_of_head (h : path.head? ≠ some '/') : PurePath.posixSplitroot path = ([], path) := by
  cases path with
  | nil => rfl
  | cons c cs => exact posixSplitroot_of_ne fun e => h (congrArg some e)

theorem slashSteps_valid (path : List Char) : (walk (slashSteps path)).below.all validName = true :=
  (foldl_normComp fun _ h => not_mem_of_mem_splitOn h).2

/-- A relative path is normalized to the components of the place it leads to. -/
theorem normpath_eq (h : path.head? ≠ some '/') :
    normpath path = if walk (slashSteps path) = {} then ['.'] else joinWith '/' (placeComps (walk (slashSteps path))) := by
  have hvalid := slashSteps_valid path
  have hfold : (splitOn '/' path).foldl (normComp false) [] = placeComps (walk (slashSteps path)) :=
    (foldl_normComp fun _ h => not_mem_of_mem_splitOn h).1
  unfold normpath
  by_cases hempty : path = []
  · subst hempty
    rfl
  · rw [if_neg (by simpa using hempty), posixSplitroot_of_head h]
    simp only [List.isEmpty_nil, Bool.not_true, List.nil_append, hfold]
    generalize walk (slashSteps path) = place at hvalid
    by_cases hplace : place = {}
    · rw [if_pos hplace, hplace]
      rfl
    · rw [if_neg hplace, if_neg]
      rw [List.isEmpty_iff]
      obtain ⟨part, parts, hparts⟩ := List.exists_cons_of_ne_nil fun e => hplace (placeComps_eq_nil.mp e)
      rw [hparts]
      refine joinWith_ne_nil ?_ parts
      have hpart : part ∈ placeComps place := hparts ▸ List.mem_cons_self
      rcases List.mem_append.mp hpart with hpart | hpart
      · rw [List.eq_of_mem_replicate hpart]
        exact List.cons_ne_nil _ _
      · obtain ⟨name, hname, rfl⟩ := List.mem_map.mp hpart
        exact fun e => (validName_iff.mp (List.all_eq_true.mp hvalid name hname)).1 (String.toList_inj.mp e)

theorem slashSteps_asPosix (p : RelPath) : slashSteps p.asPosix.toList = p.names.map .down := by
  rw [slashSteps, p.splitOn_asPosix, List.map_map]
  exact List.map_congr_left fun name hname => stepOf_toList (List.all_eq_true.mp p.valid name hname)

/-! ## Below a directory -/

theorem followName_ofList {comp : List Char} (h : '/' ∉ comp) (names : List String) :
    followName names (String.ofList comp) = follow names (stepOf comp) := by
  rcases stepOf_cases comp with ⟨hstep, rfl | rfl⟩ | ⟨hstep, rfl⟩ | ⟨hstep, hcomp⟩
  · rw [hstep]
    rfl
  · rw [hstep]
    rfl
  · rw [hstep]
    rfl
  · have hname : validName (String.ofList comp) = true := validName_ofList.mpr ⟨hcomp.1, hcomp.2.1, hcomp.2.2, h⟩
    rw [hstep, followName, if_neg (validName_iff.mp hname).2.2.1, if_pos hname, follow]

theorem foldl_followName_segments (names : List String) :
    ((PurePath.segments '/' path).map String.ofList).foldl followName names = (walk (slashSteps path)).namesFrom names := by
  rw [← foldl_follow, slashSteps, PurePath.segments]
  have hslash : ∀ comp ∈ splitOn '/' path, '/' ∉ comp := fun _ h => not_mem_of_mem_splitOn h
  generalize splitOn '/' path = comps at hslash
  induction comps generalizing names with
  | nil => rfl
  | cons comp comps ih =>
    rw [List.forall_mem_cons] at hslash
    rw [List.map_cons, List.foldl_cons, ← ih _ hslash.2, ← followName_ofList hslash.1]
    by_cases hcomp : comp = [] ∨ comp = ['.']
    · -- a component that stays is dropped before it is followed
      have hstay : followName names (String.ofList comp) = names := by rcases hcomp with rfl | rfl <;> rfl
      have hdrop : ¬ (!comp.isEmpty && comp != ['.']) = true := by rcases hcomp with rfl | rfl <;> decide
      rw [List.filter_cons, if_neg hdrop, hstay]
    · have hkeep : (!comp.isEmpty && comp != ['.']) = true := by simpa [not_or] using hcomp
      rw [List.filter_cons, if_pos hkeep, List.map_cons, List.foldl_cons]

/-- Where a relative path leads from a directory, as far as its text tells. -/
theorem plainResolve_joinPath {text : String} (h : text.toList.head? ≠ some '/') (base : List String) :
    plainResolve (joinPath base text) = "/" :: (walk (slashSteps text.toList)).namesFrom (base.foldl followName []) := by
  rw [plainResolve, joinPath]
  simp only [PurePath.ofText, posixSplitroot_of_head h, List.isEmpty_nil, if_true, List.foldl_append, foldl_followName_segments]

end

end Py
