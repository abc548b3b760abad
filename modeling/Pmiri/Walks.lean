import Mathlib.Data.List.Infix

/-!
# Walks

A step stays where it is, goes up, or goes down to a name. A walk ends in a
place: so many levels above the one where it began, and then down to these
names. A step up undoes the last step down that is not undone yet, and climbs
where there is none.
-/

namespace Walks

inductive Step (α : Type) where
  | stay
  | up
  | down (name : α)
deriving DecidableEq

structure Place (α : Type) where
  above : Nat := 0
  below : List α := []
deriving DecidableEq

variable {α : Type}

def move (place : Place α) : Step α → Place α
  | .stay => place
  | .up => if place.below.isEmpty then ⟨place.above + 1, []⟩ else ⟨place.above, place.below.dropLast⟩
  | .down name => ⟨place.above, place.below ++ [name]⟩

/-- Where the steps lead from a place. -/
def walkFrom (place : Place α) (steps : List (Step α)) : Place α := steps.foldl move place

/-- Where the steps lead. -/
def walk (steps : List (Step α)) : Place α := walkFrom {} steps

/-- Steps that all undo one another. -/
inductive LeadsBack : List (Step α) → Prop
  | nil : LeadsBack []
  | stay {rest : List (Step α)} (hrest : LeadsBack rest) : LeadsBack (.stay :: rest)
  | excursion (name : α) {inner rest : List (Step α)} (hinner : LeadsBack inner) (hrest : LeadsBack rest) :
      LeadsBack (.down name :: inner ++ .up :: rest)

/-- Steps that lead down to these names. -/
inductive Descends : List (Step α) → List α → Prop
  | back {steps : List (Step α)} (h : LeadsBack steps) : Descends steps []
  | down {before after : List (Step α)} {names : List α} (hbefore : LeadsBack before) (name : α) (hafter : Descends after names) :
      Descends (before ++ .down name :: after) (name :: names)

/-- Steps of which one goes above where they began. -/
def Climbs (steps : List (Step α)) : Prop := ∃ before after, steps = before ++ .up :: after ∧ LeadsBack before

variable {place : Place α} {steps : List (Step α)} {names : List α}

theorem walkFrom_append (place : Place α) (steps steps' : List (Step α)) :
    walkFrom place (steps ++ steps') = walkFrom (walkFrom place steps) steps' := List.foldl_append

theorem walkFrom_cons (place : Place α) (step : Step α) (steps : List (Step α)) :
    walkFrom place (step :: steps) = walkFrom (move place step) steps := rfl

theorem walk_concat (steps : List (Step α)) (step : Step α) : walk (steps ++ [step]) = move (walk steps) step := by
  rw [walk, walkFrom_append]
  rfl

theorem move_down (n : Nat) (names : List α) (name : α) : move ⟨n, names⟩ (.down name) = ⟨n, names ++ [name]⟩ := rfl

theorem move_up_of_above (n : Nat) : move (⟨n, []⟩ : Place α) .up = ⟨n + 1, []⟩ := rfl

theorem move_up_concat (n : Nat) (names : List α) (name : α) : move ⟨n, names ++ [name]⟩ .up = ⟨n, names⟩ := by
  simp [move]

theorem above_le_move (place : Place α) (step : Step α) : place.above ≤ (move place step).above := by
  cases step with
  | stay => exact Nat.le_refl _
  | down name => exact Nat.le_refl _
  | up =>
    rw [move]
    split
    · exact Nat.le_succ _
    · exact Nat.le_refl _

theorem above_le_walkFrom (place : Place α) (steps : List (Step α)) : place.above ≤ (walkFrom place steps).above := by
  induction steps generalizing place with
  | nil => exact Nat.le_refl _
  | cons step steps ih => exact (above_le_move place step).trans (ih (move place step))

/-! ## What steps do together -/

theorem LeadsBack.append {steps' : List (Step α)} (h : LeadsBack steps) (h' : LeadsBack steps') : LeadsBack (steps ++ steps') := by
  induction h with
  | nil => exact h'
  | stay _ ih => exact .stay ih
  | excursion name hinner _ _ ih =>
    rw [List.append_assoc, List.cons_append]
    exact .excursion name hinner ih

theorem LeadsBack.walkFrom (h : LeadsBack steps) (place : Place α) : walkFrom place steps = place := by
  induction h generalizing place with
  | nil => rfl
  | stay _ ih => exact ih place
  | excursion name _ _ ihinner ih =>
    rw [List.cons_append, walkFrom_cons, walkFrom_append, ihinner, walkFrom_cons, move_down, move_up_concat, ih]

theorem Descends.walkFrom (h : Descends steps names) (place : Place α) :
    walkFrom place steps = ⟨place.above, place.below ++ names⟩ := by
  induction h generalizing place with
  | back h => rw [h.walkFrom, List.append_nil]
  | down hbefore name _ ih =>
    rw [walkFrom_append, hbefore.walkFrom, walkFrom_cons, ih, move, List.append_assoc, List.singleton_append]

theorem Descends.mem (h : Descends steps names) {name : α} (hname : name ∈ names) : .down name ∈ steps := by
  induction h with
  | back _ => cases hname
  | down _ name' _ ih =>
    rcases List.mem_cons.mp hname with rfl | hname
    · exact List.mem_append_right _ List.mem_cons_self
    · exact List.mem_append_right _ (List.mem_cons_of_mem _ (ih hname))

theorem descends_map_down (names : List α) : Descends (names.map .down) names := by
  induction names with
  | nil => exact .back .nil
  | cons name names ih => exact .down .nil name ih

theorem Descends.leadsBack (h : Descends steps []) : LeadsBack steps := by
  cases h with
  | back h => exact h

theorem Descends.concat_stay (h : Descends steps names) : Descends (steps ++ [.stay]) names := by
  induction h with
  | back h => exact .back (h.append (.stay .nil))
  | down hbefore name _ ih =>
    rw [List.append_assoc, List.cons_append]
    exact .down hbefore name ih

theorem Descends.concat_down (h : Descends steps names) (name : α) : Descends (steps ++ [.down name]) (names ++ [name]) := by
  induction h with
  | back h => exact .down h name (.back .nil)
  | down hbefore name' _ ih =>
    rw [List.append_assoc, List.cons_append, List.cons_append]
    exact .down hbefore name' ih

theorem Descends.concat_up {names' : List α} {name : α} (h : Descends steps names') (hnames : names' = names ++ [name]) :
    Descends (steps ++ [.up]) names := by
  induction h generalizing names with
  | back _ => exact absurd hnames (by simp)
  | down hbefore name' hafter ih =>
    rw [List.append_assoc, List.cons_append]
    cases names with
    | nil =>
      -- the last name is the one that the step up leaves
      obtain ⟨rfl, rfl⟩ := List.cons.inj hnames
      exact .back (hbefore.append (.excursion name' hafter.leadsBack .nil))
    | cons name'' names =>
      obtain ⟨rfl, htail⟩ := List.cons.inj hnames
      exact .down hbefore name' (ih htail)

/-- A walk ends below where it began if its steps lead down from there. -/
theorem walk_eq_below : walk steps = ⟨0, names⟩ ↔ Descends steps names := by
  constructor
  · intro h
    induction steps using List.reverseRecOn generalizing names with
    | nil =>
      obtain rfl : ([] : List α) = names := congrArg Place.below h
      exact .back .nil
    | append_singleton steps step ih =>
      rw [walk_concat] at h
      have habove : (walk steps).above = 0 :=
        Nat.le_zero.mp ((above_le_move (walk steps) step).trans_eq (congrArg Place.above h))
      rcases hplace : walk steps with ⟨n, names'⟩
      rw [hplace] at h habove
      obtain rfl : n = 0 := habove
      cases step with
      | stay =>
        obtain rfl : names' = names := congrArg Place.below h
        exact (ih hplace).concat_stay
      | down name =>
        obtain rfl : names' ++ [name] = names := congrArg Place.below h
        exact (ih hplace).concat_down name
      | up =>
        rcases List.eq_nil_or_concat names' with rfl | ⟨names', name, rfl⟩
        · cases h
        · rw [List.concat_eq_append] at hplace h
          rw [move_up_concat] at h
          obtain rfl : names' = names := congrArg Place.below h
          exact (ih hplace).concat_up rfl
  · intro h
    rw [walk, h.walkFrom, List.nil_append]

/-- The first name of a descent is one that its steps reach and do not leave again. -/
theorem descends_cons_iff {name : α} :
    Descends steps (name :: names) ↔
      ∃ before after, steps = before ++ .down name :: after ∧ LeadsBack before ∧ Descends after names := by
  constructor
  · intro h
    cases h with
    | down hbefore name hafter => exact ⟨_, _, rfl, hbefore, hafter⟩
  · intro h
    obtain ⟨before, after, rfl, hbefore, hafter⟩ := h
    exact .down hbefore name hafter

theorem Descends.unique {names' : List α} (h : Descends steps names) (h' : Descends steps names') : names = names' :=
  congrArg Place.below ((walk_eq_below.mpr h).symm.trans (walk_eq_below.mpr h'))

theorem walk_above : (walk steps).above = 0 ↔ ¬ Climbs steps := by
  constructor
  · intro h hclimbs
    obtain ⟨before, after, rfl, hbefore⟩ := hclimbs
    rw [walk, walkFrom_append, hbefore.walkFrom, walkFrom_cons, move_up_of_above] at h
    have hone := above_le_walkFrom (⟨1, []⟩ : Place α) after
    rw [h] at hone
    exact Nat.not_succ_le_zero 0 hone
  · intro h
    induction steps using List.reverseRecOn with
    | nil => rfl
    | append_singleton steps step ih =>
      have habove : (walk steps).above = 0 := by
        refine ih fun hclimbs => h ?_
        obtain ⟨before, after, rfl, hbefore⟩ := hclimbs
        exact ⟨before, after ++ [step], by rw [List.append_assoc, List.cons_append], hbefore⟩
      rcases hplace : walk steps with ⟨n, names⟩
      obtain rfl : n = 0 := by rw [hplace] at habove; exact habove
      rw [walk_concat, hplace]
      cases step with
      | stay => rfl
      | down name => rfl
      | up =>
        rcases List.eq_nil_or_concat names with rfl | ⟨names, name, rfl⟩
        · exact absurd ⟨steps, [], rfl, (walk_eq_below.mp hplace).leadsBack⟩ h
        · rw [List.concat_eq_append, move_up_concat]

/-! ## From a directory -/

/-- A step from the directory with these names: above the first one there is nothing. -/
def follow (names : List α) : Step α → List α
  | .stay => names
  | .up => names.dropLast
  | .down name => names ++ [name]

/-- The names of a place, seen from the directory with these names. -/
def Place.namesFrom (place : Place α) (base : List α) : List α := base.take (base.length - place.above) ++ place.below

theorem follow_namesFrom (place : Place α) (base : List α) (step : Step α) :
    follow (place.namesFrom base) step = (move place step).namesFrom base := by
  obtain ⟨n, names⟩ := place
  cases step with
  | stay => rfl
  | down name => exact List.append_assoc _ _ _
  | up =>
    rcases List.eq_nil_or_concat names with rfl | ⟨names, name, rfl⟩
    · have hlength : min (base.length - n - 1) (base.length - n) = base.length - (n + 1) := by omega
      rw [move_up_of_above, follow, Place.namesFrom, Place.namesFrom, List.append_nil, List.append_nil, List.dropLast_eq_take,
        List.length_take_of_le (Nat.sub_le _ _), List.take_take, hlength]
    · rw [List.concat_eq_append, move_up_concat, follow, Place.namesFrom, Place.namesFrom, ← List.append_assoc, List.dropLast_concat]

theorem foldl_follow (base : List α) (steps : List (Step α)) : steps.foldl follow base = (walk steps).namesFrom base := by
  induction steps using List.reverseRecOn with
  | nil => simp [walk, walkFrom, Place.namesFrom]
  | append_singleton steps step ih => rw [List.foldl_concat, ih, follow_namesFrom, walk_concat]

/-! Where there are always further names, places are told apart by what they are from all directories. -/

section

variable {valid : α → Prop} (hfresh : ∀ used : List α, ∃ name, valid name ∧ name ∉ used)

include hfresh

theorem le_above_of_namesFrom {p q : Place α}
    (h : ∀ base : List α, (∀ name ∈ base, valid name) → p.namesFrom base = q.namesFrom base) : q.above ≤ p.above := by
  obtain ⟨name, hvalid, hnot⟩ := hfresh q.below
  have hq := h (List.replicate q.above name) fun name' h => List.eq_of_mem_replicate h ▸ hvalid
  rw [Place.namesFrom, Place.namesFrom, List.length_replicate, Nat.sub_self, List.take_zero, List.nil_append,
    List.take_replicate, Nat.min_eq_left (Nat.sub_le _ _)] at hq
  by_contra hlt
  refine hnot (hq ▸ List.mem_append_left _ (List.mem_replicate.mpr ⟨?_, rfl⟩))
  omega

theorem eq_iff_namesFrom {p q : Place α} :
    (∀ base : List α, (∀ name ∈ base, valid name) → p.namesFrom base = q.namesFrom base) ↔ p = q := by
  constructor
  · intro h
    have habove : p.above = q.above :=
      Nat.le_antisymm (le_above_of_namesFrom hfresh fun base hbase => (h base hbase).symm) (le_above_of_namesFrom hfresh h)
    have hbelow : p.below = q.below := by simpa [Place.namesFrom] using h [] (List.forall_mem_nil _)
    cases p
    cases q
    cases habove
    cases hbelow
    rfl
  · intro h base _
    rw [h]

theorem prefix_namesFrom_iff :
    (∀ base : List α, (∀ name ∈ base, valid name) → base <+: place.namesFrom base) ↔ place.above = 0 := by
  constructor
  · intro h
    obtain ⟨name, hvalid, hnot⟩ := hfresh place.below
    by_contra habove
    have hbase := h [name] fun name' h => List.mem_singleton.mp h ▸ hvalid
    have htake : [name].length - place.above = 0 := by
      rw [List.length_singleton]
      omega
    rw [Place.namesFrom, htake, List.take_zero, List.nil_append] at hbase
    exact hnot (hbase.subset (List.mem_singleton_self name))
  · intro h base _
    rw [Place.namesFrom, h, Nat.sub_zero, List.take_length]
    exact List.prefix_append base place.below

end

end Walks
