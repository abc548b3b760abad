import Pmiri.Python.Order
import Mathlib.Data.List.Dedup
import Mathlib.Data.List.Pairwise
import Mathlib.Data.List.Sort
import Mathlib.Data.Set.List
import Mathlib.Data.String.Basic

/-!
# `sorted(set(…))`

A list without its repetitions, in order. Values that cannot be hashed raise a
`TypeError`, and so do two values that cannot be compared. On strings the result
is the list Mathlib sorts; it consists of the values of the list, and a list
that equals its own result is its result.
-/

namespace Py.Val

/-- `set(vs)`: the first of the values that are `==`, as `True`, `1` and `1.0` are. No key of the values stands for
this equality, so that it is not the first value of each key. -/
def firsts : List Val → List Val
  | [] => []
  | v :: vs => v :: (firsts vs).filter fun w => !v.eq w

/-- A value in its place in a sorted list. -/
def place (v : Val) : List Val → Except Exc (List Val)
  | [] => .ok [v]
  | w :: ws => do
    let before ← w.lt v
    if before then
      let ws ← place v ws
      return w :: ws
    else return v :: w :: ws

/-- `sorted(vs)` -/
def sorted : List Val → Except Exc (List Val)
  | [] => .ok []
  | v :: vs => do
    let vs ← sorted vs
    place v vs

/-- `sorted(set(vs))` -/
def sortedSet (vs : List Val) : Except Exc (List Val) :=
  if vs.all hashable then sorted (firsts vs) else .error (.typeError "unhashable type")

/-! ## The values of the result -/

theorem firsts_sublist (vs : List Val) : (firsts vs).Sublist vs := by
  induction vs with
  | nil => exact List.Sublist.slnil
  | cons v vs ih => exact (List.filter_sublist.trans ih).cons_cons v

theorem place_perm {v : Val} {ws us : List Val} (h : place v ws = .ok us) : us.Perm (v :: ws) := by
  induction ws generalizing us with
  | nil =>
    obtain rfl := Except.ok.inj h
    exact List.Perm.refl _
  | cons w ws ih =>
    obtain ⟨before, -, h⟩ := bind_ok.mp h
    split at h
    · obtain ⟨placed, hplaced, h⟩ := bind_ok.mp h
      obtain rfl := Except.ok.inj h
      exact ((ih hplaced).cons w).trans (List.Perm.swap v w ws)
    · obtain rfl := Except.ok.inj h
      exact List.Perm.refl _

theorem sorted_perm {vs ws : List Val} (h : sorted vs = .ok ws) : ws.Perm vs := by
  induction vs generalizing ws with
  | nil =>
    obtain rfl := Except.ok.inj h
    exact List.Perm.refl _
  | cons v vs ih =>
    obtain ⟨rest, hrest, h⟩ := bind_ok.mp h
    exact (place_perm h).trans ((ih hrest).cons v)

theorem sortedSet_ok {vs ws : List Val} (h : sortedSet vs = .ok ws) :
    vs.all hashable = true ∧ sorted (firsts vs) = .ok ws := by
  unfold sortedSet at h
  split at h
  · rename_i hvs
    exact ⟨hvs, h⟩
  · cases h

theorem sortedSet_perm {vs ws : List Val} (h : sortedSet vs = .ok ws) : ws.Perm (firsts vs) := sorted_perm (sortedSet_ok h).2

theorem mem_of_sortedSet {vs ws : List Val} (h : sortedSet vs = .ok ws) {v : Val} (hv : v ∈ ws) : v ∈ vs :=
  (firsts_sublist vs).mem ((sortedSet_perm h).mem_iff.mp hv)

/-! ## Strings -/

theorem mem_firsts_str {l : List String} {v : Val} : v ∈ firsts (l.map .str) ↔ v ∈ l.map Val.str := by
  refine ⟨fun h => (firsts_sublist _).mem h, fun h => ?_⟩
  induction l with
  | nil => exact h
  | cons s l ih =>
    obtain ⟨t, ht, rfl⟩ := List.mem_map.mp h
    rw [List.map_cons, firsts, List.mem_cons, List.mem_filter]
    by_cases hst : s = t
    · exact .inl (by rw [hst])
    · refine .inr ⟨ih (List.mem_map_of_mem ((List.mem_cons.mp ht).resolve_left (Ne.symm hst))), ?_⟩
      simp [hst]

theorem nodup_firsts (vs : List Val) : (firsts vs).Nodup := by
  induction vs with
  | nil => exact List.nodup_nil
  | cons v vs ih =>
    refine List.nodup_cons.mpr ⟨fun h => ?_, ih.filter _⟩
    simpa [v.eq_refl] using (List.mem_filter.mp h).2

theorem place_str (s : String) (l : List String) :
    place (.str s) (l.map .str) = .ok ((l.orderedInsert (· ≤ ·) s).map .str) := by
  induction l with
  | nil => rfl
  | cons t l ih =>
    rw [List.map_cons, place, lt_str, ok_bind, List.orderedInsert_cons]
    by_cases hts : t < s
    · rw [if_pos (decide_eq_true hts), if_neg (not_le.mpr hts), ih]
      rfl
    · rw [if_neg (by simpa using hts), if_pos (not_lt.mp hts)]
      rfl

theorem sorted_str (l : List String) : sorted (l.map .str) = .ok ((l.insertionSort (· ≤ ·)).map .str) := by
  induction l with
  | nil => rfl
  | cons s l ih => rw [List.map_cons, sorted, ih, ok_bind, place_str, List.insertionSort_cons]

theorem hashable_str (l : List String) : (l.map Val.str).all hashable = true := by
  simp [hashable]

/-- On strings, the sorted list of the values. -/
theorem sortedSet_str (l : List String) : sortedSet (l.map .str) = .ok ((l.dedup.insertionSort (· ≤ ·)).map .str) := by
  obtain ⟨l', -, hl'⟩ := List.sublist_map_iff.mp (firsts_sublist (l.map Val.str))
  have hnodup : l'.Nodup := List.Nodup.of_map Val.str (hl' ▸ nodup_firsts _)
  have hmem (s : String) : s ∈ l' ↔ s ∈ l.dedup := by
    have h : Val.str s ∈ firsts (l.map .str) ↔ Val.str s ∈ l.map Val.str := mem_firsts_str
    rw [hl', List.mem_map_of_injective fun _ _ => Val.str.inj, List.mem_map_of_injective fun _ _ => Val.str.inj] at h
    rw [h, List.mem_dedup]
  have hperm : l'.Perm l.dedup := (List.perm_ext_iff_of_nodup hnodup (List.nodup_dedup l)).mpr hmem
  have hsorted : l'.insertionSort (· ≤ ·) = l.dedup.insertionSort (· ≤ ·) :=
    List.Perm.eq_of_pairwise' (List.pairwise_insertionSort _ _) (List.pairwise_insertionSort _ _)
      ((List.perm_insertionSort _ _).trans (hperm.trans (List.perm_insertionSort _ _).symm))
  rw [sortedSet, if_pos (hashable_str l), hl', sorted_str, hsorted]

/-! ## Equality of values that can be hashed -/

/-- Such values are equal if they are the same, or the same number. -/
theorem eq_iff {v w : Val} (hv : v.hashable = true) : v.eq w = true ↔ v = w ∨ v.num?.isSome = true ∧ v.num? = w.num? := by
  cases v with
  | list _ | dict _ => cases hv
  | none => cases w <;> simp [eq, num?]
  | str s =>
    rw [str_eq]
    refine ⟨fun h => .inl h.symm, ?_⟩
    rintro (h | ⟨h, -⟩)
    · exact h.symm
    · cases h
  | bool _ | int _ | float _ =>
    refine ⟨fun h => .inr ⟨rfl, ?_⟩, ?_⟩
    · simp only [eq, beq_iff_eq] at h
      exact h.symm
    · rintro (rfl | ⟨-, h⟩)
      · exact eq_refl _
      · rw [eq, ← h, num?, beq_self_eq_true]

theorem eq_symm {v w : Val} (hv : v.hashable = true) (hw : w.hashable = true) (h : v.eq w = true) : w.eq v = true := by
  rw [eq_iff hw]
  rcases (eq_iff hv).mp h with rfl | ⟨hsome, hsame⟩
  · exact .inl rfl
  · exact .inr ⟨hsame ▸ hsome, hsame.symm⟩

theorem eq_trans {u v w : Val} (hu : u.hashable = true) (hv : v.hashable = true) (h : u.eq v = true) (h' : v.eq w = true) :
    u.eq w = true := by
  rcases (eq_iff hu).mp h with rfl | ⟨hsome, hsame⟩
  · exact h'
  · rcases (eq_iff hv).mp h' with rfl | ⟨-, hsame'⟩
    · exact h
    · exact (eq_iff hu).mpr (.inr ⟨hsome, hsame.trans hsame'⟩)

/-- Every value has an equal one among the first ones. -/
theorem exists_mem_firsts {vs : List Val} (hvs : vs.all hashable = true) {v : Val} (h : v ∈ vs) :
    ∃ w ∈ firsts vs, w.eq v = true := by
  induction vs with
  | nil => cases h
  | cons u vs ih =>
    rw [List.all_cons, Bool.and_eq_true] at hvs
    by_cases huv : u.eq v = true
    · exact ⟨u, List.mem_cons_self, huv⟩
    · have hmem : v ∈ vs := (List.mem_cons.mp h).resolve_left fun e => huv (e ▸ u.eq_refl)
      obtain ⟨w, hw, hwv⟩ := ih hvs.2 hmem
      have hw' : w.hashable = true := List.all_eq_true.mp hvs.2 w ((firsts_sublist vs).mem hw)
      refine ⟨w, List.mem_cons_of_mem _ (List.mem_filter.mpr ⟨hw, ?_⟩), hwv⟩
      rw [Bool.not_eq_true']
      exact Bool.eq_false_iff.mpr fun huw => huv (eq_trans hvs.1 hw' huw hwv)

theorem pairwise_firsts (vs : List Val) : (firsts vs).Pairwise fun v w => v.eq w = false := by
  induction vs with
  | nil => exact List.Pairwise.nil
  | cons v vs ih =>
    refine List.pairwise_cons.mpr ⟨fun w hw => ?_, ih.filter _⟩
    simpa using (List.mem_filter.mp hw).2

/-- If the result consists of strings, so does the list. -/
theorem sortedSet_eq_str {vs : List Val} {ids : List String} (h : sortedSet vs = .ok (ids.map .str)) :
    ∃ l : List String, vs = l.map .str ∧ l.dedup.insertionSort (· ≤ ·) = ids := by
  have hstr : vs ∈ Set.range (List.map Val.str) := by
    rw [Set.range_list_map]
    intro v hv
    obtain ⟨w, hw, hwv⟩ := exists_mem_firsts (sortedSet_ok h).1 hv
    obtain ⟨s, -, rfl⟩ := List.mem_map.mp ((sortedSet_perm h).mem_iff.mpr hw)
    exact ⟨s, (str_eq.mp hwv).symm⟩
  obtain ⟨l, rfl⟩ := hstr
  rw [sortedSet_str, Except.ok.injEq] at h
  exact ⟨l, rfl, List.map_injective_iff.mpr (fun _ _ => Val.str.inj) h⟩

/-! ## Lists that equal their result -/

theorem eq_of_eqList {vs ws : List Val} (h : eqList vs ws = true) (hinj : ∀ v ∈ vs, ∀ w ∈ ws, v.eq w = true → v = w) : vs = ws := by
  induction vs generalizing ws with
  | nil =>
    cases ws with
    | nil => rfl
    | cons w ws => cases h
  | cons v vs ih =>
    cases ws with
    | nil => cases h
    | cons w ws =>
      rw [eqList, Bool.and_eq_true] at h
      rw [hinj v List.mem_cons_self w List.mem_cons_self h.1,
        ih h.2 fun v hv w hw => hinj v (List.mem_cons_of_mem _ hv) w (List.mem_cons_of_mem _ hw)]

theorem length_eq_of_eqList {vs ws : List Val} (h : eqList vs ws = true) : vs.length = ws.length := by
  induction vs generalizing ws with
  | nil =>
    cases ws with
    | nil => rfl
    | cons w ws => cases h
  | cons v vs ih =>
    cases ws with
    | nil => cases h
    | cons w ws =>
      rw [eqList, Bool.and_eq_true] at h
      rw [List.length_cons, List.length_cons, ih h.2]

/-- A list that equals its result has no repetitions, so no number in it has
two forms. -/
theorem sortedSet_self {vs ws : List Val} (h : sortedSet vs = .ok ws) (heq : eqList ws vs = true) : ws = vs := by
  have hperm := sortedSet_perm h
  have hfirsts : firsts vs = vs :=
    (firsts_sublist vs).eq_of_length (hperm.length_eq.symm.trans (length_eq_of_eqList heq))
  have hpairwise : vs.Pairwise fun v w => v.hashable = true ∧ w.hashable = true ∧ v.eq w = false := by
    have hp := hfirsts ▸ pairwise_firsts vs
    exact hp.imp_of_mem fun hv hw hne =>
      ⟨List.all_eq_true.mp (sortedSet_ok h).1 _ hv, List.all_eq_true.mp (sortedSet_ok h).1 _ hw, hne⟩
  refine eq_of_eqList heq fun w hw v hv hwv => ?_
  rw [hperm.mem_iff, hfirsts] at hw
  by_contra hne
  have hsymm : Std.Symm fun v w : Val => v.hashable = true ∧ w.hashable = true ∧ v.eq w = false :=
    ⟨fun v w ⟨hv, hw, hne⟩ => ⟨hw, hv, Bool.eq_false_iff.mpr fun e => by rw [eq_symm hw hv e] at hne; cases hne⟩⟩
  obtain ⟨-, -, hfalse⟩ := hpairwise.forall hw hv hne
  rw [hwv] at hfalse
  cases hfalse

end Py.Val

namespace Py

/-- Of a dictionary, the elements are the keys. -/
theorem elementsAre_toVal (d : Dict) (names : List String) : elementsAre d.toVal names = .ok (d.keysAre names) := by
  have hall : ∀ xs ys : List String, ((xs.map Val.str).all fun v => (ys.map Val.str).any (·.eq v)) = xs.all ys.contains := by
    intro xs ys
    rw [Bool.eq_iff_iff, List.all_eq_true, List.all_eq_true]
    simp
  have hcontains : names.all d.contains = names.all d.keys.contains := by
    rw [Bool.eq_iff_iff, List.all_eq_true, List.all_eq_true]
    simp [Dict.contains_iff]
  have helements : d.toVal.elements = .ok (d.keys.map .str) := by
    rw [Dict.toVal, Val.elements, Dict.keys, List.map_map]
    rfl
  rw [elementsAre, helements, ok_bind, Val.sameSet, Val.hashable_str, Val.hashable_str, Dict.keysAre, hcontains, ← hall, ← hall]
  rfl

end Py
