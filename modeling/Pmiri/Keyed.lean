import Mathlib.Data.List.Induction
import Mathlib.Data.List.Sort
import Mathlib.Data.Prod.Lex

/-!
# Lists of keyed items

`sortBy` orders a list by a key. `firsts` keeps the first item of each key, as
a table with a primary key does that ignores what it already has. `newest`
keeps of each group the item of the greatest rank. Where keys and ranks tell
the items apart, the results depend on what is in the list and not on its
order.
-/

namespace Keyed

variable {α β κ σ ρ : Type*}

/-! ## Order -/

section Sorting

variable [LinearOrder κ] (key : α → κ)

def sortBy (xs : List α) : List α := xs.insertionSort fun a b => key a ≤ key b

theorem sortBy_perm (xs : List α) : (sortBy key xs).Perm xs := List.perm_insertionSort _ xs

@[simp] theorem mem_sortBy {xs : List α} {x : α} : x ∈ sortBy key xs ↔ x ∈ xs := (sortBy_perm key xs).mem_iff

theorem pairwise_sortBy (xs : List α) : (sortBy key xs).Pairwise fun a b => key a ≤ key b := by
  have : Std.Total fun a b : α => key a ≤ key b := ⟨fun a b => le_total (key a) (key b)⟩
  have : IsTrans α fun a b => key a ≤ key b := ⟨fun _ _ _ => le_trans⟩
  exact List.pairwise_insertionSort _ xs

theorem pairwise_lt_sortBy {xs : List α} (hinj : ∀ a ∈ xs, ∀ b ∈ xs, key a = key b → a = b) (hd : xs.Nodup) :
    (sortBy key xs).Pairwise fun a b => key a < key b := by
  have hne : (sortBy key xs).Nodup := (sortBy_perm key xs).nodup_iff.mpr hd
  refine ((pairwise_sortBy key xs).and hne).imp_of_mem fun {a b} ha hb h => lt_of_le_of_ne h.1 fun heq => h.2 ?_
  exact hinj a ((mem_sortBy key).mp ha) b ((mem_sortBy key).mp hb) heq

/-- Where the key tells the items apart, there is one sorted list of them. -/
theorem sortBy_eq_of_perm {xs ys : List α} (hinj : ∀ a ∈ xs, ∀ b ∈ xs, key a = key b → a = b) (h : xs.Perm ys) :
    sortBy key xs = sortBy key ys := by
  refine List.Perm.eq_of_pairwise (fun a b ha hb hab hba => ?_) (pairwise_sortBy key xs) (pairwise_sortBy key ys)
    ((sortBy_perm key xs).trans (h.trans (sortBy_perm key ys).symm))
  exact hinj a ((mem_sortBy key).mp ha) b (h.mem_iff.mpr ((mem_sortBy key).mp hb)) (le_antisymm hab hba)

theorem sortBy_of_sorted {xs : List α} (h : xs.Pairwise fun a b => key a ≤ key b) : sortBy key xs = xs := h.insertionSort_eq

theorem sortBy_sortBy (xs : List α) : sortBy key (sortBy key xs) = sortBy key xs :=
  sortBy_of_sorted key (pairwise_sortBy key xs)

theorem map_sortBy {key : α → κ} {key' : β → κ} (f : α → β) (h : ∀ a, key' (f a) = key a) (xs : List α) :
    (sortBy key xs).map f = sortBy key' (xs.map f) :=
  List.map_insertionSort _ _ f xs fun a _ b _ => by rw [h, h]

omit [LinearOrder κ] in
theorem orderedInsert_congr {r r' : α → α → Prop} [DecidableRel r] [DecidableRel r'] {x : α} {xs : List α}
    (h : ∀ y ∈ xs, r x y ↔ r' x y) : xs.orderedInsert r x = xs.orderedInsert r' x := by
  induction xs with
  | nil => rfl
  | cons y ys ih =>
    obtain ⟨hy, hys⟩ := List.forall_mem_cons.mp h
    rw [List.orderedInsert, List.orderedInsert, ih hys]
    simp only [hy]

/-- Items with one key stay in the order of a second key that they are in. -/
theorem sortBy_eq_of_ties {τ : Type*} [LinearOrder τ] {key : α → κ} {tie : α → τ} {xs : List α}
    (h : xs.Pairwise fun a b => key a = key b → tie a ≤ tie b) :
    sortBy key xs = sortBy (fun a => toLex (key a, tie a)) xs := by
  induction xs with
  | nil => rfl
  | cons x xs ih =>
    obtain ⟨hx, hxs⟩ := List.pairwise_cons.mp h
    have hinsert : sortBy key (x :: xs) = (sortBy key xs).orderedInsert (fun a b => key a ≤ key b) x := rfl
    rw [hinsert, ih hxs]
    refine orderedInsert_congr fun y hy => ?_
    have hy' : y ∈ xs := (mem_sortBy _).mp hy
    rw [Prod.Lex.toLex_le_toLex]
    constructor
    · intro hle
      rcases lt_or_eq_of_le hle with hlt | heq
      · exact .inl hlt
      · exact .inr ⟨heq, hx y hy' heq⟩
    · rintro (hlt | ⟨heq, -⟩)
      · exact hlt.le
      · exact heq.le

end Sorting

/-! ## The first item of each key -/

section Firsts

variable [DecidableEq κ] (key : α → κ)

/-- The list with `x` added, unless its key is taken. -/
def add (xs : List α) (x : α) : List α := if xs.any (fun y => decide (key y = key x)) then xs else xs ++ [x]

def firsts (xs : List α) : List α := xs.foldl (add key) []

@[simp] theorem firsts_nil : firsts key [] = [] := rfl

theorem firsts_concat (xs : List α) (x : α) : firsts key (xs ++ [x]) = add key (firsts key xs) x := by
  rw [firsts, List.foldl_append, firsts]
  rfl

theorem mem_of_mem_add {xs : List α} {x y : α} (h : y ∈ add key xs x) : y ∈ xs ∨ y = x := by
  unfold add at h
  split at h
  · exact .inl h
  · rcases List.mem_append.mp h with h | h
    · exact .inl h
    · exact .inr (List.mem_singleton.mp h)

theorem add_of_mem {xs : List α} {x y : α} (hy : y ∈ xs) (h : key y = key x) : add key xs x = xs :=
  if_pos (List.any_eq_true.mpr ⟨y, hy, decide_eq_true h⟩)

theorem add_of_new {xs : List α} {x : α} (h : ∀ y ∈ xs, key y ≠ key x) : add key xs x = xs ++ [x] :=
  if_neg fun hany => by
    obtain ⟨y, hy, e⟩ := List.any_eq_true.mp hany
    exact h y hy (of_decide_eq_true e)

/-- What is kept under a key is the first item of the list with it. -/
theorem find?_firsts (xs : List α) (k : κ) :
    (firsts key xs).find? (fun y => decide (key y = k)) = xs.find? (fun y => decide (key y = k)) := by
  induction xs using List.reverseRecOn with
  | nil => rfl
  | append_singleton xs x ih =>
    rw [firsts_concat, add]
    split <;> rename_i h
    · obtain ⟨y, hy, e⟩ := List.any_eq_true.mp h
      rw [ih, List.find?_append]
      by_cases hk : key x = k
      · have hsome : (xs.find? fun y => decide (key y = k)).isSome = true := by
          rw [← ih, List.find?_isSome]
          exact ⟨y, hy, decide_eq_true ((of_decide_eq_true e).trans hk)⟩
        obtain ⟨z, hz⟩ := Option.isSome_iff_exists.mp hsome
        rw [hz, Option.some_or]
      · rw [List.find?_cons_of_neg (by simpa using hk), List.find?_nil, Option.or_none]
    · rw [List.find?_append, List.find?_append, ih]

theorem prefix_add (xs : List α) (x : α) : xs <+: add key xs x := by
  rw [add]
  split
  exacts [List.prefix_rfl, List.prefix_append _ _]

theorem prefix_firsts {xs ys : List α} (h : xs <+: ys) : firsts key xs <+: firsts key ys := by
  obtain ⟨zs, rfl⟩ := h
  induction zs using List.reverseRecOn with
  | nil => simp
  | append_singleton zs z ih =>
    rw [← List.append_assoc, firsts_concat]
    exact ih.trans (prefix_add key _ z)

theorem nodup_add {xs : List α} {x : α} (h : (xs.map key).Nodup) : ((add key xs x).map key).Nodup := by
  rw [add]
  split <;> rename_i hany
  · exact h
  · rw [List.map_append, List.map_singleton]
    refine List.nodup_append.mpr ⟨h, List.nodup_singleton _, fun k hk k' hk' e => hany ?_⟩
    obtain ⟨y, hy, rfl⟩ := List.mem_map.mp hk
    exact List.any_eq_true.mpr ⟨y, hy, decide_eq_true (e.trans (List.mem_singleton.mp hk'))⟩

theorem nodup_firsts (xs : List α) : ((firsts key xs).map key).Nodup := by
  induction xs using List.reverseRecOn with
  | nil => exact List.nodup_nil
  | append_singleton xs x ih => exact firsts_concat key xs x ▸ nodup_add key ih

theorem firsts_inj {xs : List α} {a b : α} (ha : a ∈ firsts key xs) (hb : b ∈ firsts key xs) (h : key a = key b) : a = b :=
  List.inj_on_of_nodup_map (nodup_firsts key xs) ha hb h

theorem mem_firsts {xs : List α} {y : α} : y ∈ firsts key xs ↔ xs.find? (fun x => decide (key x = key y)) = some y := by
  rw [← find?_firsts]
  constructor
  · intro h
    have hsome : ((firsts key xs).find? fun x => decide (key x = key y)).isSome = true :=
      List.find?_isSome.mpr ⟨y, h, decide_eq_true rfl⟩
    obtain ⟨z, hz⟩ := Option.isSome_iff_exists.mp hsome
    rw [hz, firsts_inj key (List.mem_of_find?_eq_some hz) h (by simpa using List.find?_some hz)]
  · exact fun h => List.mem_of_find?_eq_some h

theorem firsts_sublist (xs : List α) : (firsts key xs).Sublist xs := by
  induction xs using List.reverseRecOn with
  | nil => exact List.Sublist.refl []
  | append_singleton xs x ih =>
    rw [firsts_concat, add]
    split
    · exact ih.trans (List.sublist_append_left xs [x])
    · exact ih.append_right [x]

theorem mem_of_mem_firsts {xs : List α} {y : α} (h : y ∈ firsts key xs) : y ∈ xs :=
  List.mem_of_find?_eq_some ((mem_firsts key).mp h)

/-- Every item of the list has its key among those that are kept. -/
theorem exists_mem_firsts {xs : List α} {x : α} (h : x ∈ xs) : ∃ y ∈ firsts key xs, key y = key x := by
  have hsome : (xs.find? fun y => decide (key y = key x)).isSome = true :=
    List.find?_isSome.mpr ⟨x, h, decide_eq_true rfl⟩
  obtain ⟨y, hy⟩ := Option.isSome_iff_exists.mp hsome
  rw [← find?_firsts] at hy
  exact ⟨y, List.mem_of_find?_eq_some hy, by simpa using List.find?_some hy⟩

theorem map_add {key : α → κ} {key' : β → κ} (f : α → β) (h : ∀ a, key' (f a) = key a) (xs : List α) (x : α) :
    (add key xs x).map f = add key' (xs.map f) (f x) := by
  simp only [add, List.any_map, Function.comp_def, h]
  split
  · rfl
  · rw [List.map_append, List.map_singleton]

theorem map_firsts {key : α → κ} {key' : β → κ} (f : α → β) (h : ∀ a, key' (f a) = key a) (xs : List α) :
    (firsts key xs).map f = firsts key' (xs.map f) := by
  induction xs using List.reverseRecOn with
  | nil => rfl
  | append_singleton xs x ih =>
    rw [List.map_append, List.map_singleton, firsts_concat, firsts_concat, map_add f h, ih]

/-- A filter that does not tell items of one key apart can be applied before. -/
theorem filter_firsts {p : α → Bool} {xs : List α} (h : ∀ a ∈ xs, ∀ b ∈ xs, key a = key b → p a = p b) :
    (firsts key xs).filter p = firsts key (xs.filter p) := by
  induction xs using List.reverseRecOn with
  | nil => rfl
  | append_singleton xs x ih =>
    have hx : x ∈ xs ++ [x] := List.mem_append_right _ (List.mem_singleton_self x)
    have ih := ih fun a ha b hb => h a (List.mem_append_left _ ha) b (List.mem_append_left _ hb)
    rw [firsts_concat, List.filter_append, List.filter_singleton]
    by_cases hold : ∃ y ∈ firsts key xs, key y = key x
    · obtain ⟨y, hy, e⟩ := hold
      rw [add_of_mem key hy e, ih]
      cases hp : p x with
      | false => rw [Bool.cond_false, List.append_nil]
      | true =>
        have hpy : p y = true := hp ▸ h y (List.mem_append_left _ (mem_of_mem_firsts key hy)) x hx e
        rw [Bool.cond_true, firsts_concat, add_of_mem key (y := y) _ e]
        exact ih ▸ List.mem_filter.mpr ⟨hy, hpy⟩
    · have hnew : ∀ y ∈ firsts key xs, key y ≠ key x := fun y hy e => hold ⟨y, hy, e⟩
      rw [add_of_new key hnew, List.filter_append, List.filter_singleton, ih]
      cases hp : p x with
      | false => rw [Bool.cond_false, List.append_nil, List.append_nil]
      | true =>
        rw [Bool.cond_true, firsts_concat, add_of_new]
        exact fun y hy => hnew y (List.mem_of_mem_filter (ih ▸ hy))

/-- Items that are already told apart by their keys are all kept. -/
theorem firsts_of_nodup {xs : List α} (h : (xs.map key).Nodup) : firsts key xs = xs := by
  induction xs using List.reverseRecOn with
  | nil => rfl
  | append_singleton xs x ih =>
    rw [List.map_append, List.map_singleton] at h
    obtain ⟨hxs, -, hne⟩ := List.nodup_append.mp h
    rw [firsts_concat, ih hxs, add_of_new]
    exact fun y hy e => hne _ (List.mem_map_of_mem hy) _ (List.mem_singleton_self _) e

/-- If items with one key are equal, it does not matter which comes first. -/
theorem firsts_perm {xs ys : List α} (hsame : ∀ a ∈ xs, ∀ b ∈ xs, key a = key b → a = b) (h : xs.Perm ys) :
    (firsts key xs).Perm (firsts key ys) := by
  have hmem : ∀ {zs : List α}, (∀ a ∈ zs, ∀ b ∈ zs, key a = key b → a = b) → ∀ y, y ∈ firsts key zs ↔ y ∈ zs := by
    intro zs hzs y
    refine ⟨mem_of_mem_firsts key, fun hy => ?_⟩
    obtain ⟨z, hz, e⟩ := exists_mem_firsts key hy
    rwa [← hzs z (mem_of_mem_firsts key hz) y hy e]
  refine (List.perm_ext_iff_of_nodup (nodup_firsts key xs).of_map (nodup_firsts key ys).of_map).mpr fun y => ?_
  rw [hmem hsame, hmem (fun a ha b hb => hsame a (h.mem_iff.mpr ha) b (h.mem_iff.mpr hb)), h.mem_iff]

end Firsts

/-! ## The newest item of each group -/

section Newest

variable [DecidableEq σ] [LinearOrder ρ] (group : α → σ) (rank : α → ρ)

/-- `x` in the place of the item of its group, if it is newer. -/
def put : List α → α → List α
  | [], x => [x]
  | c :: cs, x => if group c = group x then (if rank c < rank x then x else c) :: cs else c :: put cs x

def newest (xs : List α) : List α := xs.foldl (put group rank) []

theorem mem_put {cs : List α} {x y : α} (h : y ∈ put group rank cs x) : y = x ∨ y ∈ cs := by
  induction cs with
  | nil => exact .inl (List.mem_singleton.mp h)
  | cons c cs ih =>
    rw [put] at h
    split at h
    · rcases List.mem_cons.mp h with rfl | h
      · split
        · exact .inl rfl
        · exact .inr List.mem_cons_self
      · exact .inr (List.mem_cons_of_mem _ h)
    · rcases List.mem_cons.mp h with rfl | h
      · exact .inr List.mem_cons_self
      · exact (ih h).imp_right (List.mem_cons_of_mem _)

/-- Nothing is lost but to what is as new. -/
theorem exists_mem_put {cs : List α} {x c : α} (hc : c = x ∨ c ∈ cs) :
    ∃ d ∈ put group rank cs x, group d = group c ∧ rank c ≤ rank d := by
  induction cs with
  | nil =>
    obtain rfl : c = x := hc.resolve_right List.not_mem_nil
    exact ⟨c, List.mem_singleton_self c, rfl, le_rfl⟩
  | cons b cs ih =>
    rw [put]
    split <;> rename_i hg
    · rcases hc with rfl | hc
      · refine ⟨_, List.mem_cons_self, ?_⟩
        split <;> rename_i hr
        · exact ⟨rfl, le_rfl⟩
        · exact ⟨hg, not_lt.mp hr⟩
      rcases List.mem_cons.mp hc with rfl | hc
      · refine ⟨_, List.mem_cons_self, ?_⟩
        split <;> rename_i hr
        · exact ⟨hg.symm, hr.le⟩
        · exact ⟨rfl, le_rfl⟩
      · exact ⟨c, List.mem_cons_of_mem _ hc, rfl, le_rfl⟩
    · by_cases hcb : c = b
      · exact ⟨b, List.mem_cons_self, by rw [hcb], by rw [hcb]⟩
      · obtain ⟨d, hd, h⟩ := ih (hc.imp_right fun h => (List.mem_cons.mp h).resolve_left hcb)
        exact ⟨d, List.mem_cons_of_mem _ hd, h⟩

theorem nodup_put {cs : List α} {x : α} (h : (cs.map group).Nodup) : ((put group rank cs x).map group).Nodup := by
  induction cs with
  | nil => exact List.nodup_singleton _
  | cons c cs ih =>
    rw [List.map_cons, List.nodup_cons] at h
    rw [put]
    split <;> rename_i hg
    · rw [List.map_cons, List.nodup_cons]
      split
      · exact hg ▸ h
      · exact h
    · rw [List.map_cons, List.nodup_cons]
      refine ⟨fun hm => ?_, ih h.2⟩
      obtain ⟨d, hd, e⟩ := List.mem_map.mp hm
      rcases mem_put group rank hd with rfl | hd
      · exact hg e.symm
      · exact h.1 (e ▸ List.mem_map_of_mem hd)

theorem newest_concat (xs : List α) (x : α) :
    newest group rank (xs ++ [x]) = put group rank (newest group rank xs) x := by
  rw [newest, List.foldl_append, newest]
  rfl

/-- There is one item of each group. -/
theorem nodup_newest (xs : List α) : ((newest group rank xs).map group).Nodup := by
  induction xs using List.reverseRecOn with
  | nil => exact List.nodup_nil
  | append_singleton xs x ih => exact newest_concat group rank xs x ▸ nodup_put group rank ih

theorem mem_of_mem_newest {xs : List α} {y : α} (h : y ∈ newest group rank xs) : y ∈ xs := by
  induction xs using List.reverseRecOn with
  | nil => exact h
  | append_singleton xs x ih =>
    rw [newest_concat] at h
    rcases mem_put group rank h with rfl | h
    · exact List.mem_append_right _ (List.mem_singleton_self _)
    · exact List.mem_append_left _ (ih h)

theorem exists_mem_newest {xs : List α} {x : α} (h : x ∈ xs) :
    ∃ d ∈ newest group rank xs, group d = group x ∧ rank x ≤ rank d := by
  induction xs using List.reverseRecOn with
  | nil => cases h
  | append_singleton xs z ih =>
    rw [newest_concat]
    rcases List.mem_append.mp h with h | h
    · obtain ⟨d, hd, hg, hr⟩ := ih h
      obtain ⟨d', hd', hg', hr'⟩ := exists_mem_put group rank (x := z) (.inr hd)
      exact ⟨d', hd', hg'.trans hg, hr.trans hr'⟩
    · exact exists_mem_put group rank (.inl (List.mem_singleton.mp h))

theorem le_of_mem_newest {xs : List α} {x y : α} (hy : y ∈ newest group rank xs) (hx : x ∈ xs) (hg : group x = group y) :
    rank x ≤ rank y := by
  obtain ⟨d, hd, hgd, hr⟩ := exists_mem_newest group rank hx
  rwa [← List.inj_on_of_nodup_map (nodup_newest group rank xs) hd hy (hgd.trans hg)]

/-- What is newest: an item that none of its group exceeds. -/
theorem mem_newest {xs : List α} (hinj : ∀ a ∈ xs, ∀ b ∈ xs, group a = group b → rank a = rank b → a = b) {y : α} :
    y ∈ newest group rank xs ↔ y ∈ xs ∧ ∀ x ∈ xs, group x = group y → rank x ≤ rank y := by
  constructor
  · exact fun h => ⟨mem_of_mem_newest group rank h, fun x hx hg => le_of_mem_newest group rank h hx hg⟩
  · rintro ⟨hy, hmax⟩
    obtain ⟨d, hd, hg, hr⟩ := exists_mem_newest group rank hy
    have hdx := mem_of_mem_newest group rank hd
    rwa [hinj y hy d hdx hg.symm (le_antisymm hr (hmax d hdx hg))]

theorem newest_perm {xs ys : List α} (hinj : ∀ a ∈ xs, ∀ b ∈ xs, group a = group b → rank a = rank b → a = b)
    (h : xs.Perm ys) : (newest group rank xs).Perm (newest group rank ys) := by
  refine (List.perm_ext_iff_of_nodup (nodup_newest group rank xs).of_map (nodup_newest group rank ys).of_map).mpr
    fun y => ?_
  rw [mem_newest group rank hinj, mem_newest group rank fun a ha b hb =>
    hinj a (h.mem_iff.mpr ha) b (h.mem_iff.mpr hb), h.mem_iff]
  simp only [h.mem_iff]

theorem map_newest {group : α → σ} {rank : α → ρ} {group' : β → σ} {rank' : β → ρ} (f : α → β)
    (hg : ∀ a, group' (f a) = group a) (hr : ∀ a, rank' (f a) = rank a) (xs : List α) :
    (newest group rank xs).map f = newest group' rank' (xs.map f) := by
  have hput : ∀ (cs : List α) (x : α), (put group rank cs x).map f = put group' rank' (cs.map f) (f x) := by
    intro cs x
    induction cs with
    | nil => rfl
    | cons c cs ih =>
      rw [put, List.map_cons, put, hg, hg, hr, hr]
      split
      · rw [List.map_cons]
        split <;> rfl
      · rw [List.map_cons, ih]
  induction xs using List.reverseRecOn with
  | nil => rfl
  | append_singleton xs x ih =>
    rw [List.map_append, List.map_singleton, newest_concat, newest_concat, hput, ih]

end Newest

end Keyed
