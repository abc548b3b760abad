import Pmiri.Python.Runtime
import Pmiri.Keyed

/-!
# JSON that is read back

Reading canonical JSON back sorts the keys of every object. The text of what
was read, its fields and the parts of it that a filter leaves in are those of
what was written.
-/

namespace Py

namespace Val

theorem jsonItems_eq_map (items : List (String × Val)) : jsonItems items = items.map fun kv => (kv.1, kv.2.json) := by
  induction items with
  | nil => rfl
  | cons kv items ih => rw [jsonItems, ih, List.map_cons]

/-- The text of an object does not depend on the order of its items. -/
theorem sortedItems_sortItems (items : List (String × Val)) :
    sortedItems (jsonItems (sortItems items)) = sortedItems (jsonItems items) := by
  have hsort : (items.map fun kv => (kv.1, kv.2.json)).insertionSort (fun a b => a.1 ≤ b.1) =
      (sortItems items).map fun kv => (kv.1, kv.2.json) :=
    (List.map_insertionSort _ _ (fun kv : String × Val => (kv.1, kv.2.json)) items fun _ _ _ _ => Iff.rfl).symm
  have hsorted : ((sortItems items).map fun kv => (kv.1, kv.2.json)).Pairwise fun a b => a.1 ≤ b.1 :=
    List.pairwise_map.mpr (pairwise_sortItems items)
  rw [sortedItems, sortedItems, jsonItems_eq_map, jsonItems_eq_map, hsort, hsorted.insertionSort_eq]

mutual
/-- What is read back has the text that it was read from. -/
@[simp] theorem json_sortKeys : ∀ v : Val, v.sortKeys.json = v.json
  | .none => by simp only [sortKeys]
  | .bool b => by simp only [sortKeys]
  | .int i => by simp only [sortKeys]
  | .float f => by simp only [sortKeys]
  | .str s => by simp only [sortKeys]
  | .list xs => by simp only [sortKeys, json, jsonList_sortKeysList xs]
  | .dict items => by simp only [sortKeys, json, sortedItems_sortItems, jsonItems_sortKeysItems items]
theorem jsonList_sortKeysList : ∀ xs : List Val, jsonList (sortKeysList xs) = jsonList xs
  | [] => rfl
  | x :: xs => by simp only [sortKeysList, jsonList, json_sortKeys x, jsonList_sortKeysList xs]
theorem jsonItems_sortKeysItems : ∀ items : List (String × Val), jsonItems (sortKeysItems items) = jsonItems items
  | [] => rfl
  | (k, v) :: rest => by simp only [sortKeysItems, jsonItems, json_sortKeys v, jsonItems_sortKeysItems rest]
end

theorem sortKeysList_eq_map (xs : List Val) : sortKeysList xs = xs.map sortKeys := by
  induction xs with
  | nil => rfl
  | cons x xs ih => rw [sortKeysList, ih, List.map_cons]

theorem eqItems_iff {as bs : List (String × Val)} :
    eqItems as bs = true ↔ ∀ kv ∈ as, ∃ kw ∈ bs, kv.1 = kw.1 ∧ kv.2.eq kw.2 = true := by
  induction as with
  | nil => simp [eqItems]
  | cons a as ih => rw [eqItems, Bool.and_eq_true, ih, List.forall_mem_cons, List.any_eq_true]; simp only [Bool.and_eq_true, beq_iff_eq]

mutual
/-- What is read back equals what was written. -/
theorem eq_of_sortKeys : ∀ v : Val, v.sortKeys.eq v = true
  | .none => eq_refl _
  | .bool _ => eq_refl _
  | .int _ => eq_refl _
  | .float _ => eq_refl _
  | .str _ => eq_refl _
  | .list xs => by
    rw [sortKeys, eq]
    exact eqList_sortKeysList xs
  | .dict items => by
    have hlength : (sortItems (sortKeysItems items)).length = items.length := by
      rw [sortItems, List.length_insertionSort, sortKeysItems_eq_map, List.length_map]
    rw [sortKeys, eq, hlength, beq_self_eq_true, Bool.true_and, eqItems_iff]
    intro kv hkv
    exact eqItem_sortKeysItems items kv ((List.mem_insertionSort _).mp hkv)
theorem eqList_sortKeysList : ∀ xs : List Val, eqList (sortKeysList xs) xs = true
  | [] => by rw [sortKeysList, eqList]
  | x :: xs => by rw [sortKeysList, eqList, eq_of_sortKeys x, eqList_sortKeysList xs, Bool.and_self]
theorem eqItem_sortKeysItems : ∀ (items : List (String × Val)), ∀ kv ∈ sortKeysItems items,
    ∃ kw ∈ items, kv.1 = kw.1 ∧ kv.2.eq kw.2 = true
  | [], kv, h => by rw [sortKeysItems] at h; exact absurd h List.not_mem_nil
  | (k, v) :: items, kv, h => by
    rw [sortKeysItems] at h
    rcases List.mem_cons.mp h with h | h
    · exact ⟨(k, v), List.mem_cons_self, by rw [h], by rw [h]; exact eq_of_sortKeys v⟩
    · obtain ⟨kw, hkw, hkey, heq⟩ := eqItem_sortKeysItems items kv h
      exact ⟨kw, List.mem_cons_of_mem _ hkw, hkey, heq⟩
end

theorem sortKeys_eq_none {v : Val} : v.sortKeys = .none ↔ v = .none := by
  cases v <;> simp [sortKeys]

theorem sortKeys_eq_int {v : Val} {i : Int} : v.sortKeys = .int i ↔ v = .int i := by
  cases v <;> simp [sortKeys]

theorem sortKeys_eq_str {v : Val} {s : String} : v.sortKeys = .str s ↔ v = .str s := by
  cases v <;> simp [sortKeys]

theorem sortKeys_eq_optStr {v : Val} {s : Option String} : v.sortKeys = optStr s ↔ v = optStr s := by
  cases s with
  | none => exact sortKeys_eq_none
  | some s => exact sortKeys_eq_str

/-- Strings are read back as they are. -/
theorem map_sortKeys_eq_str {vs : List Val} {l : List String} : vs.map sortKeys = l.map .str ↔ vs = l.map .str := by
  induction vs generalizing l with
  | nil => cases l <;> simp
  | cons v vs ih =>
    cases l with
    | nil => simp
    | cons s l => rw [List.map_cons, List.map_cons, List.cons.injEq, List.cons.injEq, sortKeys_eq_str, ih]

theorem sortKeys_strList (l : List String) : (strList l).sortKeys = strList l := by
  rw [strList, sortKeys, sortKeysList_eq_map, map_sortKeys_eq_str.mpr rfl]

theorem sortKeys_optStr (s : Option String) : (optStr s).sortKeys = optStr s := sortKeys_eq_optStr.mpr rfl

end Val

namespace Dict

theorem lookup_perm {l l' : List (String × Val)} (h : l.Perm l') (hl : (l.map Prod.fst).Nodup) (k : String) :
    l.lookup k = l'.lookup k := by
  induction h with
  | nil => rfl
  | cons a _ ih =>
    rw [lookup_cons_ite, lookup_cons_ite, ih (List.nodup_cons.mp hl).2]
  | swap a b l =>
    have hne : b.1 ≠ a.1 := fun e => (List.nodup_cons.mp hl).1 (by simp [e])
    rw [lookup_cons_ite, lookup_cons_ite, lookup_cons_ite, lookup_cons_ite]
    by_cases ha : k = a.1
    · rw [if_pos ha, if_pos ha, if_neg fun e => hne (e.symm.trans ha)]
    · rw [if_neg ha, if_neg ha]
  | trans h _ ih ih' => rw [ih hl, ih' ((h.map Prod.fst).nodup_iff.mp hl)]

theorem lookup_map_sortKeys (l : List (String × Val)) (k : String) :
    (l.map fun kv => (kv.1, kv.2.sortKeys)).lookup k = (l.lookup k).map Val.sortKeys := by
  induction l with
  | nil => rfl
  | cons p l ih =>
    rw [List.map_cons, lookup_cons_ite, lookup_cons_ite, ih]
    split <;> rfl

theorem get?_sortKeys (d : Dict) (k : String) : d.sortKeys.get? k = (d.get? k).map Val.sortKeys := by
  have hnodup : ((d.items.map fun kv => (kv.1, kv.2.sortKeys)).map Prod.fst).Nodup := by
    rw [List.map_map]
    exact d.nodup
  have hperm : d.sortKeys.items.Perm (d.items.map fun kv => (kv.1, kv.2.sortKeys)) := List.perm_insertionSort _ _
  rw [get?, get?, ← lookup_perm hperm.symm hnodup, lookup_map_sortKeys]

theorem get_sortKeys (d : Dict) (k : String) : d.sortKeys.get k = (d.get k).sortKeys := by
  rw [get, get, get?_sortKeys]
  cases d.get? k <;> simp [Val.sortKeys]

theorem toVal_sortKeys (d : Dict) : d.toVal.sortKeys = d.sortKeys.toVal := by
  rw [toVal, toVal, Val.sortKeys, Val.sortKeysItems_eq_map]
  rfl

/-- Dictionaries with the same values under their keys are read back alike. -/
theorem sortKeys_congr {d e : Dict} (h : ∀ k, d.get? k = e.get? k) : d.sortKeys = e.sortKeys := by
  have hperm : d.items.Perm e.items := by
    refine (List.perm_ext_iff_of_nodup (List.Nodup.of_map _ d.nodup) (List.Nodup.of_map _ e.nodup)).mpr fun kv => ?_
    rw [← Prod.mk.eta (p := kv), mem_items_iff, mem_items_iff, h]
  refine ext (Keyed.sortBy_eq_of_perm Prod.fst (fun a ha b hb hab => ?_) (hperm.map _))
  have hnodup : ((d.items.map fun kv => (kv.1, kv.2.sortKeys)).map Prod.fst).Nodup := by
    rw [List.map_map]
    exact d.nodup
  exact List.inj_on_of_nodup_map hnodup ha hb hab

theorem sortKeys_list (ds : List Dict) : (Val.list (ds.map toVal)).sortKeys = .list ((ds.map Dict.sortKeys).map toVal) := by
  rw [Val.sortKeys, Val.sortKeysList_eq_map, List.map_map, List.map_map]
  refine congrArg Val.list (List.map_congr_left fun d _ => ?_)
  exact toVal_sortKeys d

theorem mem_keys_sortKeys {d : Dict} {k : String} : k ∈ d.sortKeys.keys ↔ k ∈ d.keys := by
  have hperm : d.sortKeys.items.Perm (d.items.map fun kv => (kv.1, kv.2.sortKeys)) := List.perm_insertionSort _ _
  rw [keys, (hperm.map Prod.fst).mem_iff, List.map_map]
  rfl

theorem toVal_inj {d e : Dict} (h : d.toVal = e.toVal) : d = e := ext (Val.dict.inj h)

/-- A filter on keys and the sorting of them commute. -/
theorem filterKeys_sortKeys (d : Dict) (p : String → Bool) : d.sortKeys.filterKeys p = (d.filterKeys p).sortKeys := by
  have hpair : ∀ l : List (String × Val), (l.map Prod.fst).Nodup → (sortItems l).filter (fun kv => p kv.1) =
      sortItems (l.filter fun kv => p kv.1) := by
    intro l hl
    have hsorted : ((sortItems l).filter fun kv => p kv.1).Pairwise fun a b => a.1 ≤ b.1 :=
      (Val.pairwise_sortItems l).filter _
    have hperm : ((sortItems l).filter fun kv => p kv.1).Perm (l.filter fun kv => p kv.1) :=
      (List.perm_insertionSort _ l).filter _
    rw [← hsorted.insertionSort_eq]
    refine Keyed.sortBy_eq_of_perm Prod.fst (fun a ha b hb e => ?_) hperm
    exact List.inj_on_of_nodup_map hl (List.mem_filter.mp (hperm.mem_iff.mp ha)).1 (List.mem_filter.mp (hperm.mem_iff.mp hb)).1 e
  refine ext ?_
  have hnodup : ((d.items.map fun kv => (kv.1, kv.2.sortKeys)).map Prod.fst).Nodup := by
    rw [List.map_map]
    exact d.nodup
  simp only [filterKeys, sortKeys, hpair _ hnodup, List.filter_map]
  rfl

end Dict

end Py
