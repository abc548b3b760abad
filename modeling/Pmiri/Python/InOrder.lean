import Pmiri.Python.Json
import Pmiri.Python.JsonRead
import Pmiri.Python.Order

/-!
# Values in order

What is read back of a value has the keys of its objects in order. Tests of
values and dictionaries come out on it as on the value.
-/

namespace Py

namespace Val

/-- What equals a scalar does not depend on an order. -/
theorem eq_sortKeys {w : Val} (hw : w.hashable = true) (v : Val) : v.sortKeys.eq w = v.eq w := by
  cases v with
  | list xs | dict xs =>
    cases w with
    | list ys | dict ys => cases hw
    | _ => simp [sortKeys, eq]
  | _ => rw [sortKeys]

theorem eq_str_sortKeys (v : Val) (s : String) : v.sortKeys.eq (.str s) = v.eq (.str s) := eq_sortKeys rfl v

/-- Nor does what equals a dictionary of scalars. -/
theorem eq_toVal_sortKeys {d : Dict} (hd : ∀ kv ∈ d.items, kv.2.hashable = true) (v : Val) : v.sortKeys.eq d.toVal = v.eq d.toVal := by
  cases v with
  | dict items =>
    have hperm : (sortItems (sortKeysItems items)).Perm (items.map fun kv => (kv.1, kv.2.sortKeys)) :=
      sortKeysItems_eq_map items ▸ List.perm_insertionSort _ _
    have hitems : eqItems (sortItems (sortKeysItems items)) d.items = eqItems items d.items := by
      rw [Bool.eq_iff_iff, eqItems_iff, eqItems_iff]
      simp only [hperm.mem_iff, List.forall_mem_map]
      refine forall₂_congr fun kv _ => exists_congr fun kw => and_congr_right fun hkw => ?_
      rw [eq_sortKeys (hd kw hkw)]
    rw [sortKeys, Dict.toVal, eq, eq, hitems, hperm.length_eq, List.length_map]
  | list xs => rw [sortKeys, Dict.toVal, eq, eq] <;> simp
  | _ => rw [sortKeys]

theorem isNonemptyStr_sortKeys (v : Val) : v.sortKeys.isNonemptyStr = v.isNonemptyStr := by
  cases v <;> simp [sortKeys, isNonemptyStr]

theorem isStrList_sortKeys (v : Val) : v.sortKeys.isStrList = v.isStrList := by
  cases v with
  | list xs =>
    rw [sortKeys, sortKeysList_eq_map, isStrList, isStrList, List.all_map]
    exact congrArg xs.all (funext isNonemptyStr_sortKeys)
  | _ => simp [sortKeys, isStrList]

theorem isNonemptyList_sortKeys (v : Val) : v.sortKeys.isNonemptyList = v.isNonemptyList := by
  cases v <;> simp [sortKeys, sortKeysList_eq_map, isNonemptyList]

theorem isIn_sortKeys (v : Val) (s : List String) : v.sortKeys.isIn s = v.isIn s := by
  cases v <;> simp [sortKeys, isIn]

theorem strText_sortKeys (v : Val) : v.sortKeys.strText = v.strText := by
  cases v <;> simp [sortKeys, strText]

theorem asDict_sortKeys [FloatText] {v : Val} (h : v.Readable) : v.sortKeys.asDict = v.asDict.map Dict.sortKeys := by
  cases v with
  | dict items =>
    rw [Readable] at h
    have hdict : Val.dict items = (Dict.mk items h.1).toVal := rfl
    rw [hdict, Dict.toVal_sortKeys, asDict_toVal, asDict_toVal, Option.map_some]
  | _ => simp [sortKeys, asDict]

end Val

theorem differs_sortKeys (d : Dict) (key s : String) : differs d.sortKeys key s = differs d key s := by
  rw [differs, differs, Dict.get_sortKeys, Val.eq_str_sortKeys]

namespace Dict

theorem contains_sortKeys (d : Dict) (key : String) : d.sortKeys.contains key = d.contains key := by
  rw [Bool.eq_iff_iff, contains_iff, contains_iff, mem_keys_sortKeys]

theorem keysAre_sortKeys (d : Dict) (names : List String) : d.sortKeys.keysAre names = d.keysAre names := by
  rw [Bool.eq_iff_iff, keysAre_iff, keysAre_iff]
  simp only [mem_keys_sortKeys]

/-- A value without an order may be put into the dictionary before it is put in order, or after. -/
theorem insert_sortKeys (d : Dict) (k : String) {v : Val} (hv : v.sortKeys = v) : (d.sortKeys.insert k v).sortKeys = (d.insert k v).sortKeys := by
  rw [← sortKeys_sortKeys (d.insert k v)]
  refine sortKeys_congr fun key => ?_
  rw [get?_insert, get?_sortKeys, get?_sortKeys, get?_insert]
  split
  · rw [Option.map_some, hv]
  · rfl

/-- No value of the dictionary has an order. -/
def Settled (d : Dict) : Prop := ∀ k, (d.get k).sortKeys = d.get k

theorem Settled.get {d : Dict} (h : d.Settled) : d.sortKeys.get = d.get := funext fun k => (get_sortKeys d k).trans (h k)

theorem Settled.getD {d : Dict} (h : d.Settled) (k : String) (v : Val) : d.sortKeys.getD k v = d.getD k v := by
  have hsettled := h k
  rw [Dict.getD, Dict.getD, get?_sortKeys]
  rw [Dict.get] at hsettled
  cases hk : d.get? k with
  | none => rfl
  | some w =>
    rw [hk] at hsettled
    exact hsettled

theorem settled_ofItems {l : List (String × Val)} (h : ∀ kv ∈ l, kv.2.sortKeys = kv.2) : (ofItems l).Settled := by
  intro k
  rw [Dict.get]
  cases hk : (ofItems l).get? k with
  | none => rfl
  | some v => exact h (k, v) (mem_ofItems (mem_items_iff.mpr hk))

theorem Settled.insert {d : Dict} (h : d.Settled) (k : String) {v : Val} (hv : v.sortKeys = v) : (d.insert k v).Settled := by
  intro k'
  rw [get_insert]
  split
  exacts [hv, h k']

end Dict

end Py
