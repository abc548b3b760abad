import Pmiri.Python.Value

/-!
# Dictionaries with string keys

A `Dict` is the list of its items in insertion order, together with the proof
that no key occurs twice. Every operation below keeps that proof, so a lookup
never depends on which of two items with one key comes first.

`get` is `d.get(key)`, and also `d[key]` where an earlier check has
established that the key is present; `item` is `d[key]` where it may be
missing. `ofItems` is a dictionary display `{k: v, …}`.
-/

namespace Py

/-- The items after `d[k] = v`. -/
def setItem : List (String × Val) → String → Val → List (String × Val)
  | [], k, v => [(k, v)]
  | (k', v') :: rest, k, v => if k' = k then (k', v) :: rest else (k', v') :: setItem rest k v

theorem lookup_cons_ite {α : Type} (k a : String) (b : α) (l : List (String × α)) :
    List.lookup k ((a, b) :: l) = if k = a then some b else l.lookup k := by
  rw [List.lookup_cons]
  split <;> rename_i h
  · rw [if_pos (beq_iff_eq.mp h)]
  · rw [if_neg (beq_eq_false_iff_ne.mp h)]

theorem mem_of_lookup {κ α : Type} [BEq κ] [LawfulBEq κ] {l : List (κ × α)} {k : κ} {v : α} (h : l.lookup k = some v) :
    (k, v) ∈ l := by
  induction l with
  | nil => cases h
  | cons kv l ih =>
    rw [List.lookup_cons] at h
    split at h <;> rename_i hk
    · cases h
      rw [beq_iff_eq.mp hk]
      exact List.mem_cons_self
    · exact List.mem_cons_of_mem _ (ih h)

theorem mem_keys_setItem {l : List (String × Val)} {k k' : String} {v : Val} :
    k' ∈ (setItem l k v).map Prod.fst ↔ k' ∈ l.map Prod.fst ∨ k' = k := by
  induction l with
  | nil => simp [setItem]
  | cons p l ih =>
    obtain ⟨a, b⟩ := p
    by_cases h : a = k
    · subst h
      simp only [setItem, ↓reduceIte, List.map_cons, List.mem_cons]
      tauto
    · simp only [setItem, h, ↓reduceIte, List.map_cons, List.mem_cons, ih]
      tauto

theorem nodup_setItem {l : List (String × Val)} (k : String) (v : Val) (h : (l.map Prod.fst).Nodup) :
    ((setItem l k v).map Prod.fst).Nodup := by
  induction l with
  | nil => simp [setItem]
  | cons p l ih =>
    obtain ⟨a, b⟩ := p
    rw [List.map_cons, List.nodup_cons] at h
    by_cases e : a = k
    · simpa only [setItem, e, ↓reduceIte, List.map_cons, List.nodup_cons] using e ▸ h
    · rw [setItem, if_neg e, List.map_cons, List.nodup_cons, mem_keys_setItem, not_or]
      exact ⟨⟨h.1, e⟩, ih h.2⟩

theorem lookup_setItem (l : List (String × Val)) (k k' : String) (v : Val) :
    (setItem l k v).lookup k' = if k' = k then some v else l.lookup k' := by
  induction l with
  | nil => rw [setItem, lookup_cons_ite]
  | cons p l ih =>
    obtain ⟨a, b⟩ := p
    by_cases e : a = k
    · subst e
      rw [setItem, if_pos rfl, lookup_cons_ite, lookup_cons_ite]
      split <;> rfl
    · rw [setItem, if_neg e, lookup_cons_ite, lookup_cons_ite, ih]
      by_cases h : k' = k
      · rw [if_pos h, if_pos h, if_neg (fun x => e (x.symm.trans h))]
      · rw [if_neg h, if_neg h]

theorem setItem_of_not_mem {l : List (String × Val)} {k : String} (v : Val) (h : k ∉ l.map Prod.fst) :
    setItem l k v = l ++ [(k, v)] := by
  induction l with
  | nil => rfl
  | cons p l ih =>
    obtain ⟨a, b⟩ := p
    rw [List.map_cons, List.mem_cons, not_or] at h
    simp only [setItem, Ne.symm h.1, ↓reduceIte, ih h.2, List.cons_append]

theorem lookup_isSome_iff {α : Type} {l : List (String × α)} {k : String} :
    (l.lookup k).isSome = true ↔ k ∈ l.map Prod.fst := by
  induction l with
  | nil => simp
  | cons p l ih =>
    obtain ⟨a, b⟩ := p
    by_cases h : k = a <;> simp [lookup_cons_ite, h, ih]

/-- A dictionary with string keys. -/
structure Dict where
  items : List (String × Val)
  nodup : (items.map Prod.fst).Nodup

namespace Dict

/-- `{}` -/
def empty : Dict := ⟨[], List.nodup_nil⟩

instance : Inhabited Dict := ⟨empty⟩

/-- `list(d)` -/
def keys (d : Dict) : List String := d.items.map Prod.fst

/-- The value under `k`, if there is one. -/
def get? (d : Dict) (k : String) : Option Val := d.items.lookup k

/-- `d.get(k)` -/
def get (d : Dict) (k : String) : Val := (d.get? k).getD .none

/-- `d.get(k, default)` -/
def getD (d : Dict) (k : String) (default : Val) : Val := (d.get? k).getD default

/-- `d[k]` -/
def item (d : Dict) (k : String) : Except Exc Val :=
  match d.get? k with
  | some v => .ok v
  | none => .error (.keyError k)

/-- `k in d` -/
def contains (d : Dict) (k : String) : Bool := (d.get? k).isSome

/-- `d[k] = v` -/
def insert (d : Dict) (k : String) (v : Val) : Dict := ⟨setItem d.items k v, nodup_setItem k v d.nodup⟩

/-- `{key: value for key, value in d.items() if p key}` -/
def filterKeys (d : Dict) (p : String → Bool) : Dict :=
  ⟨d.items.filter (fun kv => p kv.1), d.nodup.sublist (List.filter_sublist.map _)⟩

/-- `{key: value for key, value in d.items() if key != k}` -/
def without (d : Dict) (k : String) : Dict := d.filterKeys (· != k)

/-- `{k: v, …}`: a later item replaces an earlier one with its key. -/
def ofItems (l : List (String × Val)) : Dict := l.foldl (fun d p => d.insert p.1 p.2) empty

/-- `{**a, **b}` -/
def merge (a b : Dict) : Dict := b.items.foldl (fun d p => d.insert p.1 p.2) a

/-- The dictionary as a value. -/
def toVal (d : Dict) : Val := .dict d.items

/-- `set(d) == s` -/
def keysAre (d : Dict) (s : List String) : Bool := d.keys.all s.contains && s.all d.contains

/-- `set(d) <= s` -/
def keysWithin (d : Dict) (s : List String) : Bool := d.keys.all s.contains

/-- `a.get(k) == b.get(l)` -/
def agrees (a : Dict) (k : String) (b : Dict) (l : String) : Bool := (a.get k).eq (b.get l)

@[ext] theorem ext {a b : Dict} (h : a.items = b.items) : a = b := by
  cases a; cases b; congr

theorem contains_iff {d : Dict} {k : String} : d.contains k = true ↔ k ∈ d.keys := lookup_isSome_iff

theorem get?_insert (d : Dict) (k k' : String) (v : Val) :
    (d.insert k v).get? k' = if k' = k then some v else d.get? k' := lookup_setItem ..

theorem get_insert (d : Dict) (k k' : String) (v : Val) :
    (d.insert k v).get k' = if k' = k then v else d.get k' := by
  simp only [get, get?_insert]
  split <;> rfl

theorem getD_insert (d : Dict) (k k' : String) (v default : Val) :
    (d.insert k v).getD k' default = if k' = k then v else d.getD k' default := by
  rw [getD, get?_insert]
  split <;> rfl

@[simp] theorem get_insert_self (d : Dict) (k : String) (v : Val) : (d.insert k v).get k = v := by
  rw [get_insert, if_pos rfl]

@[simp] theorem get_empty (k : String) : empty.get k = .none := rfl

theorem mem_keys_insert {d : Dict} {k k' : String} {v : Val} :
    k' ∈ (d.insert k v).keys ↔ k' ∈ d.keys ∨ k' = k := mem_keys_setItem

theorem get?_of_contains {d : Dict} {k : String} (h : d.contains k = true) : d.get? k = some (d.get k) := by
  obtain ⟨v, hv⟩ := Option.isSome_iff_exists.mp h
  rw [get, hv, Option.getD_some]

theorem item_ok {d : Dict} {k : String} {v : Val} : d.item k = .ok v ↔ d.get? k = some v := by
  rw [item]
  split <;> simp [*]

theorem get_of_item {d : Dict} {k : String} {v : Val} (h : d.item k = .ok v) : d.get k = v := by
  rw [get, item_ok.mp h, Option.getD_some]

theorem item_of_contains {d : Dict} {k : String} (h : d.contains k = true) : d.item k = .ok (d.get k) := by
  rw [item, get?_of_contains h]

theorem getD_of_contains {d : Dict} {k : String} (v : Val) (h : d.contains k = true) :
    d.getD k v = d.get k := by
  rw [getD, get?_of_contains h, Option.getD_some]

theorem contains_of_get {d : Dict} {k : String} (h : d.get k ≠ .none) : d.contains k = true := by
  rw [contains, Option.isSome_iff_ne_none]
  exact fun e => h (by rw [get, e, Option.getD_none])

theorem contains_of_str {d : Dict} {k s : String} (h : d.get k = .str s) : d.contains k = true :=
  contains_of_get (by rw [h]; exact Val.noConfusion)

theorem mem_setItem {l : List (String × Val)} {k : String} {v : Val} {kv : String × Val} (h : kv ∈ setItem l k v) :
    kv ∈ l ∨ kv = (k, v) := by
  induction l with
  | nil => exact .inr (List.mem_singleton.mp h)
  | cons a l ih =>
    obtain ⟨k', v'⟩ := a
    rw [setItem] at h
    split at h
    · rename_i e
      rcases List.mem_cons.mp h with rfl | h
      · exact .inr (by rw [e])
      · exact .inl (List.mem_cons_of_mem _ h)
    · rcases List.mem_cons.mp h with rfl | h
      · exact .inl List.mem_cons_self
      · exact (ih h).imp_left (List.mem_cons_of_mem _)

theorem mem_insert_items {d : Dict} {k : String} {v : Val} {kv : String × Val} (h : kv ∈ (d.insert k v).items) :
    kv ∈ d.items ∨ kv = (k, v) := mem_setItem h

/-- What a display holds is one of its items. -/
theorem mem_ofItems {l : List (String × Val)} {kv : String × Val} (h : kv ∈ (ofItems l).items) : kv ∈ l := by
  have hfold : ∀ (l : List (String × Val)) (d : Dict), kv ∈ (l.foldl (fun d p => d.insert p.1 p.2) d).items → kv ∈ d.items ∨ kv ∈ l := by
    intro l
    induction l with
    | nil => exact fun d h => .inl h
    | cons p l ih =>
      intro d h
      rcases ih _ h with h | h
      · rcases mem_insert_items h with h | rfl
        exacts [.inl h, .inr List.mem_cons_self]
      · exact .inr (List.mem_cons_of_mem _ h)
  exact (hfold l empty h).resolve_left List.not_mem_nil

theorem mem_items_iff {d : Dict} {k : String} {v : Val} : (k, v) ∈ d.items ↔ d.get? k = some v := by
  obtain ⟨l, hl⟩ := d
  rw [get?]
  dsimp only at hl ⊢
  induction l with
  | nil => simp
  | cons p l ih =>
    obtain ⟨k', v'⟩ := p
    rw [List.map_cons, List.nodup_cons] at hl
    rw [lookup_cons_ite, List.mem_cons, Prod.mk.injEq, ih hl.2]
    split
    · rename_i e
      subst e
      rw [Option.some.injEq]
      constructor
      · rintro (⟨-, rfl⟩ | h)
        · rfl
        · exact absurd (lookup_isSome_iff.mp (by rw [h]; rfl)) hl.1
      · rintro rfl
        exact .inl ⟨rfl, rfl⟩
    · rename_i e
      exact or_iff_right fun h => e h.1

/-- An item list without repeated keys is the item list of its display. -/
theorem foldl_insert_items (l : List (String × Val)) (d : Dict)
    (h : ((d.items ++ l).map Prod.fst).Nodup) :
    (l.foldl (fun d p => d.insert p.1 p.2) d).items = d.items ++ l := by
  induction l generalizing d with
  | nil => simp
  | cons p l ih =>
    have hp : p.1 ∉ d.items.map Prod.fst := by
      rw [List.map_append, List.map_cons] at h
      exact fun hm => (List.disjoint_of_nodup_append h) hm List.mem_cons_self
    have hi : (d.insert p.1 p.2).items = d.items ++ [p] := setItem_of_not_mem p.2 hp
    rw [List.foldl_cons, ih _ (by rw [hi]; simpa using h), hi, List.append_assoc, List.singleton_append]

theorem ofItems_items {l : List (String × Val)} (h : (l.map Prod.fst).Nodup) : (ofItems l).items = l := by
  rw [ofItems, foldl_insert_items l empty (by simpa [empty] using h)]
  rfl

theorem ofItems_toVal {l : List (String × Val)} (h : (l.map Prod.fst).Nodup) :
    (ofItems l).toVal = .dict l := by
  rw [toVal, ofItems_items h]

/-- A lookup in a display with distinct keys is a lookup in its item list. -/
theorem get?_ofItems {l : List (String × Val)} (h : (l.map Prod.fst).Nodup) (k : String) :
    (ofItems l).get? k = l.lookup k := by
  rw [get?, ofItems_items h]

theorem keys_ofItems {l : List (String × Val)} (h : (l.map Prod.fst).Nodup) :
    (ofItems l).keys = l.map Prod.fst := by
  rw [keys, ofItems_items h]

theorem keysAre_iff {d : Dict} {s : List String} : d.keysAre s = true ↔ ∀ k, k ∈ d.keys ↔ k ∈ s := by
  simp only [keysAre, Bool.and_eq_true, List.all_eq_true, List.contains_iff_mem, contains_iff]
  exact ⟨fun h k => ⟨h.1 k, h.2 k⟩, fun h => ⟨fun k => (h k).mp, fun k => (h k).mpr⟩⟩

theorem keysWithin_iff {d : Dict} {s : List String} : d.keysWithin s = true ↔ ∀ k ∈ d.keys, k ∈ s := by
  simp only [keysWithin, List.all_eq_true, List.contains_iff_mem]

theorem mem_keys_foldl_insert {l : List (String × Val)} {d : Dict} {k : String} :
    k ∈ (l.foldl (fun d p => d.insert p.1 p.2) d).keys ↔ k ∈ d.keys ∨ k ∈ l.map Prod.fst := by
  induction l generalizing d with
  | nil => simp
  | cons p l ih => rw [List.foldl_cons, ih, mem_keys_insert, List.map_cons, List.mem_cons, or_assoc]

theorem get?_foldl_insert {l : List (String × Val)} (hl : (l.map Prod.fst).Nodup) (d : Dict) (k : String) :
    (l.foldl (fun d p => d.insert p.1 p.2) d).get? k = (l.lookup k).or (d.get? k) := by
  induction l generalizing d with
  | nil => rfl
  | cons p l ih =>
    obtain ⟨hp, hl⟩ := List.nodup_cons.mp hl
    rw [List.foldl_cons, ih hl, get?_insert, lookup_cons_ite]
    by_cases hk : k = p.1
    · have hnone : l.lookup k = none := by
        rw [List.lookup_eq_none_iff]
        intro q hq
        rw [bne_iff_ne, hk]
        intro e
        exact hp (List.mem_map.mpr ⟨q, hq, e.symm⟩)
      rw [if_pos hk, if_pos hk, hnone]
      rfl
    · rw [if_neg hk, if_neg hk]

/-- The second dictionary's items replace the first one's. -/
theorem get?_merge (a b : Dict) (k : String) : (a.merge b).get? k = (b.get? k).or (a.get? k) := get?_foldl_insert b.nodup a k

theorem mem_keys_ofItems {l : List (String × Val)} {k : String} : k ∈ (ofItems l).keys ↔ k ∈ l.map Prod.fst := by
  rw [ofItems, mem_keys_foldl_insert]
  simp [keys, empty]

theorem filter_setItem {l : List (String × Val)} {k : String} {v : Val} {p : String → Bool} (h : p k = false) :
    (setItem l k v).filter (fun kv => p kv.1) = l.filter (fun kv => p kv.1) := by
  induction l with
  | nil => simp [setItem, h]
  | cons a l ih =>
    obtain ⟨k', v'⟩ := a
    by_cases e : k' = k
    · subst e
      simp [setItem, h]
    · rw [setItem, if_neg e, List.filter_cons, List.filter_cons, ih]

/-- A filter does not see an item it leaves out. -/
theorem filterKeys_insert {d : Dict} {k : String} {v : Val} {p : String → Bool} (h : p k = false) :
    (d.insert k v).filterKeys p = d.filterKeys p := ext (filter_setItem h)

theorem filter_setItem_of {l : List (String × Val)} {k : String} {v : Val} {p : String → Bool} (h : p k = true) :
    (setItem l k v).filter (fun kv => p kv.1) = setItem (l.filter fun kv => p kv.1) k v := by
  induction l with
  | nil => simp [setItem, h]
  | cons a l ih =>
    obtain ⟨k', v'⟩ := a
    by_cases e : k' = k
    · subst e
      simp [setItem, h]
    · rw [setItem, if_neg e, List.filter_cons, List.filter_cons, ih]
      split
      · rw [setItem, if_neg e]
      · rfl

/-- A filter leaves in what is set under a key that it leaves in. -/
theorem filterKeys_insert_of {d : Dict} {k : String} {v : Val} {p : String → Bool} (h : p k = true) :
    (d.insert k v).filterKeys p = (d.filterKeys p).insert k v := ext (filter_setItem_of h)

theorem filterKeys_self {d : Dict} {p : String → Bool} (h : ∀ k ∈ d.keys, p k = true) : d.filterKeys p = d :=
  ext (List.filter_eq_self.mpr fun kv hkv => h kv.1 (List.mem_map_of_mem hkv))

theorem mem_keys_filterKeys {d : Dict} {p : String → Bool} {k : String} :
    k ∈ (d.filterKeys p).keys ↔ k ∈ d.keys ∧ p k = true := by
  simp only [keys, filterKeys, List.mem_map, List.mem_filter]
  constructor
  · rintro ⟨kv, ⟨hm, hp⟩, rfl⟩
    exact ⟨⟨kv, hm, rfl⟩, hp⟩
  · rintro ⟨⟨kv, hm, rfl⟩, hp⟩
    exact ⟨kv, ⟨hm, hp⟩, rfl⟩

theorem lookup_filter {α : Type} {l : List (String × α)} {p : String → Bool} {k : String} :
    (l.filter fun kv => p kv.1).lookup k = if p k then l.lookup k else none := by
  induction l with
  | nil => simp
  | cons a l ih =>
    obtain ⟨k', v'⟩ := a
    rw [List.filter_cons]
    by_cases e : k = k'
    · subst e
      by_cases hp : p k = true
      · simp [hp]
      · simp [hp, ih]
    · rw [lookup_cons_ite k k', if_neg e, ← ih]
      split
      · rw [lookup_cons_ite, if_neg e]
      · rfl

theorem get?_filterKeys (d : Dict) (p : String → Bool) (k : String) :
    (d.filterKeys p).get? k = if p k then d.get? k else none := lookup_filter

theorem get_filterKeys (d : Dict) (p : String → Bool) (k : String) :
    (d.filterKeys p).get k = if p k then d.get k else .none := by
  rw [get, get?, filterKeys, lookup_filter]
  split <;> rfl

/-- Leaving out a key that was not there before it was set gives the dictionary back. -/
theorem without_insert {d : Dict} {k : String} {v : Val} (h : k ∉ d.keys) : (d.insert k v).without k = d := by
  rw [without, filterKeys_insert (by simp)]
  exact filterKeys_self fun k' hk => bne_iff_ne.mpr fun e => h (e ▸ hk)

/-- Leaving out a key that is not there changes nothing. -/
theorem filterKeys_eq {d e : Dict} {p q : String → Bool} (hd : d = e) (h : ∀ k ∈ d.keys, p k = q k) :
    d.filterKeys p = e.filterKeys q := by
  subst hd
  refine ext (List.filter_congr fun kv hkv => ?_)
  exact h kv.1 (List.mem_map_of_mem hkv)

end Dict

/-- `dict(v)` for a value that is a dictionary. -/
def Val.asDict : Val → Option Dict
  | .dict items => some (Dict.ofItems items)
  | _ => Option.none

/-- `v.get(k)`, for a value that may not be a dictionary. -/
def Val.getOf (v : Val) (k : String) : Except Exc Val :=
  match v.asDict with
  | some d => .ok (d.get k)
  | Option.none => .error (.attributeError "object has no attribute 'get'")

theorem Val.getOf_ok {v w : Val} {k : String} : v.getOf k = .ok w ↔ ∃ d, v.asDict = some d ∧ w = d.get k := by
  unfold Val.getOf
  split <;> rename_i h <;> simp [h, eq_comm]

theorem Val.asDict_toVal (d : Dict) : d.toVal.asDict = some d := by
  rw [Dict.toVal, Val.asDict, Option.some.injEq]
  exact Dict.ext (Dict.ofItems_items d.nodup)

end Py
