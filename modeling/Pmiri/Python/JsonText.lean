import Std.Data.String.ToInt
import Pmiri.Python.Json

/-!
# JSON text is unambiguous

Two values with the same canonical text are the same, up to the order of the
keys in objects. Strings end at a quotation mark that is not escaped, and
numbers before a character that no number has.
-/

namespace Py

/-! ## Strings -/

/-- The characters that are escaped. -/
def escapedChars : List Char := '"' :: '\\' :: (List.range 32).map Char.ofNat

theorem jsonChar_of_not_mem {c : Char} (h : c ∉ escapedChars) : (jsonChar c).toList = [c] := by
  have hcontrol : ¬ c.toNat < 32 := fun hlt => h (by
    refine List.mem_cons_of_mem _ (List.mem_cons_of_mem _ (List.mem_map.mpr ⟨c.toNat, List.mem_range.mpr hlt, ?_⟩))
    exact Char.ofNat_toNat c)
  have hne : ∀ d ∈ escapedChars, c ≠ d := fun d hd e => h (e ▸ hd)
  have h8 : c.toNat ≠ 8 := by omega
  have h12 : c.toNat ≠ 12 := by omega
  have hn : c ≠ '\n' := hne _ (by decide)
  have hr : c ≠ '\r' := hne _ (by decide)
  have ht : c ≠ '\t' := hne _ (by decide)
  simp [jsonChar, hne '"' (by decide), hne '\\' (by decide), hn, hr, ht, h8, h12, hcontrol]

theorem jsonChar_escaped : ∀ c ∈ escapedChars, (jsonChar c).toList.head? = some '\\' ∧ 2 ≤ (jsonChar c).toList.length :=
  List.all_iff_forall_prop.mp (by decide)

theorem eq_of_escaped : ∀ c ∈ escapedChars, ∀ d ∈ escapedChars, (jsonChar c).toList <+: (jsonChar d).toList → c = d := by
  have hall : (escapedChars.all fun c => escapedChars.all fun d =>
      decide ((jsonChar c).toList <+: (jsonChar d).toList → c = d)) = true := by decide +kernel
  intro c hc d hd
  exact of_decide_eq_true (List.all_eq_true.mp (List.all_eq_true.mp hall c hc) d hd)

/-- Of two characters inside a string, neither text begins with the other. -/
theorem eq_of_jsonChar {c d : Char} (h : (jsonChar c).toList <+: (jsonChar d).toList) : c = d := by
  by_cases hc : c ∈ escapedChars <;> by_cases hd : d ∈ escapedChars
  · exact eq_of_escaped c hc d hd h
  · have hlength := h.length_le
    rw [jsonChar_of_not_mem hd, List.length_singleton] at hlength
    have := (jsonChar_escaped c hc).2
    omega
  · obtain ⟨rest, h⟩ := h
    have hhead := (jsonChar_escaped d hd).1
    rw [← h, jsonChar_of_not_mem hc] at hhead
    obtain rfl : c = '\\' := by simpa using hhead
    exact absurd (by decide) hc
  · rw [jsonChar_of_not_mem hc, jsonChar_of_not_mem hd] at h
    exact List.singleton_injective (h.eq_of_length rfl)

theorem jsonChar_append {c d : Char} {r s : List Char} (h : (jsonChar c).toList ++ r = (jsonChar d).toList ++ s) : c = d ∧ r = s := by
  have hprefix : (jsonChar c).toList <+: (jsonChar d).toList ∨ (jsonChar d).toList <+: (jsonChar c).toList :=
    List.prefix_or_prefix_of_prefix (List.prefix_append _ r) (h ▸ List.prefix_append _ s)
  obtain rfl : c = d := hprefix.elim eq_of_jsonChar fun h => (eq_of_jsonChar h).symm
  exact ⟨rfl, List.append_cancel_left h⟩

/-- A quotation mark inside a string is not the end of it. -/
theorem jsonChar_ne_quote (c : Char) (r s : List Char) : (jsonChar c).toList ++ r ≠ '"' :: s := by
  intro h
  by_cases hc : c ∈ escapedChars
  · have hhead := (jsonChar_escaped c hc).1
    cases hcs : (jsonChar c).toList with
    | nil => rw [hcs] at hhead; cases hhead
    | cons d ds =>
      rw [hcs] at hhead h
      obtain rfl : d = '\\' := Option.some.inj hhead
      exact absurd (List.cons.inj h).1 (by decide)
  · rw [jsonChar_of_not_mem hc] at h
    exact hc ((List.cons.inj h).1 ▸ by decide)

theorem toList_jsonStr (s : String) : (jsonStr s).toList = '"' :: (s.toList.flatMap fun c => (jsonChar c).toList) ++ ['"'] := by
  rw [jsonStr, String.toList_append, String.toList_append, String.toList_join, List.flatMap_map]
  rfl

theorem jsonStr_append {a b : String} {r s : List Char} (h : (jsonStr a).toList ++ r = (jsonStr b).toList ++ s) : a = b ∧ r = s := by
  have hchars : ∀ (xs ys : List Char), (xs.flatMap fun c => (jsonChar c).toList) ++ '"' :: r =
      (ys.flatMap fun c => (jsonChar c).toList) ++ '"' :: s → xs = ys ∧ r = s := by
    intro xs
    induction xs with
    | nil =>
      rintro (_ | ⟨y, ys⟩) h
      · exact ⟨rfl, (List.cons.inj h).2⟩
      · rw [List.flatMap_nil, List.nil_append, List.flatMap_cons, List.append_assoc] at h
        exact absurd h.symm (jsonChar_ne_quote _ _ _)
    | cons x xs ih =>
      rintro (_ | ⟨y, ys⟩) h
      · rw [List.flatMap_nil, List.nil_append, List.flatMap_cons, List.append_assoc] at h
        exact absurd h (jsonChar_ne_quote _ _ _)
      · rw [List.flatMap_cons, List.flatMap_cons, List.append_assoc, List.append_assoc] at h
        obtain ⟨rfl, hrest⟩ := jsonChar_append h
        obtain ⟨rfl, hrs⟩ := ih ys hrest
        exact ⟨rfl, hrs⟩
  rw [toList_jsonStr, toList_jsonStr] at h
  simp only [List.cons_append, List.append_assoc, List.nil_append, List.cons.injEq, true_and] at h
  obtain ⟨hab, hrs⟩ := hchars _ _ h
  exact ⟨String.toList_inj.mp hab, hrs⟩

/-! ## Numbers -/

/-- A character that numbers are written with. -/
def isNumberChar (c : Char) : Bool := isAsciiDigit c || "+-.e".toList.contains c

/-- Nothing comes, or what ends a value. -/
def Ends (r : List Char) : Prop := ∀ c ∈ r.head?, c ∈ [',', ']', '\x7d', '\n']

theorem Ends.not_number {r : List Char} (h : Ends r) : ∀ c ∈ r.head?, isNumberChar c = false := by
  intro c hc
  have hmem := h c hc
  simp only [List.mem_cons, List.not_mem_nil, or_false] at hmem
  rcases hmem with rfl | rfl | rfl | rfl <;> rfl

/-- A number is read up to where the next value or the end of an array or object may come. -/
theorem number_append {a b r s : List Char} (ha : ∀ c ∈ a, isNumberChar c = true) (hb : ∀ c ∈ b, isNumberChar c = true)
    (hr : Ends r) (hs : Ends s) (h : a ++ r = b ++ s) : a = b ∧ r = s := by
  have htake : ∀ {a r : List Char}, (∀ c ∈ a, isNumberChar c = true) → Ends r → (a ++ r).takeWhile isNumberChar = a := by
    intro a r ha hr
    rw [List.takeWhile_append_of_pos ha]
    cases r with
    | nil => simp
    | cons c r => rw [List.takeWhile_cons_of_neg (by simp [hr.not_number c rfl]), List.append_nil]
  have hab : a = b := by rw [← htake ha hr, h, htake hb hs]
  subst hab
  exact ⟨rfl, List.append_cancel_left h⟩

theorem mem_toString {i : Int} {c : Char} (hc : c ∈ (toString i).toList) : isAsciiDigit c = true ∨ c = '-' := by
  have hdigits : ∀ n : Nat, ∀ c ∈ n.repr.toList, isAsciiDigit c = true := by
    intro n c hc
    rw [Nat.toList_repr] at hc
    have hdigit := Nat.isDigit_of_mem_toDigits (by decide) (by decide) hc
    rw [Char.isDigit, Bool.and_eq_true, decide_eq_true_iff, decide_eq_true_iff] at hdigit
    rw [isAsciiDigit, Bool.and_eq_true, decide_eq_true_iff, decide_eq_true_iff]
    exact hdigit
  cases i with
  | ofNat n => exact .inl (hdigits n c hc)
  | negSucc n =>
    rw [show (toString (Int.negSucc n)).toList = '-' :: (n + 1).repr.toList by
      rw [show toString (Int.negSucc n) = "-" ++ (n + 1).repr from rfl, String.toList_append]
      rfl] at hc
    rcases List.mem_cons.mp hc with rfl | hc
    · exact .inr rfl
    · exact .inl (hdigits _ c hc)

theorem isNumberChar_toString (i : Int) : ∀ c ∈ (toString i).toList, isNumberChar c = true := by
  intro c hc
  rcases mem_toString hc with hdigit | rfl
  · rw [isNumberChar, hdigit, Bool.true_or]
  · rfl

theorem toString_ne_empty (i : Int) : toString i ≠ "" := by
  cases i with
  | ofNat n => exact Nat.repr_ne_empty
  | negSucc n =>
    intro h
    have := congrArg String.toList h
    rw [show toString (Int.negSucc n) = "-" ++ (n + 1).repr from rfl, String.toList_append] at this
    cases this

/-! ## Values -/

/-- A float as it is printed: with a point or an exponent, and for the number it stands for. -/
structure Double.Printed (reads : String → Rat) (f : Double) : Prop where
  number : ∀ c ∈ f.text.toList, isNumberChar c = true
  notInt : ∀ i : Int, toString i ≠ f.text
  value : f.value = reads f.text

namespace Val

mutual
/-- All floats of a value are as they are printed. -/
def Printed (reads : String → Rat) : Val → Prop
  | .float f => f.Printed reads
  | .list xs => PrintedList reads xs
  | .dict items => PrintedItems reads items
  | _ => True
def PrintedList (reads : String → Rat) : List Val → Prop
  | [] => True
  | x :: xs => x.Printed reads ∧ PrintedList reads xs
def PrintedItems (reads : String → Rat) : List (String × Val) → Prop
  | [] => True
  | (_, v) :: rest => v.Printed reads ∧ PrintedItems reads rest
end

variable {reads : String → Rat}

theorem printedList_iff {xs : List Val} : PrintedList reads xs ↔ ∀ x ∈ xs, x.Printed reads := by
  induction xs with
  | nil => simp [PrintedList]
  | cons x xs ih => simp [PrintedList, ih]

theorem printedItems_iff {items : List (String × Val)} : PrintedItems reads items ↔ ∀ kv ∈ items, kv.2.Printed reads := by
  induction items with
  | nil => simp [PrintedItems]
  | cons kv items ih => simp [PrintedItems, ih]

theorem printed_toVal {d : Dict} : d.toVal.Printed reads ↔ ∀ kv ∈ d.items, kv.2.Printed reads := by
  rw [Dict.toVal, Printed, printedItems_iff]

theorem printed_filterKeys {d : Dict} (h : d.toVal.Printed reads) (p : String → Bool) : (d.filterKeys p).toVal.Printed reads :=
  printed_toVal.mpr fun kv hkv => printed_toVal.mp h kv (List.mem_filter.mp hkv).1

theorem printed_insert {d : Dict} (h : d.toVal.Printed reads) {k : String} {v : Val} (hv : v.Printed reads) :
    (d.insert k v).toVal.Printed reads := by
  refine printed_toVal.mpr fun kv hkv => ?_
  rcases Dict.mem_insert_items hkv with hkv | rfl
  exacts [printed_toVal.mp h kv hkv, hv]

theorem printed_ofItems {l : List (String × Val)} (h : ∀ kv ∈ l, kv.2.Printed reads) : (Dict.ofItems l).toVal.Printed reads :=
  printed_toVal.mpr fun kv hkv => h kv (Dict.mem_ofItems hkv)

theorem printed_get {d : Dict} (h : d.toVal.Printed reads) (k : String) : (d.get k).Printed reads := by
  rw [Dict.get]
  rcases hk : d.get? k with _ | v
  · trivial
  · exact printed_toVal.mp h _ (Dict.mem_items_iff.mpr hk)

theorem printed_asDict {v : Val} (h : v.Printed reads) {d : Dict} (hd : v.asDict = some d) : d.toVal.Printed reads := by
  cases v with
  | dict items =>
    obtain rfl := Option.some.inj hd
    exact printed_ofItems (printedItems_iff.mp h)
  | _ => cases hd

theorem printed_strList (l : List String) : (strList l).Printed reads :=
  printedList_iff.mpr (List.forall_mem_map.mpr fun _ _ => trivial)

mutual
/-- Reading back keeps floats as they are printed. -/
theorem printed_sortKeys : ∀ {v : Val}, v.Printed reads → v.sortKeys.Printed reads
  | .none, _ | .bool _, _ | .int _, _ | .str _, _ => by
    rw [sortKeys]
    trivial
  | .float f, h => by
    rw [sortKeys]
    exact h
  | .list xs, h => by
    rw [sortKeys]
    exact printedList_sortKeys h
  | .dict items, h => by
    rw [sortKeys]
    refine printedItems_iff.mpr fun kv hkv => ?_
    exact printedItems_iff.mp (printedItems_sortKeys h) kv ((List.mem_insertionSort _).mp hkv)
theorem printedList_sortKeys : ∀ {xs : List Val}, PrintedList reads xs → PrintedList reads (sortKeysList xs)
  | [], _ => trivial
  | _ :: _, h => ⟨printed_sortKeys h.1, printedList_sortKeys h.2⟩
theorem printedItems_sortKeys : ∀ {items : List (String × Val)}, PrintedItems reads items → PrintedItems reads (sortKeysItems items)
  | [], _ => trivial
  | (_, _) :: _, h => ⟨printed_sortKeys h.1, printedItems_sortKeys h.2⟩
end

/-! What a value begins with tells what it is. -/

/-- The values that begin with a character. -/
def charKind (c : Char) : Nat :=
  if c = 'n' then 0 else if c = 't' then 1 else if c = 'f' then 2 else if c = '"' then 3 else if c = '[' then 4
  else if c = '\x7b' then 5 else 6

def kind : Val → Nat
  | .none => 0
  | .bool b => if b then 1 else 2
  | .str _ => 3
  | .list _ => 4
  | .dict _ => 5
  | .int _ | .float _ => 6

theorem charKind_number {c : Char} (h : isNumberChar c = true) : charKind c = 6 := by
  have hnone : ∀ d ∈ "ntf\"[\x7b".toList, isNumberChar d = false :=
    List.all_iff_forall_prop.mp (by decide)
  have hne : ∀ d ∈ "ntf\"[\x7b".toList, c ≠ d := by
    rintro d hd rfl
    rw [hnone c hd] at h
    cases h
  simp [charKind, hne _ (show 'n' ∈ _ by decide), hne _ (show 't' ∈ _ by decide), hne _ (show 'f' ∈ _ by decide),
    hne _ (show '"' ∈ _ by decide), hne _ (show '[' ∈ _ by decide), hne _ (show '\x7b' ∈ _ by decide)]

theorem json_head {v : Val} (h : v.Printed reads) :
    ∃ c rest, v.json.toList = c :: rest ∧ charKind c = v.kind ∧ c ∉ [',', ']', '\x7d'] := by
  have hnumber : ∀ t : String, t ≠ "" → (∀ c ∈ t.toList, isNumberChar c = true) →
      ∃ c rest, t.toList = c :: rest ∧ charKind c = 6 ∧ c ∉ [',', ']', '\x7d'] := by
    intro t hne hchars
    cases ht : t.toList with
    | nil => exact absurd (String.toList_inj.mp ht) hne
    | cons c rest =>
      have hc := hchars c (ht ▸ List.mem_cons_self)
      refine ⟨c, rest, rfl, charKind_number hc, fun hmem => ?_⟩
      have hends : Ends [c] := fun d hd => by
        obtain rfl : c = d := Option.some.inj hd
        exact List.mem_append_left ['\n'] hmem
      rw [hends.not_number c rfl] at hc
      cases hc
  cases v with
  | none => exact ⟨'n', _, rfl, rfl, by decide⟩
  | bool b => cases b <;> exact ⟨_, _, rfl, rfl, by decide⟩
  | int i => exact hnumber _ (toString_ne_empty i) (isNumberChar_toString i)
  | float f =>
    simp only [Printed] at h
    exact hnumber f.text f.text_ne h.number
  | str s => exact ⟨'"', _, toList_jsonStr s, rfl, by decide⟩
  | list xs => exact ⟨'[', _, by rw [json, String.toList_append, String.toList_append]; rfl, rfl, by decide⟩
  | dict items => exact ⟨'\x7b', _, by rw [json, String.toList_append, String.toList_append]; rfl, rfl, by decide⟩

theorem kind_eq {v w : Val} (hv : v.Printed reads) (hw : w.Printed reads) {r s : List Char}
    (h : v.json.toList ++ r = w.json.toList ++ s) : v.kind = w.kind := by
  obtain ⟨c, rest, hc, hkind, -⟩ := json_head hv
  obtain ⟨d, rest', hd, hkind', -⟩ := json_head hw
  rw [hc, hd] at h
  rw [← hkind, ← hkind', (List.cons.inj h).1]

/-! ### Arrays and objects -/

/-- What follows the first text of a sequence. -/
def more : List (List Char) → List Char
  | [] => []
  | t :: ts => ',' :: [','].intercalate (t :: ts)

theorem intercalate_cons (t : List Char) (ts : List (List Char)) : [','].intercalate (t :: ts) = t ++ more ts := by
  cases ts with
  | nil => rw [List.intercalate_singleton, more, List.append_nil]
  | cons u us => rw [List.intercalate_cons_cons, more, List.append_assoc]; rfl

theorem ends_more {close : Char} (hclose : close ∈ [']', '\x7d']) (ts : List (List Char)) (r : List Char) :
    Ends (more ts ++ close :: r) := by
  cases ts with
  | nil =>
    rintro c ⟨⟩
    exact List.mem_cons_of_mem _ (List.mem_append_left ['\n'] hclose)
  | cons t ts =>
    rintro c ⟨⟩
    exact List.mem_cons_self

theorem map_eq_of_forall₂ {α β : Type} {f : α → β} {xs ys : List α} (h : List.Forall₂ (fun x y => f x = f y) xs ys) :
    xs.map f = ys.map f := by
  induction h with
  | nil => rfl
  | cons h _ ih => rw [List.map_cons, List.map_cons, h, ih]

/-- Texts that are told apart one by one are told apart in a sequence that ends with `close`. -/
theorem intercalate_append {α : Type} {text : α → List Char} {R : α → α → Prop} {close : Char} (hclose : close ∈ [']', '\x7d'])
    {xs ys : List α} (hxs : ∀ x ∈ xs, ∀ y ∈ ys, ∀ r s, Ends r → Ends s → text x ++ r = text y ++ s → R x y ∧ r = s)
    (hne : ∀ x ∈ xs ++ ys, ∀ r s, text x ++ r ≠ close :: s) {r s : List Char}
    (h : [','].intercalate (xs.map text) ++ close :: r = [','].intercalate (ys.map text) ++ close :: s) :
    List.Forall₂ R xs ys ∧ r = s := by
  have hcomma : close ≠ ',' := by
    rintro rfl
    exact absurd hclose (by decide)
  induction xs generalizing ys with
  | nil =>
    cases ys with
    | nil => exact ⟨.nil, (List.cons.inj h).2⟩
    | cons y ys =>
      rw [List.map_cons, intercalate_cons, List.append_assoc] at h
      exact absurd h.symm (hne y (by simp) _ _)
  | cons x xs ih =>
    cases ys with
    | nil =>
      rw [List.map_cons, intercalate_cons, List.append_assoc] at h
      exact absurd h (hne x (by simp) _ _)
    | cons y ys =>
      rw [List.map_cons, List.map_cons, intercalate_cons, intercalate_cons, List.append_assoc, List.append_assoc] at h
      obtain ⟨hxy, hmore⟩ := hxs x (by simp) y (by simp) _ _ (ends_more hclose _ _) (ends_more hclose _ _) h
      cases xs with
      | nil =>
        cases ys with
        | nil => exact ⟨.cons hxy .nil, (List.cons.inj hmore).2⟩
        | cons y' ys => exact absurd (List.cons.inj hmore).1 hcomma
      | cons x' xs =>
        cases ys with
        | nil => exact absurd (List.cons.inj hmore).1.symm hcomma
        | cons y' ys =>
          have hrest : ∀ u ∈ (x' :: xs) ++ (y' :: ys), u ∈ (x :: x' :: xs) ++ (y :: y' :: ys) := fun u hu => by
            simp only [List.cons_append, List.mem_cons, List.mem_append] at hu ⊢
            tauto
          obtain ⟨hall, hrs⟩ := @ih (y' :: ys) (fun u hu v hv => hxs u (List.mem_cons_of_mem _ hu) v (List.mem_cons_of_mem _ hv))
            (fun u hu => hne u (hrest u hu)) (List.cons.inj hmore).2
          exact ⟨.cons hxy hall, hrs⟩

/-- The text of an item of an object. -/
def itemText (kv : String × Val) : List Char := (jsonStr kv.1).toList ++ ':' :: kv.2.json.toList

theorem toList_json_list (xs : List Val) : (json (.list xs)).toList = '[' :: [','].intercalate (xs.map fun x => x.json.toList) ++ [']'] := by
  have hmap : jsonList xs = xs.map json := by
    induction xs with
    | nil => rfl
    | cons x xs ih => rw [jsonList, ih, List.map_cons]
  rw [json, String.toList_append, String.toList_append, String.toList_intercalate, hmap, List.map_map]
  rfl

theorem toList_json_dict (items : List (String × Val)) :
    (json (.dict items)).toList = '\x7b' :: [','].intercalate ((sortItems items).map itemText) ++ ['\x7d'] := by
  have hsort : sortedItems (jsonItems items) = (sortItems items).map fun kv => jsonStr kv.1 ++ ":" ++ kv.2.json := by
    rw [sortedItems, jsonItems_eq_map, sortItems, ← List.map_insertionSort (fun a b : String × Val => a.1 ≤ b.1)
      (fun a b : String × String => a.1 ≤ b.1) (fun kv : String × Val => (kv.1, kv.2.json)) items fun _ _ _ _ => Iff.rfl, List.map_map]
    rfl
  have hitem : (String.toList ∘ fun kv : String × Val => jsonStr kv.1 ++ ":" ++ kv.2.json) = itemText := by
    funext kv
    rw [Function.comp_apply, String.toList_append, String.toList_append, itemText, List.append_assoc]
    rfl
  rw [json, String.toList_append, String.toList_append, String.toList_intercalate, hsort, List.map_map, hitem]
  rfl

/-! ### Every value -/

/-- The text of a value, with what follows it, tells the value. -/
theorem json_append {v w : Val} (hv : v.Printed reads) (hw : w.Printed reads) {r s : List Char} (hr : Ends r) (hs : Ends s)
    (h : v.json.toList ++ r = w.json.toList ++ s) : v.sortKeys = w.sortKeys ∧ r = s := by
  induction hn : sizeOf v using Nat.strong_induction_on generalizing v w r s with
  | _ n ih =>
  subst hn
  have hkind := kind_eq hv hw h
  cases v with
  | none =>
    cases w with
    | none => exact ⟨rfl, List.append_cancel_left h⟩
    | _ => grind [kind]
  | bool b =>
    cases w with
    | bool b' =>
      obtain rfl : b = b' := by grind [kind]
      exact ⟨rfl, List.append_cancel_left h⟩
    | _ => grind [kind]
  | int i =>
    cases w with
    | int j =>
      obtain ⟨hij, hrs⟩ := number_append (isNumberChar_toString i) (isNumberChar_toString j) hr hs h
      exact ⟨congrArg (fun k => (Val.int k).sortKeys) (Int.repr_injective (String.toList_inj.mp hij)), hrs⟩
    | float f =>
      simp only [Printed] at hw
      obtain ⟨hif, -⟩ := number_append (isNumberChar_toString i) hw.number hr hs h
      exact absurd (String.toList_inj.mp hif) (hw.notInt i)
    | _ => grind [kind]
  | float f =>
    simp only [Printed] at hv
    cases w with
    | int j =>
      obtain ⟨hfj, -⟩ := number_append hv.number (isNumberChar_toString j) hr hs h
      exact absurd (String.toList_inj.mp hfj).symm (hv.notInt j)
    | float g =>
      simp only [Printed] at hw
      obtain ⟨hfg, hrs⟩ := number_append hv.number hw.number hr hs h
      have htext := String.toList_inj.mp hfg
      have hvalue : f.value = g.value := by rw [hv.value, hw.value, htext]
      obtain ⟨text, value, _⟩ := f
      obtain ⟨text', value', _⟩ := g
      obtain rfl : text = text' := htext
      obtain rfl : value = value' := hvalue
      exact ⟨rfl, hrs⟩
    | _ => grind [kind]
  | str a =>
    cases w with
    | str b =>
      obtain ⟨rfl, hrs⟩ := jsonStr_append h
      exact ⟨rfl, hrs⟩
    | _ => grind [kind]
  | list xs =>
    cases w with
    | list ys =>
      simp only [Printed, printedList_iff] at hv hw
      rw [toList_json_list, toList_json_list] at h
      simp only [List.cons_append, List.append_assoc, List.nil_append, List.cons.injEq, true_and] at h
      have hclose : ∀ x ∈ xs ++ ys, ∀ r s, x.json.toList ++ r ≠ ']' :: s := by
        intro x hx r s hx'
        have hprinted : x.Printed reads := (List.mem_append.mp hx).elim (hv x) (hw x)
        obtain ⟨c, rest, hc, -, hne⟩ := json_head hprinted
        rw [hc] at hx'
        obtain rfl : c = ']' := (List.cons.inj hx').1
        exact hne (by decide)
      obtain ⟨hall, hrs⟩ := intercalate_append (R := fun x y => x.sortKeys = y.sortKeys) (by decide)
        (fun x hx y hy r s hr hs hxy => ih _ (by have := List.sizeOf_lt_of_mem hx; grind) (hv x hx) (hw y hy) hr hs hxy rfl) hclose h
      exact ⟨by rw [sortKeys, sortKeys, sortKeysList_eq_map, sortKeysList_eq_map, map_eq_of_forall₂ hall], hrs⟩
    | _ => grind [kind]
  | dict items =>
    cases w with
    | dict items' =>
      simp only [Printed, printedItems_iff] at hv hw
      rw [toList_json_dict, toList_json_dict] at h
      simp only [List.cons_append, List.append_assoc, List.nil_append, List.cons.injEq, true_and] at h
      have hclose : ∀ kv ∈ sortItems items ++ sortItems items', ∀ r s, itemText kv ++ r ≠ '\x7d' :: s := by
        intro kv _ r s hkv
        rw [itemText, toList_jsonStr] at hkv
        exact absurd (List.cons.inj hkv).1 (by decide)
      have hmem : ∀ {kv : String × Val} {l}, kv ∈ sortItems l → kv ∈ l := fun h => (List.mem_insertionSort _).mp h
      have hitem : ∀ x ∈ sortItems items, ∀ y ∈ sortItems items', ∀ r s, Ends r → Ends s → itemText x ++ r = itemText y ++ s →
          (x.1, x.2.sortKeys) = (y.1, y.2.sortKeys) ∧ r = s := by
        intro x hx y hy r s hr hs hxy
        rw [itemText, itemText, List.append_assoc, List.append_assoc] at hxy
        obtain ⟨hkey, hrest⟩ := jsonStr_append hxy
        have hsize : sizeOf x.2 < sizeOf (Val.dict items) := by
          have := List.sizeOf_lt_of_mem (hmem hx)
          obtain ⟨k, v⟩ := x
          grind
        obtain ⟨hvalue, hrs⟩ := ih _ hsize (hv x (hmem hx)) (hw y (hmem hy)) hr hs (List.cons.inj hrest).2 rfl
        exact ⟨Prod.ext hkey hvalue, hrs⟩
      obtain ⟨hall, hrs⟩ := intercalate_append (R := fun x y : String × Val => (x.1, x.2.sortKeys) = (y.1, y.2.sortKeys)) (by decide)
        hitem hclose h
      refine ⟨?_, hrs⟩
      rw [sortKeys, sortKeys, sortKeysItems_eq_map, sortKeysItems_eq_map, sortItems_map, sortItems_map, map_eq_of_forall₂ hall]
    | _ => grind [kind]

/-- Values with the same text are the same up to the order of keys. -/
theorem json_injective {v w : Val} (hv : v.Printed reads) (hw : w.Printed reads) (h : v.json = w.json) : v.sortKeys = w.sortKeys :=
  (json_append hv hw (r := []) (s := []) nofun nofun (by rw [h])).1

end Val

end Py
