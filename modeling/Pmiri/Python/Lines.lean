import Mathlib.Algebra.GroupWithZero.Nat
import Pmiri.Python.JsonText
import Pmiri.Python.Text

/-!
# Lines of JSON

A text of lines that each end in a line feed, and what `splitlines` makes of
it. JSON text escapes the control characters below U+0020, but not U+0085,
U+2028 and U+2029, which end a line for `splitlines` too.
-/

namespace Py

/-! ## Lines -/

/-- The text of some lines. -/
def terminated (lines : List (List Char)) : List Char := lines.flatMap fun line => line ++ ['\n']

@[simp] theorem terminated_cons (line : List Char) (lines : List (List Char)) :
    terminated (line :: lines) = line ++ '\n' :: terminated lines := by
  rw [terminated, List.flatMap_cons, List.append_assoc, List.singleton_append, terminated]

theorem mem_terminated {lines : List (List Char)} {c : Char} (h : c ∈ terminated lines) : c = '\n' ∨ ∃ line ∈ lines, c ∈ line := by
  obtain ⟨line, hline, hc⟩ := List.mem_flatMap.mp h
  rcases List.mem_append.mp hc with hc | hc
  · exact .inr ⟨line, hline, hc⟩
  · exact .inl (List.mem_singleton.mp hc)

theorem splitlinesFrom_cons_of_break {c : Char} (h : isLineBreak c = true) (hr : c ≠ '\r') (cs : List Char) :
    splitlinesFrom false (c :: cs) = [] :: splitlinesFrom false cs := by
  rw [splitlinesFrom, Bool.false_and, if_neg (by decide), if_pos h, beq_false_of_ne hr]

/-- A line without a break in it is split off. -/
theorem splitlinesFrom_line {line : List Char} (h : ∀ c ∈ line, isLineBreak c = false) (rest : List Char) :
    splitlinesFrom false (line ++ '\n' :: rest) = line :: splitlinesFrom false rest := by
  induction line with
  | nil => exact splitlinesFrom_cons_of_break (by decide) (by decide) rest
  | cons c line ih =>
    have hc := h c List.mem_cons_self
    rw [List.cons_append, splitlinesFrom, Bool.false_and, if_neg (by decide), hc, if_neg (by decide),
      ih fun d hd => h d (List.mem_cons_of_mem _ hd)]

theorem splitlines_terminated {lines : List (List Char)} (h : ∀ line ∈ lines, ∀ c ∈ line, isLineBreak c = false) :
    splitlines (terminated lines) = lines := by
  rw [splitlines]
  induction lines with
  | nil => rfl
  | cons line lines ih =>
    rw [terminated_cons, splitlinesFrom_line (h line List.mem_cons_self), ih fun l hl => h l (List.mem_cons_of_mem _ hl)]

/-- Every break in a line makes one more. -/
theorem length_splitlinesFrom {line : List Char} (h : '\r' ∉ line) (rest : List Char) :
    (splitlinesFrom false (line ++ '\n' :: rest)).length = line.countP isLineBreak + 1 + (splitlinesFrom false rest).length := by
  induction line with
  | nil =>
    rw [List.nil_append, splitlinesFrom_cons_of_break (by decide) (by decide), List.length_cons, List.countP_nil]
    omega
  | cons c line ih =>
    rw [List.mem_cons, not_or] at h
    have hlength := ih h.2
    cases hc : isLineBreak c with
    | true =>
      rw [List.cons_append, splitlinesFrom_cons_of_break hc (Ne.symm h.1), List.length_cons, hlength, List.countP_cons_of_pos hc]
      omega
    | false =>
      rw [List.cons_append, splitlinesFrom, Bool.false_and, if_neg (by decide), hc, if_neg (by decide),
        List.countP_cons_of_neg (by simp [hc])]
      split
      · rename_i hnil
        rw [hnil, List.length_nil] at hlength
        omega
      · rename_i hcons
        rw [hcons] at hlength
        exact hlength

theorem length_splitlines_terminated {lines : List (List Char)} (h : ∀ line ∈ lines, '\r' ∉ line) :
    (splitlines (terminated lines)).length = lines.length + (lines.map (List.countP isLineBreak)).sum := by
  rw [splitlines]
  induction lines with
  | nil => rfl
  | cons line lines ih =>
    rw [terminated_cons, length_splitlinesFrom (h line List.mem_cons_self), ih fun l hl => h l (List.mem_cons_of_mem _ hl),
      List.length_cons, List.map_cons, List.sum_cons]
    omega

/-! ## Breaks in JSON text -/

/-- A line break that JSON text does not escape. -/
def isRawBreak (c : Char) : Bool := c == '\u0085' || c == '\u2028' || c == '\u2029'

theorem isLineBreak_of_isRawBreak {c : Char} (h : isRawBreak c = true) : isLineBreak c = true := by
  simp only [isRawBreak, Bool.or_eq_true, beq_iff_eq] at h
  rcases h with (rfl | rfl) | rfl <;> decide

/-- The other line breaks are escaped. -/
theorem escaped_or_isRawBreak {c : Char} (h : isLineBreak c = true) : c ∈ escapedChars ∨ isRawBreak c = true := by
  have hnat : c.toNat < 32 ∨ c.toNat = 0x85 ∨ c.toNat = 0x2028 ∨ c.toNat = 0x2029 := by
    simp only [isLineBreak, Bool.or_eq_true, Bool.and_eq_true, decide_eq_true_eq, beq_iff_eq] at h
    omega
  have hc := (Char.ofNat_toNat c).symm
  rcases hnat with hlt | heq | heq | heq
  · exact .inl (List.mem_cons_of_mem _ (List.mem_cons_of_mem _ (List.mem_map.mpr ⟨c.toNat, List.mem_range.mpr hlt, hc.symm⟩)))
  all_goals
    rw [heq] at hc
    rw [hc]
    exact .inr rfl

theorem not_escaped_of_isRawBreak {c : Char} (h : isRawBreak c = true) : c ∉ escapedChars := by
  simp only [isRawBreak, Bool.or_eq_true, beq_iff_eq] at h
  rcases h with (rfl | rfl) | rfl <;> decide

theorem not_break_of_escaped : ∀ c ∈ escapedChars, ∀ d ∈ (jsonChar c).toList, isLineBreak d = false := by
  have hall : (escapedChars.all fun c => (jsonChar c).toList.all fun d => !isLineBreak d) = true := by decide +kernel
  intro c hc d hd
  simpa using List.all_eq_true.mp (List.all_eq_true.mp hall c hc) d hd

section

variable {c : Char} (hc : isLineBreak c = true)

include hc

theorem break_jsonChar {d : Char} : c ∈ (jsonChar d).toList ↔ c = d ∧ isRawBreak c = true := by
  by_cases hd : d ∈ escapedChars
  · constructor
    · intro h
      exact absurd (not_break_of_escaped d hd c h) (by simp [hc])
    · rintro ⟨rfl, hraw⟩
      exact absurd hd (not_escaped_of_isRawBreak hraw)
  · rw [jsonChar_of_not_mem hd, List.mem_singleton]
    constructor
    · rintro rfl
      exact ⟨rfl, (escaped_or_isRawBreak hc).resolve_left hd⟩
    · exact fun h => h.1

/-- A string keeps its unescaped breaks. -/
theorem break_jsonStr {s : String} : c ∈ (jsonStr s).toList ↔ c ∈ s.toList ∧ isRawBreak c = true := by
  have hquote : c ≠ '"' := by
    rintro rfl
    exact absurd hc (by decide)
  rw [toList_jsonStr]
  simp only [List.cons_append, List.mem_cons, List.mem_append, List.mem_flatMap, List.not_mem_nil, or_false, hquote, false_or]
  constructor
  · rintro ⟨d, hd, h⟩
    obtain ⟨rfl, hraw⟩ := (break_jsonChar hc).mp h
    exact ⟨hd, hraw⟩
  · rintro ⟨h, hraw⟩
    exact ⟨c, h, (break_jsonChar hc).mpr ⟨rfl, hraw⟩⟩

theorem break_int (i : Int) : c ∉ (Val.json (.int i)).toList := by
  intro h
  have hnumber := isNumberChar_toString i c h
  simp only [isLineBreak, Bool.or_eq_true, Bool.and_eq_true, decide_eq_true_eq, beq_iff_eq] at hc
  simp only [isNumberChar, isAsciiDigit, Bool.or_eq_true, Bool.and_eq_true, decide_eq_true_eq] at hnumber
  rcases hnumber with hdigit | hsign
  · omega
  · have hsigns : "+-.e".toList.all (fun d => !isLineBreak d) = true := by decide
    have hnot := List.all_eq_true.mp hsigns c (by simpa using hsign)
    simp [isLineBreak] at hnot
    omega

theorem break_intercalate {texts : List (List Char)} : c ∈ [','].intercalate texts ↔ ∃ text ∈ texts, c ∈ text := by
  have hcomma : c ≠ ',' := by
    rintro rfl
    exact absurd hc (by decide)
  induction texts with
  | nil => simp
  | cons text texts ih =>
    have hmore : c ∈ Val.more texts ↔ c ∈ [','].intercalate texts := by
      cases texts with
      | nil => simp [Val.more]
      | cons text' texts => simp only [Val.more, List.mem_cons, hcomma, false_or]
    rw [Val.intercalate_cons, List.mem_append, hmore, List.exists_mem_cons_iff]
    exact or_congr_right ih

theorem break_itemText {kv : String × Val} : c ∈ Val.itemText kv ↔ c ∈ (jsonStr kv.1).toList ∨ c ∈ kv.2.json.toList := by
  have hcolon : c ≠ ':' := by
    rintro rfl
    exact absurd hc (by decide)
  simp only [Val.itemText, List.mem_append, List.mem_cons, hcolon, false_or]

/-- The breaks of an object are those of its keys and values. -/
theorem break_dict {items : List (String × Val)} :
    c ∈ (Val.json (.dict items)).toList ↔ ∃ kv ∈ items, c ∈ (jsonStr kv.1).toList ∨ c ∈ kv.2.json.toList := by
  have hopen : c ≠ '\x7b' := by
    rintro rfl
    exact absurd hc (by decide)
  have hclose : c ≠ '\x7d' := by
    rintro rfl
    exact absurd hc (by decide)
  have hperm : (sortItems items).Perm items := List.perm_insertionSort _ _
  rw [Val.toList_json_dict]
  simp only [List.cons_append, List.mem_cons, List.mem_append, List.not_mem_nil, or_false, hopen, hclose, false_or,
    break_intercalate hc, List.mem_map, exists_exists_and_eq_and, break_itemText hc, hperm.mem_iff]

end

end Py
