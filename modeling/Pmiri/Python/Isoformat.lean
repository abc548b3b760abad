import Mathlib.Algebra.GroupWithZero.Nat
import Pmiri.Python.Datetime

/-!
# `datetime.isoformat`

The text of a UTC time at the precision of a second, and that `fromisoformat`
reads it back.
-/

namespace Py

/-! ## Padded decimals -/

def digitChar (d : Nat) : Char := Char.ofNat (48 + d)

/-- `f"{n:0{width}d}"`, for a number of at most that many digits. -/
def padded : Nat → Nat → List Char
  | 0, _ => []
  | width + 1, n => padded width (n / 10) ++ [digitChar (n % 10)]

theorem digitChar_digit : ∀ d < 10, isAsciiDigit (digitChar d) = true ∧ (digitChar d).toNat - 48 = d := by decide

@[simp] theorem length_padded (width n : Nat) : (padded width n).length = width := by
  induction width generalizing n with
  | zero => rfl
  | succ width ih => rw [padded, List.length_append, ih, List.length_singleton]

theorem digit_of_mem_padded {width n : Nat} {c : Char} (h : c ∈ padded width n) : isAsciiDigit c = true := by
  induction width generalizing n with
  | zero => cases h
  | succ width ih =>
    rw [padded, List.mem_append, List.mem_singleton] at h
    rcases h with h | rfl
    · exact ih h
    · exact (digitChar_digit _ (Nat.mod_lt _ (by decide))).1

theorem foldl_padded {width n : Nat} (h : n < 10 ^ width) :
    (padded width n).foldl (fun acc c => acc * 10 + (c.toNat - 48)) 0 = n := by
  induction width generalizing n with
  | zero =>
    obtain rfl : n = 0 := by simpa using h
    rfl
  | succ width ih =>
    rw [padded, List.foldl_append, ih (by rw [pow_succ] at h; omega), List.foldl_cons, List.foldl_nil,
      (digitChar_digit _ (Nat.mod_lt _ (by decide))).2]
    omega

theorem readDigits_padded {width n : Nat} (h : n < 10 ^ width) (rest : List Char) :
    readDigits width (padded width n ++ rest) = some (n, rest) := by
  have htake : (padded width n ++ rest).take width = padded width n := List.take_left' (length_padded width n)
  have hdrop : (padded width n ++ rest).drop width = rest := List.drop_left' (length_padded width n)
  have hall : (padded width n).all isAsciiDigit = true := List.all_eq_true.mpr fun _ => digit_of_mem_padded
  rw [readDigits, htake, hdrop, foldl_padded h, length_padded, hall, beq_self_eq_true]
  rfl

/-! ## Dates -/

/-- The year of the day `days` days after 0001-01-01: the last day of a leap
year would fall into a fifth year or century of its cycle. -/
def yearOf (days : Nat) : Nat :=
  let n := days % 146097
  let century := n / 36524
  let quad := n % 36524 / 1461
  let single := n % 36524 % 1461 / 365
  let year := days / 146097 * 400 + century * 100 + quad * 4 + single + 1
  if single = 4 ∨ century = 4 then year - 1 else year

/-- The month and day that are `n` days after the first of `month`, with up to
`k` months to follow. -/
def monthDay (year : Nat) : Nat → Nat → Nat → Nat × Nat
  | 0, month, n => (month, n + 1)
  | k + 1, month, n =>
    if n < daysInMonth year month then (month, n + 1) else monthDay year k (month + 1) (n - daysInMonth year month)

/-- The date `days` days after 0001-01-01. -/
def dateOfDays (days : Nat) : Nat × Nat × Nat :=
  (yearOf days, monthDay (yearOf days) 11 1 (days - daysBeforeYear (yearOf days)))

theorem isLeap_iff {year : Nat} : isLeap year = true ↔ year % 4 = 0 ∧ (year % 100 ≠ 0 ∨ year % 400 = 0) := by
  simp [isLeap]

def daysInYear (year : Nat) : Nat := if isLeap year then 366 else 365

/-- The days before a year, by its place in the cycles of 400, 100 and 4 years. -/
theorem daysBeforeYear_cycles {q c k t : Nat} (hc : c ≤ 3) (hk : k ≤ 24) (ht : t ≤ 3) :
    daysBeforeYear (q * 400 + c * 100 + k * 4 + t + 1) = q * 146097 + c * 36524 + k * 1461 + t * 365 := by
  have h4 : (q * 400 + c * 100 + k * 4 + t) / 4 = q * 100 + c * 25 + k := by omega
  have h100 : (q * 400 + c * 100 + k * 4 + t) / 100 = q * 4 + c := by omega
  have h400 : (q * 400 + c * 100 + k * 4 + t) / 400 = q := by omega
  rw [daysBeforeYear, Nat.add_sub_cancel, h4, h100, h400]
  omega

/-- A day falls into its year. -/
theorem yearOf_spec (days : Nat) :
    daysBeforeYear (yearOf days) ≤ days ∧ days < daysBeforeYear (yearOf days) + daysInYear (yearOf days) ∧ 1 ≤ yearOf days := by
  have hn := Nat.div_add_mod days 146097
  have hn' := Nat.mod_lt days (show 146097 > 0 by decide)
  rw [yearOf]
  generalize days / 146097 = q, days % 146097 = n at *
  have hr := Nat.div_add_mod n 36524
  have hr' := Nat.mod_lt n (show 36524 > 0 by decide)
  generalize n / 36524 = c, n % 36524 = r at *
  have hu := Nat.div_add_mod r 1461
  have hu' := Nat.mod_lt r (show 1461 > 0 by decide)
  generalize r / 1461 = k, r % 1461 = u at *
  have hv := Nat.div_add_mod u 365
  have hv' := Nat.mod_lt u (show 365 > 0 by decide)
  generalize u / 365 = t, u % 365 = v at *
  by_cases h : t = 4 ∨ c = 4
  · -- the last day of a leap year
    obtain ⟨c', k', hc, hk, hyear, hleap⟩ : ∃ c' k', c' ≤ 3 ∧ k' ≤ 24 ∧
        q * 400 + c * 100 + k * 4 + t + 1 - 1 = q * 400 + c' * 100 + k' * 4 + 3 + 1 ∧
        q * 146097 + c' * 36524 + k' * 1461 + 3 * 365 + 365 = days ∧ (k' = 24 → c' = 3) := by
      rcases h with rfl | rfl
      · exact ⟨c, k, by omega⟩
      · exact ⟨3, 24, by omega⟩
    have hdays : daysInYear (q * 400 + c' * 100 + k' * 4 + 3 + 1) = 366 := by
      rw [daysInYear, if_pos (isLeap_iff.mpr (by omega))]
    simp only [if_pos h, hyear, daysBeforeYear_cycles hc hk le_rfl, hdays]
    omega
  · have hdays : 365 ≤ daysInYear (q * 400 + c * 100 + k * 4 + t + 1) := by
      rw [daysInYear]
      split <;> omega
    simp only [if_neg h, daysBeforeYear_cycles (show c ≤ 3 by omega) (show k ≤ 24 by omega) (show t ≤ 3 by omega)]
    omega

theorem yearOf_le {days : Nat} (h : days < maxDays) : yearOf days ≤ 9999 := by
  obtain ⟨hle, -, -⟩ := yearOf_spec days
  rw [daysBeforeYear] at hle
  rw [maxDays] at h
  omega

/-- The days of the months before `month`. -/
def daysBeforeMonth (year month : Nat) : Nat := ((List.range (month - 1)).map fun m => daysInMonth year (m + 1)).sum

theorem daysBeforeMonth_succ (year : Nat) {month : Nat} (h : 1 ≤ month) :
    daysBeforeMonth year (month + 1) = daysBeforeMonth year month + daysInMonth year month := by
  rw [daysBeforeMonth, daysBeforeMonth, Nat.add_sub_cancel, ← Nat.sub_add_cancel h, List.range_succ, List.map_append,
    List.sum_append, Nat.add_sub_cancel]
  simp

theorem daysBeforeMonth_thirteen (year : Nat) : daysBeforeMonth year 13 = daysInYear year := by
  have hsum : ∀ leap : Bool, ((List.range 12).map fun m =>
      if m + 1 = 2 then (if leap then 29 else 28)
      else if m + 1 = 4 || m + 1 = 6 || m + 1 = 9 || m + 1 = 11 then 30 else 31).sum = if leap then 366 else 365 := by decide
  exact hsum (isLeap year)

/-- A day of a year falls into its month. -/
theorem monthDay_spec {year k month n : Nat} (h : 1 ≤ month) (hn : daysBeforeMonth year month + n < daysBeforeMonth year (month + k + 1)) :
    month ≤ (monthDay year k month n).1 ∧ (monthDay year k month n).1 ≤ month + k ∧ 1 ≤ (monthDay year k month n).2 ∧
      (monthDay year k month n).2 ≤ daysInMonth year (monthDay year k month n).1 ∧
      daysBeforeMonth year (monthDay year k month n).1 + ((monthDay year k month n).2 - 1) = daysBeforeMonth year month + n := by
  have hnext := daysBeforeMonth_succ year h
  induction k generalizing month n with
  | zero =>
    rw [Nat.add_zero] at hn
    simp only [monthDay]
    omega
  | succ k ih =>
    rw [monthDay]
    split
    · simp only
      omega
    · have := @ih (month + 1) (n - daysInMonth year month) (by omega)
        (by rw [show month + 1 + k + 1 = month + (k + 1) + 1 by omega]; omega) (daysBeforeMonth_succ year (by omega))
      omega

theorem dateOf_dateOfDays {days : Nat} (h : days < maxDays) :
    dateOf (dateOfDays days).1 (dateOfDays days).2.1 (dateOfDays days).2.2 = some days := by
  obtain ⟨hle, hlt, hone⟩ := yearOf_spec days
  have hmax := yearOf_le h
  have hfirst : daysBeforeMonth (yearOf days) 1 = 0 := rfl
  obtain ⟨hmonth, hmonth', hday, hday', hsum⟩ := @monthDay_spec (yearOf days) 11 1
    (days - daysBeforeYear (yearOf days)) le_rfl (by rw [hfirst, daysBeforeMonth_thirteen]; omega)
  rw [hfirst, Nat.zero_add] at hsum
  rw [dateOfDays]
  generalize monthDay (yearOf days) 11 1 (days - daysBeforeYear (yearOf days)) = date at *
  have hbefore : daysBefore (yearOf days) date.1 date.2 = days := by
    rw [daysBefore, ← daysBeforeMonth]
    omega
  simp only [dateOf, hbefore, decide_eq_true hone, decide_eq_true hmax, decide_eq_true hmonth, decide_eq_true hmonth',
    decide_eq_true hday, decide_eq_true hday', Bool.and_self, ↓reduceIte]

theorem dateOf_bounds {year month day days : Nat} (h : dateOf year month day = some days) :
    year < 10 ^ 4 ∧ month < 10 ^ 2 ∧ day < 10 ^ 2 := by
  have hmonth : daysInMonth year month ≤ 31 := by
    unfold daysInMonth
    split_ifs <;> decide
  unfold dateOf at h
  split at h
  · rename_i hc
    simp only [Bool.and_eq_true, decide_eq_true_eq] at hc
    omega
  · cases h

/-! ## Texts -/

def dateText (date : Nat × Nat × Nat) : List Char := padded 4 date.1 ++ '-' :: (padded 2 date.2.1 ++ '-' :: padded 2 date.2.2)

def clockText (seconds : Nat) : List Char :=
  padded 2 (seconds / 3600) ++ ':' :: (padded 2 (seconds / 60 % 60) ++ ':' :: padded 2 (seconds % 60))

/-- `isoformat()` of the time `seconds` after 0001-01-01T00:00, without its offset. -/
def isoText (seconds : Nat) : List Char := dateText (dateOfDays (seconds / 86400)) ++ 'T' :: clockText (seconds % 86400)

theorem head_padded (width n : Nat) (rest : List Char) :
    ∃ c, (padded (width + 1) n ++ rest).head? = some c ∧ isAsciiDigit c = true := by
  rcases hp : padded (width + 1) n with _ | ⟨c, cs⟩
  · exact absurd (congrArg List.length hp) (by simp)
  · exact ⟨c, rfl, digit_of_mem_padded (hp ▸ List.mem_cons_self)⟩

theorem readDate_dateText {date : Nat × Nat × Nat} (hy : date.1 < 10 ^ 4) (hm : date.2.1 < 10 ^ 2) (hd : date.2.2 < 10 ^ 2) :
    readDate (dateText date) = dateOf date.1 date.2.1 date.2.2 := by
  obtain ⟨c, hhead, hc⟩ := head_padded 1 date.2.1 ('-' :: padded 2 date.2.2)
  have hweek : (some c == some 'W') = false := by
    rw [beq_eq_false_iff_ne]
    intro e
    rw [Option.some.inj e] at hc
    exact absurd hc (by decide)
  have hday : readDigits 2 (padded 2 date.2.2) = some (date.2.2, []) := by
    have := readDigits_padded hd []
    rwa [List.append_nil] at this
  rw [readDate, dateText, readDigits_padded hy]
  simp only [Option.bind_eq_bind, Option.bind_some, List.head?_cons, beq_self_eq_true, ↓reduceIte, List.drop_succ_cons,
    List.drop_zero, hhead, hweek, Bool.false_eq_true, readDigits_padded hm, hday, List.isEmpty_nil]

/-- The microseconds of a time, if there are any. -/
def fractionText (micros : Nat) : List Char := if micros = 0 then [] else '.' :: padded 6 micros

theorem readFraction_padded {micros : Nat} (h : micros < 10 ^ 6) : readFraction (padded 6 micros) = some micros := by
  have hread : readDigits 6 (padded 6 micros) = some (micros, []) := by
    have := readDigits_padded h []
    rwa [List.append_nil] at this
  rw [readFraction, length_padded]
  simp only [Nat.min_self, hread, Option.bind_eq_bind, Option.bind_some, List.all_nil, Bool.and_true]
  simp

theorem readClock_clockText {seconds micros : Nat} (h : seconds < 86400) (hm : micros < 10 ^ 6) :
    readClock (clockText seconds ++ fractionText micros) = some (seconds / 3600, seconds / 60 % 60, seconds % 60, micros) := by
  have hlast := @readDigits_padded 2 (seconds % 60) (by omega) (fractionText micros)
  rw [readClock, clockText, List.append_assoc, List.cons_append, List.append_assoc, List.cons_append,
    readDigits_padded (by omega)]
  simp only [Option.bind_eq_bind, Option.bind_some, List.head?_cons, beq_self_eq_true, ↓reduceIte, List.drop_succ_cons,
    List.drop_zero, readDigits_padded (show seconds / 60 % 60 < 10 ^ 2 by omega), bne_self_eq_false, Bool.and_false,
    Bool.false_eq_true, hlast]
  by_cases hzero : micros = 0
  · simp only [fractionText, hzero, ↓reduceIte]
  · simp [fractionText, hzero, readFraction_padded hm]

theorem mem_clockText {seconds micros : Nat} {c : Char} (h : c ∈ clockText seconds ++ fractionText micros) :
    isAsciiDigit c = true ∨ c = ':' ∨ c = '.' := by
  simp only [clockText, List.mem_append, List.mem_cons] at h
  rcases h with (h | h | h | h | h) | h
  · exact .inl (digit_of_mem_padded h)
  · exact .inr (.inl h)
  · exact .inl (digit_of_mem_padded h)
  · exact .inr (.inl h)
  · exact .inl (digit_of_mem_padded h)
  · rw [fractionText] at h
    split at h
    · cases h
    · rcases List.mem_cons.mp h with h | h
      · exact .inr (.inr h)
      · exact .inl (digit_of_mem_padded h)

/-- A time of day in UTC is read back. -/
theorem readTime_clockText {seconds micros : Nat} (h : seconds < 86400) (hm : micros < 10 ^ 6) :
    readTime (clockText seconds ++ fractionText micros ++ "+00:00".toList) =
      some (((seconds * 1000000 + micros : Nat) : Int), some 0) := by
  have hnot : ∀ {c : Char}, isAsciiDigit c = false → c ≠ ':' → c ≠ '.' → c ∉ clockText seconds ++ fractionText micros := by
    intro c hd hcolon hdot hc
    rcases mem_clockText hc with hd' | hc | hc
    · exact Bool.noConfusion (hd.symm.trans hd')
    · exact hcolon hc
    · exact hdot hc
  have hread := readClock_clockText h hm
  generalize clockText seconds ++ fractionText micros = text at *
  have hminus : (text ++ "+00:00".toList).contains '-' = false := by
    rw [List.contains_eq_mem, decide_eq_false_iff_not, List.mem_append, not_or]
    exact ⟨hnot (by decide) (by decide) (by decide), by decide⟩
  have hplus : (text ++ "+00:00".toList).contains '+' = true := by
    rw [List.contains_eq_mem, decide_eq_true_iff]
    exact List.mem_append_right _ (by decide)
  have htake : (text ++ "+00:00".toList).takeWhile (· != '+') = text := by
    rw [List.takeWhile_append_of_pos]
    · rw [show "+00:00".toList.takeWhile (· != '+') = [] by decide, List.append_nil]
    · exact fun c hc => bne_iff_ne.mpr fun e => hnot (by decide) (by decide) (by decide) (e ▸ hc)
  have hdrop : (text ++ "+00:00".toList).drop (text.length + 1) = "00:00".toList := by
    rw [List.drop_append, Nat.add_sub_cancel_left, List.drop_of_length_le (by omega)]
    rfl
  have hzone : readClock "00:00".toList = some (0, 0, 0, 0) := by decide
  have hhour : seconds / 3600 ≤ 23 := by omega
  have hclock : clockMicros (seconds / 3600) (seconds / 60 % 60) (seconds % 60) micros = (seconds * 1000000 + micros : Nat) := by
    rw [clockMicros]
    omega
  unfold readTime
  simp only [hminus, hplus, Bool.false_eq_true, ↓reduceIte, htake, hread, hdrop, hzone,
    Option.bind_eq_bind, Option.bind_some, decide_eq_true hhour, decide_eq_true (show seconds / 60 % 60 ≤ 59 by omega),
    decide_eq_true (show seconds % 60 ≤ 59 by omega), Bool.and_self, hclock]
  rfl

@[simp] theorem length_dateText (date : Nat × Nat × Nat) : (dateText date).length = 10 := by simp [dateText]

theorem separatorAt_dateText (date : Nat × Nat × Nat) (c : Char) (rest : List Char) :
    separatorAt (dateText date ++ c :: rest) = some 10 := by
  have hlength : ¬ (dateText date ++ c :: rest).length = 7 := by
    rw [List.length_append, length_dateText, List.length_cons]
    omega
  have hdash : (dateText date ++ c :: rest).getD 4 ' ' = '-' := by simp [dateText, padded]
  have hdigit : digitChar (date.2.1 / 10 % 10) ≠ 'W' := fun e =>
    absurd (digitChar_digit _ (Nat.mod_lt (date.2.1 / 10) (show 10 > 0 by decide))).1 (by rw [e]; decide)
  have hmonth : (dateText date ++ c :: rest).getD 5 ' ' ≠ 'W' := by simpa [dateText, padded] using hdigit
  simp only [separatorAt, if_neg hlength, hdash, if_neg hmonth, ↓reduceIte]

/-- `isoformat()` of the time `micros` after 0001-01-01T00:00, without its offset. -/
def isoMicros (micros : Nat) : List Char := isoText (micros / 1000000) ++ fractionText (micros % 1000000)

/-- The text of a UTC time is read back. -/
theorem fromisoformat_isoMicros {micros : Nat} (h : micros < maxDays * 86400 * 1000000) :
    fromisoformat (String.ofList (isoMicros micros ++ "+00:00".toList)) = some ⟨(micros : Int), some 0⟩ := by
  have hmicros := Nat.mod_lt micros (show 1000000 > 0 by decide)
  have hsum := Nat.div_add_mod micros 1000000
  have hseconds : micros / 1000000 < maxDays * 86400 := by omega
  rw [isoMicros]
  generalize micros / 1000000 = seconds, micros % 1000000 = rest at *
  have hdays : seconds / 86400 < maxDays := by omega
  generalize hdate : dateOfDays (seconds / 86400) = date
  have hread := dateOf_dateOfDays hdays
  rw [hdate] at hread
  obtain ⟨hy, hm, hd⟩ := dateOf_bounds hread
  have hclock := readTime_clockText (Nat.mod_lt seconds (show 86400 > 0 by decide)) hmicros
  have htext : isoText seconds ++ fractionText rest ++ "+00:00".toList =
      dateText date ++ 'T' :: (clockText (seconds % 86400) ++ fractionText rest ++ "+00:00".toList) := by
    rw [isoText, hdate, List.append_assoc, List.append_assoc, List.cons_append, List.append_assoc]
  have htake : (isoText seconds ++ fractionText rest ++ "+00:00".toList).take 10 = dateText date := by
    rw [htext, List.take_left' (length_dateText date)]
  have hdrop : (isoText seconds ++ fractionText rest ++ "+00:00".toList).drop (10 + 1) =
      clockText (seconds % 86400) ++ fractionText rest ++ "+00:00".toList := by
    rw [htext, ← List.drop_drop, List.drop_left' (length_dateText date)]
    rfl
  have hshort : ¬ (isoText seconds ++ fractionText rest ++ "+00:00".toList).length < 7 := by
    rw [htext, List.length_append, length_dateText]
    omega
  have hsep : separatorAt (isoText seconds ++ fractionText rest ++ "+00:00".toList) = some 10 := by
    rw [htext, separatorAt_dateText]
  rw [fromisoformat, String.toList_ofList, if_neg hshort, hsep]
  simp only [Option.bind_eq_bind, Option.bind_some, htake, hdrop, readDate_dateText hy hm hd, hread]
  split
  · rename_i hnil
    exact absurd (List.append_eq_nil_iff.mp hnil).2 (by decide)
  · rw [hclock]
    simp only [Option.bind_some, Option.some.injEq, DateTime.mk.injEq, and_true, dayMicros]
    omega

theorem isoMicros_seconds (seconds : Nat) : isoMicros (seconds * 1000000) = isoText seconds := by
  rw [isoMicros, Nat.mul_div_cancel _ (by decide), Nat.mul_mod_left, fractionText, if_pos rfl, List.append_nil]

theorem fromisoformat_isoText {seconds : Nat} (h : seconds < maxDays * 86400) :
    fromisoformat (String.ofList (isoText seconds ++ "+00:00".toList)) = some ⟨((seconds * 1000000 : Nat) : Int), some 0⟩ := by
  rw [← isoMicros_seconds]
  exact fromisoformat_isoMicros (by omega)

/-! ## The clock -/

/-- What `datetime.now(timezone.utc)` can hold: microseconds from 0001-01-01T00:00. -/
structure Instant where
  micros : Nat
  inRange : micros < maxDays * 86400 * 1000000

/-- The start of year 1. -/
def Instant.first : Instant := ⟨0, by decide⟩

/-- `replace(microsecond=0)`, as seconds. -/
def Instant.seconds (t : Instant) : Nat := t.micros / 1000000

theorem Instant.seconds_lt (t : Instant) : t.seconds < maxDays * 86400 := by
  have := t.inRange
  rw [seconds]
  omega

end Py
