import Mathlib.Algebra.GroupWithZero.Nat
import Pmiri.Python.Runtime

/-!
# `datetime.fromisoformat`

Instants are counted in microseconds from 0001-01-01T00:00, the first value
`datetime` can hold. `fromisoformat` reads the ISO 8601 forms that Python
3.12 accepts: calendar and week dates with or without separators, any single
character between date and time, and a time with an optional fraction and
UTC offset.
-/

namespace Py

/-- Microseconds in a day. -/
def dayMicros : Int := 86400000000

/-- A `datetime`: its local time, and its UTC offset if it has one. -/
structure DateTime where
  local_ : Int
  offset : Option Int
deriving DecidableEq, Repr

/-! ## Calendar -/

def isLeap (year : Nat) : Bool := year % 4 == 0 && (year % 100 != 0 || year % 400 == 0)

def daysInMonth (year month : Nat) : Nat :=
  if month = 2 then (if isLeap year then 29 else 28)
  else if month = 4 || month = 6 || month = 9 || month = 11 then 30 else 31

/-- Days from 0001-01-01 to the first of January of `year`. -/
def daysBeforeYear (year : Nat) : Nat :=
  let y := year - 1
  y * 365 + y / 4 - y / 100 + y / 400

/-- Days from 0001-01-01 to a date. -/
def daysBefore (year month day : Nat) : Nat :=
  daysBeforeYear year + ((List.range (month - 1)).map fun m => daysInMonth year (m + 1)).sum + (day - 1)

/-- The number of days `datetime` can represent. -/
def maxDays : Nat := 3652059

def dateOf (year month day : Nat) : Option Nat :=
  if 1 ≤ year && year ≤ 9999 && 1 ≤ month && month ≤ 12 && 1 ≤ day && day ≤ daysInMonth year month then
    some (daysBefore year month day)
  else none

/-- The day `day` of week `week` of an ISO year. -/
def isoWeekDate (year week day : Nat) : Option Nat :=
  let first := daysBeforeYear year
  let weekday := first % 7
  let long := weekday == 3 || (weekday == 2 && isLeap year)
  if 1 ≤ year && year ≤ 9999 && 1 ≤ week && (week ≤ 52 || week == 53 && long) && 1 ≤ day && day ≤ 7 then
    let monday : Int := (first : Int) - weekday + (if 3 < weekday then 7 else 0)
    let d := monday + ((week - 1) * 7 + (day - 1) : Nat)
    if 0 ≤ d && d < maxDays then some d.toNat else none
  else none

/-! ## Reading -/

/-- Exactly `n` decimal digits. -/
def readDigits (n : Nat) (cs : List Char) : Option (Nat × List Char) :=
  let ds := cs.take n
  if ds.length == n && ds.all isAsciiDigit then
    some (ds.foldl (fun acc c => acc * 10 + (c.toNat - 48)) 0, cs.drop n)
  else none

/-- Where the date ends in `s`, of at least seven characters. -/
def separatorAt (s : List Char) : Option Nat :=
  let at_ (i : Nat) : Char := s.getD i ' '
  let n := s.length
  if n = 7 then some 7
  else if at_ 4 = '-' then
    if at_ 5 = 'W' then
      if n < 8 then none
      else if 8 < n && at_ 8 = '-' then
        if n = 9 then none
        else if 10 < n && isAsciiDigit (at_ 10) then some 8 else some 10
      else some 8
    else some 10
  else if at_ 4 = 'W' then
    let idx := 7 + ((s.drop 7).takeWhile isAsciiDigit).length
    if idx < 9 then some idx else if idx % 2 = 0 then some 7 else some 8
  else some 8

/-- An ISO date, as the number of days before it. -/
def readDate (s : List Char) : Option Nat := do
  let (year, s) ← readDigits 4 s
  let sep := s.head? == some '-'
  let s := if sep then s.drop 1 else s
  if s.head? == some 'W' then
    let (week, s) ← readDigits 2 (s.drop 1)
    match s with
    | [] => isoWeekDate year week 1
    | c :: rest =>
      let (day, rest) ← readDigits 1 (if sep then rest else c :: rest)
      if (c == '-') == sep && rest.isEmpty then isoWeekDate year week day else none
  else
    let (month, s) ← readDigits 2 s
    if (s.head? == some '-') == sep then
      let (day, rest) ← readDigits 2 (if sep then s.drop 1 else s)
      if rest.isEmpty then dateOf year month day else none
    else none

/-- The digits of a fraction of a second, in microseconds. -/
def readFraction (s : List Char) : Option Nat := do
  let n := min 6 s.length
  let (v, rest) ← readDigits n s
  if 0 < n && rest.all isAsciiDigit then some (v * 10 ^ (6 - n)) else none

/-- `HH[:MM[:SS[.f+]]]` or the same without colons, as four components. -/
def readClock (s : List Char) : Option (Nat × Nat × Nat × Nat) := do
  let (hour, s) ← readDigits 2 s
  let sep := s.head? == some ':'
  let fraction (h m sec : Nat) : List Char → Option (Nat × Nat × Nat × Nat)
    | [] => some (h, m, sec, 0)
    | c :: rest => if c = '.' || c = ',' then (readFraction rest).map fun f => (h, m, sec, f) else none
  match s with
  | [] => some (hour, 0, 0, 0)
  | _ :: _ =>
    let (minute, s) ← readDigits 2 (if sep then s.drop 1 else s)
    match s with
    | [] => some (hour, minute, 0, 0)
    | c :: _ =>
      if sep && c != ':' then none
      else
        let (second, s) ← readDigits 2 (if sep then s.drop 1 else s)
        fraction hour minute second s

def clockMicros (h m s us : Nat) : Int := ((h * 60 + m) * 60 + s) * 1000000 + us

/-- A time of day with its UTC offset, if any. -/
def readTime (s : List Char) : Option (Int × Option Int) := do
  let zone := if s.contains '-' then some '-' else if s.contains '+' then some '+'
    else if s.contains 'Z' then some 'Z' else none
  let clock := match zone with
    | some z => s.takeWhile (· != z)
    | none => s
  let (h, m, sec, us) ← readClock clock
  if h ≤ 23 && m ≤ 59 && sec ≤ 59 then
    match zone with
    | none => some (clockMicros h m sec us, none)
    | some z =>
      let tz := s.drop (clock.length + 1)
      if z = 'Z' then
        if tz.isEmpty then some (clockMicros h m sec us, some 0) else none
      else if tz.length = 0 || tz.length = 1 || tz.length = 3 then none
      else
        let (zh, zm, zs, zus) ← readClock tz
        let offset := clockMicros zh zm zs zus
        if offset < dayMicros then some (clockMicros h m sec us, some (if z = '-' then -offset else offset))
        else none
  else none

/-- `datetime.fromisoformat(s)`; `none` where it raises `ValueError`. -/
def fromisoformat (s : String) : Option DateTime := do
  let cs := s.toList
  if cs.length < 7 then none
  else
    let sep ← separatorAt cs
    let days ← readDate (cs.take sep)
    match cs.drop (sep + 1) with
    | [] => some ⟨days * dayMicros, none⟩
    | time =>
      let (t, offset) ← readTime time
      some ⟨days * dayMicros + t, offset⟩

/-- The instant of a `datetime` that has a UTC offset. -/
def DateTime.instant? (d : DateTime) : Option Int := d.offset.map (d.local_ - ·)

/-- The instants `datetime` can hold in UTC. -/
def inRange (t : Int) : Bool := 0 ≤ t && t < maxDays * dayMicros

example : fromisoformat "2026-01-01T00:00:00+00:00" = some ⟨63902822400000000, some 0⟩ := by decide +kernel

end Py
