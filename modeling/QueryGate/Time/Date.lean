import QueryGate.Text.Basic

/-!
# Calendar dates

Dates of the proleptic Gregorian calendar, from the year 1 to the year 9999.  A date has a
neighbour on either side except at the ends of that range.  A week of the ISO calendar starts on
Monday, and the first week of a year is the one with its first Thursday.
-/

namespace QueryGate

open Text

/-- Whether a year has a leap day. -/
def isLeapYear (y : Nat) : Bool := y % 4 == 0 && (y % 100 != 0 || y % 400 == 0)

/-- The lengths of the months of a year. -/
def monthLengths (y : Nat) : List Nat :=
  [31, if isLeapYear y then 29 else 28, 31, 30, 31, 30, 31, 31, 30, 31, 30, 31]

/-- The number of days in a month, counted from 1; a number that is no month has none. -/
def daysInMonth (y m : Nat) : Nat := if m = 0 then 0 else ((monthLengths y)[m - 1]?).getD 0

/-- The number of days in a year. -/
def daysInYear (y : Nat) : Nat := if isLeapYear y then 366 else 365

/-- A date. -/
structure Date where
  year : Nat
  month : Nat
  day : Nat
  year_pos : 1 ≤ year
  year_le : year ≤ 9999
  day_pos : 1 ≤ day
  day_le : day ≤ daysInMonth year month
  deriving DecidableEq, Repr

namespace Date

/-- The date with the given parts, if there is one. -/
def make? (year month day : Nat) : Option Date :=
  if h : (1 ≤ year ∧ year ≤ 9999) ∧ 1 ≤ day ∧ day ≤ daysInMonth year month then
    some ⟨year, month, day, h.1.1, h.1.2, h.2.1, h.2.2⟩
  else none

theorem make?_self (d : Date) : make? d.year d.month d.day = some d := by
  obtain ⟨y, m, n, h₁, h₂, h₃, h₄⟩ := d
  simp [make?, h₁, h₂, h₃, h₄]

/-- The next day. -/
def next? (d : Date) : Option Date :=
  match make? d.year d.month (d.day + 1) with
  | some e => some e
  | none =>
    match make? d.year (d.month + 1) 1 with
    | some e => some e
    | none => make? (d.year + 1) 1 1

/-- The day before. -/
def previous? (d : Date) : Option Date :=
  if 1 < d.day then make? d.year d.month (d.day - 1)
  else if 1 < d.month then make? d.year (d.month - 1) (daysInMonth d.year (d.month - 1))
  else make? (d.year - 1) 12 31

/-- Year, month and day with four, two and two digits and hyphens between. -/
def toText (d : Date) : Text :=
  padZeros 4 (ofNat d.year) ++ '-' :: padZeros 2 (ofNat d.month) ++ '-' ::
    padZeros 2 (ofNat d.day)

/-- The number of days before a year, from the year 1 on. -/
def daysBeforeYear (y : Nat) : Nat := (y - 1) * 365 + (y - 1) / 4 - (y - 1) / 100 + (y - 1) / 400

/-- The weekday on which a year begins, Monday being 0. -/
def firstWeekday (y : Nat) : Nat := daysBeforeYear y % 7

/-- The month and day of a day of the year, both counted from 1, given the months that remain and
the number of the first of them. -/
def monthDay? (month n : Nat) : List Nat → Option (Nat × Nat)
  | [] => none
  | length :: rest =>
    if n ≤ length then some (month, n) else monthDay? (month + 1) (n - length) rest

/-- The `n`-th day of a year; numbers outside the year reach into its neighbours. -/
def ofDayOfYear? (y : Nat) (n : Int) : Option Date :=
  let place : Nat × Int :=
    if n < 1 then (y - 1, n + daysInYear (y - 1))
    else if daysInYear y < n then (y + 1, n - daysInYear y)
    else (y, n)
  (monthDay? 1 place.2.toNat (monthLengths place.1)).bind fun p => make? place.1 p.1 p.2

/-- Whether a year has a 53rd week: it begins on a Thursday, or on a Wednesday with a leap day. -/
def hasLongWeekYear (y : Nat) : Bool :=
  firstWeekday y == 3 || (firstWeekday y == 2 && isLeapYear y)

/-- The date of a weekday, Monday being 1, in a week of a year. -/
def ofWeek? (year week weekday : Nat) : Option Date :=
  if year = 0 ∨ 9999 < year then none
  else if week = 0 ∨ 53 < week ∨ (week = 53 ∧ !hasLongWeekYear year) then none
  else if weekday = 0 ∨ 7 < weekday then none
  else
    let first := firstWeekday year
    let monday : Int := 1 - first + (if 3 < first then 7 else 0)
    ofDayOfYear? year (monday + (week - 1) * 7 + (weekday - 1))

end Date

end QueryGate
