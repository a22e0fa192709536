import QueryGate.Time.Date

/-!
# Timestamps

A timestamp is a date, a time of day to the microsecond, and the distance of the local clock from
Coordinated Universal Time, less than a day either way.  Since the distance is less than a day,
the universal date is the local date or one of its neighbours.  At the ends of the calendar there
may be no such date.
-/

namespace QueryGate

open Text

/-- Microseconds in a day. -/
def microsPerDay : Nat := 86400000000

/-- A date and time of day with a distance from universal time. -/
structure Timestamp where
  date : Date
  /-- Microseconds since midnight. -/
  micros : Nat
  /-- Microseconds by which the local clock is ahead of universal time, if that is stated. -/
  offset : Option Int
  micros_lt : micros < microsPerDay
  offset_lt : (offset.getD 0).natAbs < microsPerDay
  deriving DecidableEq, Repr

/-- Why a timestamp has no universal time. -/
inductive ClockFault where
  /-- The universal date lies outside the calendar. -/
  | dateOutOfRange
  /-- The distance is looked up in the day before, which lies outside the calendar. -/
  | noDayBefore
  deriving DecidableEq, Repr

/-- What a clock shows: the time, or why it has no universal time. -/
abbrev Clock := Except ClockFault Timestamp

namespace Timestamp

/-- The timestamp with the given parts, if they are in range. -/
def make? (date : Date) (micros : Nat) (offset : Option Int) : Option Timestamp :=
  if h : micros < microsPerDay ∧ (offset.getD 0).natAbs < microsPerDay then
    some ⟨date, micros, offset, h.1, h.2⟩
  else none

/-- The distance from universal time; universal time is meant where none is stated. -/
def distance (t : Timestamp) : Int := t.offset.getD 0

/-- The same timestamp with its distance from universal time stated. -/
def withOffset (t : Timestamp) : Timestamp := { t with offset := some t.distance }

/-- The same instant by the universal clock, if it lies in the years of the calendar. -/
def shifted? (t : Timestamp) : Option Timestamp :=
  let m : Int := t.micros - t.distance
  if m < 0 then t.date.previous?.bind fun d => make? d (m + microsPerDay).toNat (some 0)
  else if (microsPerDay : Int) ≤ m then
    t.date.next?.bind fun d => make? d (m - microsPerDay).toNat (some 0)
  else make? t.date m.toNat (some 0)

/-- The same instant by the universal clock.  A distance that is not stated is looked up in the day
before, and found to be none. -/
def toUtc (t : Timestamp) : Clock :=
  if t.offset.isNone && t.date.previous?.isNone then .error .noDayBefore
  else match t.shifted? with
    | some u => .ok u
    | none => .error .dateOutOfRange

/-- The universal date of the instant. -/
def utcDate (t : Timestamp) : Except ClockFault Date := t.toUtc.map (·.date)

/-- Two digits. -/
def twoDigits (n : Nat) : Text := padZeros 2 (ofNat n)

/-- Microseconds as a fraction of a second with six digits; none for a whole second. -/
def fractionText (micros : Nat) : Text :=
  if micros = 0 then [] else '.' :: padZeros 6 (ofNat micros)

/-- A time of day: hours, minutes, seconds and the fraction. -/
def clockText (micros : Nat) : Text :=
  let s := micros / 1000000
  twoDigits (s / 3600) ++ ':' :: twoDigits (s / 60 % 60) ++ ':' :: twoDigits (s % 60)
    ++ fractionText (micros % 1000000)

/-- The distance from universal time: sign, hours and minutes, and as much of the rest as is not
zero. -/
def offsetText (offset : Int) : Text :=
  let n := offset.natAbs
  let s := n / 1000000
  let seconds :=
    if s % 60 = 0 ∧ n % 1000000 = 0 then []
    else ':' :: twoDigits (s % 60) ++ fractionText (n % 1000000)
  (if offset < 0 then '-' else '+') :: twoDigits (s / 3600) ++ ':' :: twoDigits (s / 60 % 60)
    ++ seconds

/-- The text of a timestamp: date and time joined by `T`, and the distance from universal time as
far as it is stated. -/
def toText (t : Timestamp) : Text :=
  t.date.toText ++ 'T' :: clockText t.micros ++ (t.offset.map offsetText).getD []

/-- The text of an instant by the universal clock in the short form that ends in `Z`. -/
def toZuluText (t : Timestamp) : Text :=
  t.date.toText ++ 'T' :: clockText t.micros ++
    (if t.distance = 0 then ['Z'] else offsetText t.distance)

end Timestamp

end QueryGate
