import QueryGate.Time.Timestamp

/-!
# Reading timestamps

The reader accepts the date forms `YYYY-MM-DD`, `YYYYMMDD`, `YYYY-Www`, `YYYY-Www-D`, `YYYYWww`
and `YYYYWwwD`, then any one character, then hours with optional minutes, seconds and fraction,
with colons or without, and an optional distance from universal time in the same form.  A date
alone is midnight, and a time without a distance is universal time.

Digits of a fraction beyond the sixth are cut.  One stray ASCII character between the time and the
sign of the distance is passed over.  In `YYYY-Www-…` a digit behind two more characters decides
that the hyphen separates the time.
-/

namespace QueryGate

open Text

namespace Timestamp

/-- An ASCII digit. -/
def isDecimal (c : Char) : Bool := decide ('0' ≤ c) && decide (c ≤ '9')

/-- The value of the first `n` characters, which must be digits, and what follows them. -/
def digits? (n : Nat) (s : Text) : Option (Nat × Text) :=
  let ds := s.take n
  if ds.length = n ∧ ds.all isDecimal then some (Text.toNat ds, s.drop n) else none

/-- Whether the character at a position is a given one. -/
def standsAt (s : Text) (i : Nat) (c : Char) : Bool := s[i]? == some c

/-- Whether the character at a position is a digit. -/
def digitAt (s : Text) (i : Nat) : Bool := (s[i]?).any isDecimal

/-- The length of the date at the start of a text. -/
def dateLength (s : Text) : Nat :=
  if standsAt s 4 '-' then
    if standsAt s 5 'W' then
      if standsAt s 8 '-' then (if digitAt s 10 then 8 else 10) else 8
    else 10
  else if standsAt s 4 'W' then
    -- without hyphens the digits of the time follow those of the week
    let run := 7 + ((s.drop 7).takeWhile isDecimal).length
    if run < 9 then run else if run % 2 = 0 then 7 else 8
  else 8

/-- A text without a hyphen at its start, where one is demanded. -/
def hyphen? (demanded : Bool) (s : Text) : Option Text :=
  if demanded then dropLead? ['-'] s else some s

/-- The date that a whole text stands for. -/
def date? (s : Text) : Option Date :=
  match digits? 4 s with
  | none => none
  | some (year, rest) =>
    let hyphens := standsAt rest 0 '-'
    let rest := if hyphens then rest.drop 1 else rest
    match rest with
    -- a week, and perhaps one digit for the day of it
    | 'W' :: rest =>
      match digits? 2 rest with
      | none => none
      | some (week, []) => Date.ofWeek? year week 1
      | some (week, rest) =>
        match (hyphen? hyphens rest).bind (digits? 1) with
        | some (weekday, _) => Date.ofWeek? year week weekday
        | none => none
    | rest =>
      match digits? 2 rest with
      | none => none
      | some (month, rest) =>
        match (hyphen? hyphens rest).bind (digits? 2) with
        | some (day, []) => Date.make? year month day
        | _ => none

/-- A reading of a clock: hours, minutes, seconds and microseconds, not yet checked for range,
and whether characters were left over. -/
structure ClockReading where
  hours : Nat
  minutes : Nat
  seconds : Nat
  micros : Nat
  leftOver : Bool
  deriving DecidableEq, Repr

/-- The value of a reading in microseconds. -/
def ClockReading.total (r : ClockReading) : Nat :=
  ((r.hours * 60 + r.minutes) * 60 + r.seconds) * 1000000 + r.micros

/-- Whether a reading is a time of day. -/
def ClockReading.inRange (r : ClockReading) : Bool :=
  decide (r.hours < 24) && decide (r.minutes < 60) && decide (r.seconds < 60)

/-- The microseconds of a fraction, and whether a character other than a digit follows it in
`s ++ beyond`. -/
def fraction? (s beyond : Text) : Option (Nat × Bool) :=
  let count := min s.length 6
  match digits? count s with
  | none => none
  | some (n, rest) =>
    if count = 0 then none
    else
      let left := (rest ++ beyond).dropWhile isDecimal
      some (n * Nat.pow 10 (6 - count), !left.isEmpty && !standsAt left 0 (Char.ofNat 0))

/-- The reading with the given numbers, of which the last may be missing. -/
def ClockReading.ofParts (parts : List Nat) (micros : Nat) (leftOver : Bool) : ClockReading :=
  ⟨(parts[0]?).getD 0, (parts[1]?).getD 0, (parts[2]?).getD 0, micros, leftOver⟩

/-- The reading with the given numbers and a text as its fraction, which is followed by `beyond`. -/
def withFraction? (parts : List Nat) (s beyond : Text) : Option ClockReading :=
  (fraction? s beyond).map fun f => .ofParts parts f.1 f.2

/-- A clock reading from a text that is followed by `beyond`.  `parts` are the numbers read so far;
`colons` says whether they are separated by colons. -/
def clockFrom? (colons : Bool) (parts : List Nat) (beyond : Text) :
    Nat → Text → Option ClockReading
  | 0, s => withFraction? parts s beyond
  | fuel + 1, s =>
    match digits? 2 s with
    | none => none
    | some (n, rest) =>
      let parts := parts ++ [n]
      match rest with
      | [] => some (.ofParts parts 0 (beyond.head?.any (· ≠ Char.ofNat 0)))
      -- one character behind a number is left over, whatever it is
      | [c] => if isAscii c then some (.ofParts parts 0 (c ≠ Char.ofNat 0)) else none
      | c :: more =>
        -- the first separator decides for the others
        let colons := if parts.length = 1 then c == ':' else colons
        if colons && c == ':' then clockFrom? colons parts beyond fuel more
        else if c == '.' || c == ',' then withFraction? parts more beyond
        else if !colons then clockFrom? colons parts beyond fuel rest
        else none

/-- The reading of a text that is followed by `beyond`. -/
def clock? (s beyond : Text) : Option ClockReading := clockFrom? true [] beyond 3 s

/-- A character that begins the distance from universal time. -/
def beginsOffset (c : Char) : Bool := c == '+' || c == '-' || c == 'Z'

/-- A distance in microseconds, given its sign and the text behind the sign.  A distance of less
than a second is none. -/
def offset? (negative : Bool) (s : Text) : Option Int :=
  match clock? s [] with
  | none => none
  | some r =>
    if r.leftOver then none
    else
      let n := if r.total < 1000000 then 0 else r.total
      some (if negative then -n else n)

/-- The microseconds of a time, and its distance from universal time if that is stated. -/
def timeOfDay? (s : Text) : Option (Nat × Option Int) :=
  let clockPart := s.takeWhile fun c => !beginsOffset c
  let rest := s.dropWhile fun c => !beginsOffset c
  match clock? clockPart rest with
  | none => none
  | some r =>
    if !r.inRange then none
    else match rest with
      | [] => if r.leftOver then none else some (r.total, none)
      | 'Z' :: behind =>
        if behind.isEmpty || standsAt behind 0 (Char.ofNat 0) then some (r.total, some 0) else none
      | c :: behind => (offset? (c == '-') behind).map fun o => (r.total, some o)

/-- The timestamp that a text stands for. -/
def ofIso? (s : Text) : Option Timestamp :=
  if s.length < 7 then none
  else
    let n := dateLength s
    match date? (s.take n) with
    | none => none
    | some date =>
      match s.drop n with
      | [] => make? date 0 none
      | _ :: time => (timeOfDay? time).bind fun p => make? date p.1 p.2

/-- Every `Z` of a text written out as a distance of zero. -/
def expandZulu (s : Text) : Text := s.flatMap fun c => if c = 'Z' then "+00:00".toList else [c]

/-- The timestamp that a text stands for, in which `Z` may stand for universal time. -/
def ofZulu? (s : Text) : Option Timestamp := ofIso? (expandZulu s)

/-- The timestamp that a record's text stands for; universal time is meant where no distance is
stated. -/
def ofText? (s : Text) : Option Timestamp := (ofZulu? s).map (·.withOffset)

end Timestamp

end QueryGate
