import QueryGate.Json.Basic

/-!
# What is too much for a text

A value has a text, and a text is read as a value, unless a whole number in it has too many digits or
too many lists and objects stand inside one another.  The first fault on the way through decides how
writing and reading fail.

How many lists and objects may stand inside one another is a number of its own each time, since both
the writer and the reader take a call for each of them: it is what the interpreter allows, less what
those who call them have used.
-/

namespace QueryGate.Json

/-- Why a text is no value, or a value has no text. -/
inductive TextFault where
  | malformed
  /-- A number has more digits than are accepted. -/
  | tooManyDigits
  /-- Too many lists and objects stand inside one another. -/
  | tooDeep
  deriving DecidableEq, Repr

/-- The number of digits beyond which a number is refused. -/
def maxDigits : Nat := 4300

/-- The fault of a whole number that is too long. -/
def numberFault? (n : Nat) : Option TextFault :=
  if n < Nat.pow 10 maxDigits then none else some .tooManyDigits

mutual

/-- The first fault in a value if `limit` more lists and objects may stand inside one another;
`countsEmpty` says whether those with nothing in them are counted. -/
def fault? (countsEmpty : Bool) : Json → Nat → Option TextFault
  | int i, _ => numberFault? i.natAbs
  | arr [], 0 => if countsEmpty then some .tooDeep else none
  | arr (_ :: _), 0 => some .tooDeep
  | arr (v :: rest), limit + 1 =>
    (fault? countsEmpty v limit).or (itemsFault? countsEmpty rest limit)
  | members [], 0 => if countsEmpty then some .tooDeep else none
  | members (_ :: _), 0 => some .tooDeep
  | members ((_, v) :: rest), limit + 1 =>
    (fault? countsEmpty v limit).or (membersFault? countsEmpty rest limit)
  | _, _ => none

/-- The first fault in the items of a list. -/
def itemsFault? (countsEmpty : Bool) : List Json → Nat → Option TextFault
  | [], _ => none
  | v :: rest, limit => (fault? countsEmpty v limit).or (itemsFault? countsEmpty rest limit)

/-- The first fault in the members of an object. -/
def membersFault? (countsEmpty : Bool) : List (JsonString × Json) → Nat → Option TextFault
  | [], _ => none
  | (_, v) :: rest, limit => (fault? countsEmpty v limit).or (membersFault? countsEmpty rest limit)

end

end QueryGate.Json
