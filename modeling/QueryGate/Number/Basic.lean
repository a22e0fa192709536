import QueryGate.Json.Basic
import QueryGate.Number.Decimal

/-!
# Numbers given by callers

A duration or limit may be given as a whole number or as a floating point number, and is shown
again as it was given.
-/

namespace QueryGate

open Text

/-- A whole or floating point number. -/
inductive Number where
  | int (i : Int)
  | float (x : Binary64)
  deriving DecidableEq, Repr

namespace Number

/-- The number in floating point. -/
def toBinary64 : Number → Binary64
  | int i => .ofInt i
  | float x => x

/-- The number as a JSON value. -/
def toJson : Number → Json
  | int i => .int i
  | float x => .float x

/-- Whether the number is greater than zero. -/
def isPositive : Number → Bool
  | int i => decide (0 < i)
  | float x => Binary64.lt .zero x

/-- Whether the number is zero or less. -/
def isNonpositive : Number → Bool
  | int i => decide (i ≤ 0)
  | float x => Binary64.le x .zero

/-- Less or equal. -/
def le (a b : Number) : Bool := Binary64.le a.toBinary64 b.toBinary64

/-- The number in at most six digits, as messages show it. -/
def toMessageText (a : Number) : Text := a.toBinary64.toMessageText

end Number

end QueryGate
