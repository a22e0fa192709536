import QueryGate.Pattern

/-!
# Set quantifiers

A projection may be led by set quantifiers and row modifiers: `DISTINCT`, `ALL`, `TOP` with a row
count, and the modifiers of some dialects.  Each is followed by a blank.  They belong to no item
and are taken off before an item is read.
-/

namespace QueryGate.Projection

open Text Pattern

/-- The row modifiers of some dialects, after the first. -/
def modifiers : List Text := [
  "STRAIGHT_JOIN".toList, "SQL_CALC_FOUND_ROWS".toList, "SQL_NO_CACHE".toList,
  "SQL_CACHE".toList, "SQL_SMALL_RESULT".toList, "SQL_BIG_RESULT".toList,
  "SQL_BUFFER_RESULT".toList]

/-- `TOP` with a row count, bare or in parentheses, and its options. -/
def topRows : Pattern := all [
  keyword "TOP".toList, run .blank, opt (keyword "(".toList), run .blank, run1 .digit,
  run .blank, opt (keyword ")".toList),
  opt (all [run1 .blank, keyword "PERCENT".toList]),
  opt (all [run1 .blank, keyword "WITH".toList, run1 .blank, keyword "TIES".toList])]

/-- One quantifier with the blanks behind it. -/
def quantifier : Pattern :=
  seq
    (alt (seq (keyword "DISTINCT".toList) (opt (keyword "ROW".toList)))
      (alt (keyword "ALL".toList)
        (alt topRows (oneOf "HIGH_PRIORITY".toList modifiers))))
    (run1 .blank)

/-- What follows the first quantifier of a text that begins with one. -/
def dropQuantifier? (s : Text) : Option Text := (quantifier.firstEnd? (.start s)).map (·.rest)

/-- What follows the leading quantifiers, at most `fuel` of them. -/
def dropQuantifiersUpTo : Nat → Text → Text
  | 0, s => s
  | fuel + 1, s =>
    match dropQuantifier? s with
    | some rest => dropQuantifiersUpTo fuel rest
    | none => s

/-- A text without its leading quantifiers.  A text of some length holds at most as many. -/
def dropQuantifiers (s : Text) : Text := dropQuantifiersUpTo s.length s

/-- The leading quantifiers of a text, with the blanks behind them. -/
def leadingQuantifiers (s : Text) : Text := s.take (s.length - (dropQuantifiers s).length)

/-- The leading quantifiers with one space behind each of their words. -/
def quantifierPrefix (s : Text) : Text :=
  (words (leadingQuantifiers s)).flatMap fun word => word ++ [' ']

end QueryGate.Projection
