import QueryGate.Text.Blank

/-!
# Splitting a projection

The items of a projection are separated by commas that stand outside parentheses and outside
quotes.  A closing parenthesis without an opening one is ignored, and a quote that is never closed
reaches to the end.  Items are trimmed, and empty items are dropped.
-/

namespace QueryGate.Projection

open Text

/-- How far a scan of a projection has come: the open quote, if any, and the number of open
parentheses. -/
structure Nesting where
  quote : Option Char
  depth : Nat
  deriving DecidableEq, Repr

namespace Nesting

/-- Outside of everything. -/
def outside : Nesting := ⟨none, 0⟩

/-- Whether a comma here separates items. -/
def separates (n : Nesting) (c : Char) : Bool := n.quote.isNone && c == ',' && n.depth == 0

/-- A character that opens a quote, which it also closes. -/
def isQuote (c : Char) : Bool := c == '\'' || c == '"' || c == '`'

/-- The nesting after a character. -/
def after (n : Nesting) (c : Char) : Nesting :=
  match n.quote with
  | some q => if c = q then ⟨none, n.depth⟩ else n
  | none =>
    if isQuote c then ⟨some c, n.depth⟩
    else if c = '(' then ⟨none, n.depth + 1⟩
    else if c = ')' then ⟨none, n.depth - 1⟩
    else n

end Nesting

/-- The pieces between separating commas, from a nesting on. -/
def pieces (n : Nesting) : Text → List Text
  | [] => [[]]
  | c :: s =>
    if n.separates c then [] :: pieces n s
    else match pieces (n.after c) s with
      | piece :: more => (c :: piece) :: more
      | [] => [[c]]

/-- The items of a projection. -/
def split (s : Text) : List Text :=
  ((pieces .outside s).map trim).filter fun item => !item.isEmpty

end QueryGate.Projection
