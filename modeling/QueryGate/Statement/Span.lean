import QueryGate.Projection.Reference

/-!
# The parts of a statement that are read

Two places of a statement are looked at: the *projection*, between the first `SELECT` and the
nearest `FROM` behind it, and the *table*, the first name behind a `FROM`.  Nothing else of the
statement is parsed.

The keywords are recognised in any case and anywhere, also inside strings.  `SELECT` and `FROM`
must be whole words, except that the blanks in front of the closing `FROM` are demanded instead of
a boundary.
-/

namespace QueryGate

open Text Projection

namespace Statement

/-- What follows a keyword that ends at a word boundary. -/
def dropWholeKeyword? (keyword s : Text) : Option Text :=
  match dropKeyword? keyword s with
  | some rest => if rest.head?.any isWord then none else some rest
  | none => none

/-- What follows blanks and the closing `FROM`, if the text begins so. -/
def dropFrom? (s : Text) : Option Text := (dropBlanks? s).bind (dropWholeKeyword? "FROM".toList)

/-- The text before the first blanks and `FROM`, and the text behind them. -/
def upToFrom? : Text → Option (Text × Text)
  | [] => none
  | c :: s =>
    match dropFrom? (c :: s) with
    | some rest => some ([], rest)
    | none => (upToFrom? s).map fun p => (c :: p.1, p.2)

/-- The projection and the text behind `FROM`, for the text behind `SELECT`.  The projection begins
behind all the blanks; only if no `FROM` follows it, a `FROM` directly behind at least two blanks
closes an empty projection. -/
def projectionAfterSelect? (s : Text) : Option (Text × Text) :=
  match dropBlanks? s with
  | none => none
  | some rest =>
    match upToFrom? rest with
    | some found => some found
    | none => (dropFrom? (s.drop 1)).map fun behind => ([], behind)

/-- The first `SELECT … FROM` of a statement. -/
structure Span where
  /-- The text in front of `SELECT`. -/
  before : Text
  /-- The text between the keywords, without the blanks beside them. -/
  projection : Text
  /-- The text behind `FROM`. -/
  after : Text
  deriving DecidableEq, Repr

/-- The first span of the text that follows the character `last`. -/
def spanFrom? (last : Option Char) : Text → Option Span
  | [] => none
  | c :: s =>
    let found :=
      if last.any isWord then none
      else (dropKeyword? "SELECT".toList (c :: s)).bind projectionAfterSelect?
    match found with
    | some (projection, after) => some ⟨[], projection, after⟩
    | none => (spanFrom? (some c) s).map fun span => { span with before := c :: span.before }

/-- The first span of a statement. -/
def span? (s : Text) : Option Span := spanFrom? none s

/-- The statement with another projection in its span. -/
def Span.withProjection (span : Span) (projection : Text) : Text :=
  span.before ++ "SELECT ".toList ++ projection ++ " FROM".toList ++ span.after

/-- The name at the start of a text, without the marks around it. -/
def leadingName? (s : Text) : Option Text :=
  match (dropOne opensName s).takeWhile isWord with
  | [] => none
  | name => some name

/-- The table named at the start of a text, without one qualifier in front. -/
def leadingTable? (s : Text) : Option Text :=
  match (dropQualifier? s).bind leadingName? with
  | some name => some name
  | none => leadingName? s

/-- The first table named behind a `FROM` in the text that follows the character `last`. -/
def tableFrom? (last : Option Char) : Text → Option Text
  | [] => none
  | c :: s =>
    let found :=
      if last.any isWord then none
      else ((dropKeyword? "FROM".toList (c :: s)).bind dropBlanks?).bind leadingTable?
    match found with
    | some name => some name
    | none => tableFrom? (some c) s

/-- The first table that a statement names behind a `FROM`. -/
def table? (s : Text) : Option Text := tableFrom? none s

end Statement

end QueryGate
