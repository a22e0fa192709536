import QueryGate.Projection.Quantifier

/-!
# The column an item reads

`Projection.reference` reduces one item of a projection to the bare column it reads: leading
quantifiers and a trailing alias are dropped, function calls are opened, qualifiers in front of
dots are dropped, and quotes are removed.  Items that read no column have no reference: calls over
whole rows, the literal `1` and a lone `DISTINCT`.

A name may be wrapped in back quotes, double quotes or brackets; one of the two marks may be
missing.
-/

namespace QueryGate.Projection

open Text

/-- The item that stands for every column. -/
def wildcard : Text := ['*']

/-- A mark that may open a wrapped name. -/
def opensName (c : Char) : Bool := c == '`' || c == '"' || c == '['

/-- A mark that may close a wrapped name. -/
def closesName (c : Char) : Bool := c == '`' || c == '"' || c == ']'

/-- A text without one leading character that satisfies `p`. -/
def dropOne (p : Char → Bool) : Text → Text
  | c :: s => if p c then s else c :: s
  | [] => []

/-- What follows a non-empty word, if the text begins with one. -/
def dropWord? : Text → Option Text
  | c :: s => if isWord c then some (s.dropWhile isWord) else none
  | [] => none

/-- What follows a possibly wrapped name, if the text begins with one. -/
def dropName? (s : Text) : Option Text :=
  (dropWord? (dropOne opensName s)).map (dropOne closesName)

/-- What follows a name and the dot behind it. -/
def dropQualifier? (s : Text) : Option Text := (dropName? s).bind (dropLead? ['.'])

/-- What follows the leading qualifiers, at most `fuel` of them. -/
def dropQualifiersUpTo : Nat → Text → Text
  | 0, s => s
  | fuel + 1, s =>
    match dropQualifier? s with
    | some rest => dropQualifiersUpTo fuel rest
    | none => s

/-- A text without its leading qualifiers.  A text of some length holds at most as many. -/
def dropQualifiers (s : Text) : Text := dropQualifiersUpTo s.length s

/-- What stands before a trailing name and the blanks in front of it; `back` is the text read
backwards, and so is the answer. -/
def beforeLastName? (back : Text) : Option Text :=
  ((dropWord? (dropOne closesName back)).map (dropOne opensName)).bind dropBlanks?

/-- The text in front of an alias that is introduced by `AS`, or else the whole text. -/
def dropAsAlias (s : Text) : Text :=
  match ((beforeLastName? s.reverse).bind (dropKeyword? "SA".toList)).bind dropBlanks? with
  | some back => back.reverse
  | none => s

/-- A character that may end what an alias is given to. -/
def endsAliased (c : Char) : Bool := isWord c || closesName c || c == ')'

/-- The text in front of an alias that is given without `AS`, or else the whole text. -/
def dropBareAlias (s : Text) : Text :=
  match beforeLastName? s.reverse with
  | some (c :: back) => if endsAliased c then trim (c :: back).reverse else s
  | _ => s

/-- What stands between the parentheses of a call, for a text that is one call. -/
def callArgument? (s : Text) : Option Text :=
  match (dropWord? s).map trimLeft with
  | some ('(' :: inner) => if inner.getLast? = some ')' then some inner.dropLast else none
  | _ => none

/-- The innermost argument of nested calls, at most `fuel` of them; none for a call without an
argument or over whole rows. -/
def openCallsUpTo : Nat → Text → Option Text
  | 0, s => some s
  | fuel + 1, s =>
    match callArgument? s with
    | none => some s
    | some inner =>
      let argument := dropQuantifiers (trim inner)
      if argument = wildcard ∨ argument = [] then none else openCallsUpTo fuel argument

/-- The innermost argument of nested calls.  Calls are shorter than the text around them. -/
def openCalls (s : Text) : Option Text := openCallsUpTo s.length s

/-- A mark that never belongs to a reference. -/
def isQuoteMark (c : Char) : Bool := c == '`' || c == '"' || c == '\'' || c == '[' || c == ']'

/-- A text without quotes and brackets. -/
def unquote (s : Text) : Text := s.filter fun c => !isQuoteMark c

/-- What is left of items that read no column. -/
def isNoise (s : Text) : Bool :=
  s.isEmpty || toUpper s == ['1'] || toUpper s == "DISTINCT".toList

/-- The column that an item reads: a bare name, `*`, or none. -/
def reference (item : Text) : Option Text :=
  match openCalls (dropBareAlias (dropAsAlias (dropQuantifiers (trim item)))) with
  | none => none
  | some core =>
    let name := trim (unquote (dropQualifiers core))
    if isNoise name then none else some name

end QueryGate.Projection
