import QueryGate.Error
import QueryGate.Source.Token

/-!
# Reading statements

A database understands queries of one table: some columns, every column, counts and constants, with
aliases and a limit.  It also recognises the statements that would change it, as far as to know the
table that they are about.

A statement is read token by token, and the first token that does not fit decides what is wrong
with it.  Anything that may stand in a query but is not understood is passed over and kept as one
token, so that what is wrong with the tables of the query is still found first.
-/

namespace QueryGate.Source

open Text

/-! ## Queries -/

/-- How a name is written. -/
inductive NameForm where
  | bare
  | quoted
  /-- In double quotes, so that it may be a text instead. -/
  | orText
  deriving DecidableEq, Repr

/-- A name that is meant for a column. -/
structure ColumnName where
  /-- The table in front, and perhaps the schema in front of that. -/
  front : List Text
  name : Text
  form : NameForm
  deriving DecidableEq, Repr

/-- The name with what stands in front of it. -/
def ColumnName.text (c : ColumnName) : Text := join ['.'] (c.front ++ [c.name])

/-- An expression. -/
inductive Expression where
  | constant (v : Json)
  | column (c : ColumnName)
  /-- The number of rows. -/
  | rowCount
  /-- The number of rows in which a column is not null. -/
  | valueCount (c : ColumnName)
  /-- A value that is given along with the statement. -/
  | parameter
  /-- Any other expression, by the token that it begins with. -/
  | other (t : Token)
  deriving Repr

/-- What an item of a query shows. -/
inductive Shown where
  /-- Every column, of the named table if there is a name. -/
  | everything (table : Option Text)
  | value (e : Expression)
  deriving Repr

/-- An item of a query. -/
structure QueryItem where
  shown : Shown
  /-- The item as it is written. -/
  source : Text
  alias_ : Option Text
  deriving Repr

/-- The table of a query. -/
structure TableName where
  schema : Option Text
  name : Text
  alias_ : Option Text
  deriving DecidableEq, Repr

/-- The table with its schema. -/
def TableName.text (t : TableName) : Text := join ['.'] (t.schema.toList ++ [t.name])

/-- A query. -/
structure Query where
  distinct : Bool
  items : List QueryItem
  table : Option TableName
  limit : Option Expression
  /-- The number of rows that are left out in front. -/
  offset : Option Expression
  /-- The first token of what is not understood. -/
  beyond : Option Token
  deriving Repr

/-- What a statement asks for. -/
inductive Command where
  | nothing
  | query (q : Query)
  /-- A change, of a table if one is named; `mayLack` says that the table need not be there. -/
  | change (table : Option Text) (mayLack : Bool)
  deriving Repr

/-! ## Words -/

/-- The words that are never names. -/
def reserved : List String := [
  "ADD", "ALTER", "AND", "AS", "AUTOINCREMENT", "BETWEEN", "CHECK", "COLLATE", "COMMIT",
  "CONSTRAINT", "CREATE", "DEFAULT", "DEFERRABLE", "DELETE", "DROP", "ELSE", "ESCAPE", "EXCEPT",
  "FOREIGN", "FROM", "GROUP", "HAVING", "IN", "INDEX", "INSERT", "INTERSECT", "INTO", "IS",
  "ISNULL", "JOIN", "LIMIT", "NOTHING", "NOTNULL", "ON", "OR", "ORDER", "PRIMARY", "REFERENCES",
  "RETURNING", "SELECT", "SET", "TABLE", "THEN", "TO", "TRANSACTION", "UNION", "UNIQUE", "UPDATE",
  "USING", "VALUES", "WHEN", "WHERE"]

/-- The words beside these that are no names of tables and no aliases. -/
def notNames : List String := ["ALL", "CASE", "DISTINCT", "EXISTS", "NOT", "NULL"]

/-- The words that join tables; they are no aliases unless announced, and no names of functions. -/
def joinWords : List String := [
  "CROSS", "FULL", "INNER", "LEFT", "NATURAL", "OUTER", "RIGHT"]

/-- The words that continue an expression and must be followed by more. -/
def infixWords : List String := [
  "AND", "BETWEEN", "COLLATE", "GLOB", "IN", "IS", "LIKE", "MATCH", "NOT", "OR", "REGEXP"]

/-- The words that end an expression. -/
def postfixWords : List String := ["ISNULL", "NOTNULL"]

/-- The marks that continue an expression. -/
def infixMarks : List String := [
  "+", "-", "*", "/", "%", "=", "==", "<", "<=", "<>", ">", ">=", "<<", ">>", "!=", "|", "||", "&",
  "->", "->>"]

/-- The words that begin a further part of a query. -/
def clauseWords : List String := [
  "EXCEPT", "GROUP", "HAVING", "INTERSECT", "ORDER", "UNION", "WHERE"]

/-- The words that begin a further part of a query behind its table. -/
def tableWords : List String :=
  clauseWords ++ joinWords ++ ["INDEXED", "JOIN", "NOT", "ON", "USING"]

/-- The times that a statement may ask for. -/
def timeWords : List String := ["CURRENT_DATE", "CURRENT_TIME", "CURRENT_TIMESTAMP"]

/-! ## Reading -/

/-- The failure of a statement whose next token does not fit. -/
def unexpected : List Token → BackendError
  | [] => .database "incomplete input".toList
  | t :: _ =>
    match t.kind with
    | .ending => .database "incomplete input".toList
    | .illegal => .database ("unrecognized token: \"".toList ++ t.text ++ ['"'])
    | _ => .database ("near \"".toList ++ t.text ++ "\": syntax error".toList)

/-- The tokens behind one that satisfies `p`. -/
def expect (p : Token → Bool) : List Token → Except BackendError (List Token)
  | t :: rest => if p t then .ok rest else .error (unexpected (t :: rest))
  | [] => .error (unexpected [])

/-- The name that a token is, in a place where no expression may stand. -/
def nameOf? (t : Token) : Option Text :=
  match t.kind with
  | .name s => some s
  | .nameOrText s => some s
  | .text s => some s
  | .word => if t.isOneOf (reserved ++ notNames) then none else some t.text
  | _ => none

/-- The name at the start of some tokens. -/
def readName : List Token → Except BackendError (Text × List Token)
  | [] => .error (unexpected [])
  | t :: rest =>
    match nameOf? t with
    | some name => .ok (name, rest)
    | none => .error (unexpected (t :: rest))

/-- Whether the first of some tokens is a given mark. -/
def startsWith (mark : String) (l : List Token) : Bool := l.head?.any (·.isMark mark)

/-- The alias at the start of some tokens, if there is one: announced, or else not one of some
words. -/
def readAlias (refused : List String) (l : List Token) :
    Except BackendError (Option Text × List Token) :=
  match l with
  | [] => .ok (none, [])
  | t :: rest =>
    if t.isWord "AS" then (readName rest).map fun p => (some p.1, p.2)
    else if t.isOneOf refused then .ok (none, l)
    else match nameOf? t with
      | some name => .ok (some name, rest)
      | none => .ok (none, l)

/-- A column, given the first of its names and the tokens behind that. -/
def readColumn (first : Text) (form : NameForm) (l : List Token) :
    Except BackendError (ColumnName × List Token) :=
  if !startsWith "." l then .ok (⟨[], first, form⟩, l)
  else do
    let (second, l) ← readName (l.drop 1)
    if !startsWith "." l then return (⟨[first], second, .quoted⟩, l)
    let (third, l) ← readName (l.drop 1)
    return (⟨[first, second], third, .quoted⟩, l)

/-- The name that a token is where an expression may stand, and how it is written. -/
def columnStart? (t : Token) : Option (Text × NameForm) :=
  match t.kind with
  | .name s => some (s, .quoted)
  | .nameOrText s => some (s, .orText)
  | .word =>
    if t.isOneOf (reserved ++ notNames ++ timeWords ++ ["CAST", "RAISE"]) then none
    else some (t.text, .bare)
  | _ => none

/-- The value of hexadecimal digits. -/
def hexValue (digits : Text) : Nat :=
  digits.foldl (fun n c =>
    16 * n + (if isAsciiDigit c then c.toNat - '0'.toNat
      else (asciiLower c).toNat - 'a'.toNat + 10)) 0

/-- A number, or its negation.  Whole numbers that are too large are floating point numbers. -/
def numberValue (negative : Bool) (s : Text) : Json :=
  let signed (n : Int) : Json := .int (if negative then -n else n)
  match s with
  | '0' :: 'x' :: digits => signed (wrapped (hexValue digits))
  | '0' :: 'X' :: digits => signed (wrapped (hexValue digits))
  | _ =>
    match Numeral.ofText? (if negative then '-' :: s else s) with
    | none => .null
    | some x =>
      match x.toInt? with
      | some i => .int i
      | none => .float x.toBinary64
where
  /-- A number of 64 bits as a whole number with a sign. -/
  wrapped (n : Nat) : Int := if n ≤ maxWhole then n else (n : Int) - Nat.pow 2 64

/-- Whether a token cannot begin an expression. -/
def endsExpression (t : Token) : Bool :=
  t.isWord "FROM" || t.isMark "," || t.isMark ")" || t.isMark ";" || t.kind == .ending
    || t.kind == .illegal

/-- Whether an expression goes on with a token. -/
def continues (t : Token) : Bool :=
  infixMarks.any t.isMark || t.isOneOf infixWords || t.isOneOf postfixWords

/-- The tokens behind an expression that is not understood, given for each bracket that is open
whether a query stands in it. -/
def passOver : List Bool → List Token → Except BackendError (List Token)
  | _, [] => .error (unexpected [])
  | open_, t :: rest =>
    if t.kind = .illegal then .error (unexpected (t :: rest))
    else if t.isMark "(" then passOver (false :: open_) rest
    else match open_ with
      | [] =>
        if endsExpression t then
          if t.isMark ")" then .error (unexpected (t :: rest)) else .ok (t :: rest)
        -- a word that joins tables names no function
        else if t.isOneOf joinWords && startsWith "(" rest then .error (unexpected rest)
        else passOver [] rest
      | query :: outer =>
        if t.kind = .ending ∨ (t.isWord "FROM" ∧ !query) ∨ t.isMark ";" then
          .error (unexpected (t :: rest))
        else if t.isMark ")" then passOver outer rest
        else if t.isWord "SELECT" then passOver (true :: outer) rest
        else if t.isOneOf joinWords && startsWith "(" rest then .error (unexpected rest)
        else passOver (query :: outer) rest

/-- An expression that is not understood. -/
def readOther (t : Token) (rest : List Token) : Except BackendError (Expression × List Token) :=
  (passOver [] (t :: rest)).map (.other t, ·)

/-- A count, given its name and the tokens behind the opening bracket. -/
def readCount (t : Token) (l : List Token) : Except BackendError (Expression × List Token) :=
  match l with
  | u :: rest =>
    if u.isMark ")" then .ok (.rowCount, rest)
    else if u.isMark "*" then (expect (·.isMark ")") rest).map (.rowCount, ·)
    else if u.isOneOf reserved then .error (unexpected l)
    else
      match columnStart? u with
      | some (first, form) =>
        match readColumn first form rest with
        | .ok (c, v :: behind) =>
          if v.isMark ")" then .ok (.valueCount c, behind)
          else if continues v || v.isMark "," || v.isMark "(" then other
          else .error (unexpected (v :: behind))
        | _ => other
      | none => other
  | [] => .error (unexpected [])
where
  /-- A count of something that is not understood. -/
  other : Except BackendError (Expression × List Token) := (passOver [false] l).map (.other t, ·)

/-- An expression that begins with a name or word, given the tokens behind it. -/
def readNamed (t : Token) (rest : List Token) : Except BackendError (Expression × List Token) :=
  if t.isWord "NULL" then .ok (.constant .null, rest)
  else if t.isOneOf ["CAST", "EXISTS", "RAISE"] then
    if startsWith "(" rest then readOther t rest else .error (unexpected rest)
  else if t.isOneOf ["CASE", "NOT"] then
    if rest.head?.any endsExpression then .error (unexpected rest) else readOther t rest
  else if t.isOneOf timeWords then
    if startsWith "(" rest then .error (unexpected rest) else .ok (.other t, rest)
  else
    match columnStart? t with
    | none => .error (unexpected (t :: rest))
    | some (first, form) =>
      if !startsWith "(" rest then (readColumn first form rest).map fun p => (.column p.1, p.2)
      else if t.isOneOf joinWords then .error (unexpected rest)
      else if sameName first "count".toList then readCount t (rest.drop 1)
      else readOther t rest

/-- An expression without operators, behind some signs. -/
def readSimple (negative : Bool) : List Token → Except BackendError (Expression × List Token)
  | [] => .error (unexpected [])
  | t :: rest =>
    match t.kind with
    | .number => .ok (.constant (numberValue negative t.text), rest)
    | .text s => if negative then readOther t rest else .ok (.constant (.str s), rest)
    | .parameter => .ok (.parameter, rest)
    | .mark =>
      if t.isMark "-" then readSimple (!negative) rest
      else if t.isMark "+" then readSimple negative rest
      else if t.isMark "(" || t.isMark "~" then readOther t rest
      else .error (unexpected (t :: rest))
    | .ending => .error (unexpected (t :: rest))
    | .illegal => .error (unexpected (t :: rest))
    | _ =>
      match readNamed t rest with
      | .ok (e, rest) => .ok (if negative then .other t else e, rest)
      | .error e => .error e

/-- An expression. -/
def readExpression (l : List Token) : Except BackendError (Expression × List Token) :=
  match readSimple false l with
  | .error e => .error e
  | .ok (e, []) => .ok (e, [])
  | .ok (e, t :: rest) =>
    if !continues t then .ok (e, t :: rest)
    else if !t.isOneOf postfixWords && rest.head?.any endsExpression then
      .error (unexpected rest)
    else readOther t rest

/-- What an item shows, at the start of some tokens. -/
def readShown (l : List Token) : Except BackendError (Shown × List Token) :=
  match l with
  | t :: u :: v :: rest =>
    if t.isMark "*" then .ok (.everything none, u :: v :: rest)
    else if u.isMark "." && v.isMark "*" then
      match nameOf? t with
      | some name => .ok (.everything (some name), rest)
      | none => .error (unexpected l)
    else (readExpression l).map fun p => (.value p.1, p.2)
  | t :: rest =>
    if t.isMark "*" then .ok (.everything none, rest)
    else (readExpression l).map fun p => (.value p.1, p.2)
  | [] => .error (unexpected [])

/-- An item at the start of some tokens.  Every column together have no alias. -/
def readItem (l : List Token) : Except BackendError (QueryItem × List Token) := do
  let (shown, rest) ← readShown l
  let read := l.take (l.length - rest.length)
  let gap := (rest.head?.map (·.gap)).getD []
  let source := dropEndWhile isAsciiBlank (Token.written read ++ gap)
  match shown with
  | .everything _ => return (⟨shown, source, none⟩, rest)
  | .value _ =>
    let (alias_, rest) ← readAlias (joinWords ++ ["INDEXED"]) rest
    return (⟨shown, source, alias_⟩, rest)

/-- The items of a query; `fuel` bounds their number. -/
def readItems : Nat → List Token → Except BackendError (List QueryItem × List Token)
  | 0, l => .error (unexpected l)
  | fuel + 1, l => do
    let (item, rest) ← readItem l
    if startsWith "," rest then
      let (more, rest) ← readItems fuel (rest.drop 1)
      return (item :: more, rest)
    return ([item], rest)

/-- The table of a query. -/
def readTable (l : List Token) : Except BackendError (TableName × List Token) := do
  let (first, l) ← readName l
  let (names, l) ←
    if startsWith "." l then
      let (second, l) ← readName (l.drop 1)
      pure ((some first, second), l)
    else pure ((none, first), l)
  let (alias_, l) ← readAlias (joinWords ++ ["INDEXED"]) l
  return (⟨names.1, names.2, alias_⟩, l)

/-- The limits of a query and what of it is not understood, given the words that may begin such a
thing. -/
def readEnd (words : List String) (q : Query) (l : List Token) :
    Except BackendError (Query × List Token) :=
  match l with
  | [] => .ok (q, [])
  | t :: rest =>
    if t.kind = .ending ∨ t.isMark ";" then .ok (q, l)
    else if t.isWord "LIMIT" then do
      let (first, rest) ← readExpression rest
      -- with a comma the offset comes first
      let (limit, offset, rest) ←
        if rest.head?.any fun u => u.isWord "OFFSET" then
          let (second, rest) ← readExpression (rest.drop 1)
          pure (first, some second, rest)
        else if startsWith "," rest then
          let (second, rest) ← readExpression (rest.drop 1)
          pure (second, some first, rest)
        else pure (first, none, rest)
      return ({ q with limit := some limit, offset := offset }, rest)
    else if t.isOneOf words || t.isMark "," then
      if rest.head?.any endsExpression then .error (unexpected rest)
      else
        -- the rest of the statement is passed over, up to a token that stands in none
        match l.dropWhile fun u => u.kind ≠ .illegal && u.kind ≠ .ending && !u.isMark ";" with
        | u :: behind =>
          if u.kind = .illegal then .error (unexpected (u :: behind))
          else .ok ({ q with beyond := some t }, u :: behind)
        | [] => .ok ({ q with beyond := some t }, [])
    else .error (unexpected l)

/-- A query, given the tokens behind its first word. -/
def readQuery (l : List Token) : Except BackendError (Query × List Token) := do
  let isDistinct := l.head?.any fun t => t.isWord "DISTINCT"
  let l := if l.head?.any fun t => t.isOneOf ["ALL", "DISTINCT"] then l.drop 1 else l
  let (items, l) ← readItems l.length l
  let q : Query := ⟨isDistinct, items, none, none, none, none⟩
  match l with
  | t :: rest =>
    if !t.isWord "FROM" then readEnd clauseWords q l
    else if startsWith "(" rest then
      let rest ← passOver [] rest
      return ({ q with beyond := some t }, rest)
    else
      let (table, rest) ← readTable rest
      readEnd tableWords { q with table := some table } rest
  | [] => return (q, [])

/-- The words that begin a statement that would change the database. -/
def changeWords : List String := [
  "ALTER", "CREATE", "DELETE", "DROP", "INSERT", "REPLACE", "UPDATE"]

/-- The tokens behind a choice of what is done with rows that break a rule. -/
def dropConflict (l : List Token) : List Token :=
  if l.head?.any fun t => t.isWord "OR" then l.drop 2 else l

/-- A change, given its first word and the tokens behind. -/
def readChange (t : Token) (l : List Token) : Except BackendError (Command × List Token) :=
  let about (l : List Token) : Except BackendError (Command × List Token) :=
    (readName l).map fun p => (.change (some p.1) false, p.2)
  if t.isWord "DELETE" then do about (← expect (·.isWord "FROM") l)
  else if t.isOneOf ["INSERT", "REPLACE"] then do
    about (← expect (·.isWord "INTO") (dropConflict l))
  else if t.isWord "UPDATE" then about (dropConflict l)
  else if t.isWord "ALTER" then do about (← expect (·.isWord "TABLE") l)
  else
    match l with
    | u :: v :: w :: rest =>
      if !u.isWord "TABLE" || t.isWord "CREATE" then .ok (.change none false, l)
      else if v.isWord "IF" && w.isWord "EXISTS" then
        (readName rest).map fun p => (.change (some p.1) true, p.2)
      else about (v :: w :: rest)
    | _ => if t.isWord "CREATE" then .ok (.change none false, l) else about (l.drop 1)

/-- What a statement asks for, and whether another statement follows it. -/
def readCommand (s : Text) : Except BackendError (Command × Bool) := do
  match (Token.all s).dropWhile (·.isMark ";") with
  | [] => return (.nothing, false)
  | t :: rest =>
    if t.kind = .ending then return (.nothing, false)
    else
      let (command, rest) ←
        if t.isWord "SELECT" then
          (readQuery rest).map fun p => (Command.query p.1, p.2)
        else if t.isOneOf changeWords then
          (readChange t rest).map fun p => (p.1, p.2.dropWhile fun u => !u.isMark ";")
        else .error (unexpected (t :: rest))
      match rest with
      | u :: behind =>
        if u.isMark ";" then return (command, behind.any (·.kind != .ending))
        else if u.kind = .ending then return (command, false)
        else throw (unexpected rest)
      | [] => return (command, false)

end QueryGate.Source
