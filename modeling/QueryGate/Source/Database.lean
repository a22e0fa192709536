import QueryGate.Source.Selection

/-!
# A database file

A file of tables, opened for reading only.  It answers queries of one table and refuses whatever
would change it.

The schema text of a database lists its tables by name.  Tables of the database engine itself are
left out: those whose names begin with `sqlite` and one more character.  One of them can be asked
all the same, the list of the tables and of the keys that are kept beside them.
-/

namespace QueryGate

open Text Source

/-- A database file. -/
structure Database where
  /-- The tables in the order in which they were made; none if the file does not exist. -/
  tables : Option (List StoredTable)

namespace Database

/-- A database without tables. -/
def empty : Database := ⟨some []⟩

/-- The database of a file that does not exist. -/
def absent : Database := ⟨none⟩

/-- The failure to open a file that does not exist. -/
def cannotOpen : BackendError := .database "unable to open database file".toList

/-- A name in double quotes. -/
def quotedName (name : Text) : Text :=
  '"' :: name.flatMap (fun c => if c = '"' then ['"', '"'] else [c]) ++ ['"']

/-- The database with one more table. -/
def add (db : Database) (name : Text) (columns : List StoredColumn) (rows : List (List Json)) :
    Except BackendError Database :=
  let tables := db.tables.getD []
  if tables.any fun t => sameName t.name name then
    .error (.database ("table ".toList ++ quotedName name ++ " already exists".toList))
  else (StoredTable.make name columns rows).map fun t => ⟨some (tables ++ [t])⟩

/-- Whether a path has a percent sign with two hexadecimal digits behind it. -/
def hasEscape : Text → Bool
  | '%' :: a :: b :: rest => (Token.isHexDigit a && Token.isHexDigit b) || hasEscape (a :: b :: rest)
  | _ :: rest => hasEscape rest
  | [] => false

/-- The database that is found at a path where a database file was put.  The path is read as an
address: a percent sign with two hexadecimal digits stands for a byte, so that the file is looked
for under another name, and from a `#` or `?` on there is no name any more, nor the demand that the
file be there, so that an empty one is made.  One name stands for no file but for memory. -/
def foundAt (db : Database) (path : Text) : Database :=
  let isMark (c : Char) : Bool := c == '#' || c == '?'
  if path = ":memory:".toList then empty
  else if path.any isMark then
    match (path.takeWhile fun c => !isMark c).getLast? with
    | some c => if c = '/' then absent else empty
    | none => absent
  else if hasEscape path then absent
  else db

/-- The schema text of a database with a name. -/
def describe (db : Database) (name : Text) : Except BackendError Text :=
  match db.tables with
  | none => .error cannotOpen
  | some tables =>
    let shown := (tables.filter fun t => !t.isInternal).mergeSort fun a b => Text.le a.name b.name
    .ok ("Database: ".toList ++ name ++ "\n\nTables:\n".toList ++ shown.flatMap (·.block))

/-! ## The list of tables -/

/-- A column in the statement that makes a table; `isKey` says that it is the only key column. -/
def columnDefinition (isKey : Bool) (c : StoredColumn) : Text :=
  quotedName c.name ++ (if c.type.isEmpty then [] else ' ' :: c.type)
    ++ (if isKey && c.primaryKey then " PRIMARY KEY".toList else [])
    ++ (if c.notNull then " NOT NULL".toList else [])

/-- The statement that makes a table. -/
def definition (t : StoredTable) : Text :=
  let key := (t.columns.filter (·.primaryKey)).map fun c => quotedName c.name
  let lines := t.columns.map (columnDefinition (key.length == 1))
  let keyLine :=
    if 1 < key.length then ["PRIMARY KEY (".toList ++ join ", ".toList key ++ [')']] else []
  "CREATE TABLE ".toList ++ quotedName t.name ++ " (".toList ++ join ", ".toList (lines ++ keyLine)
    ++ [')']

/-- The lines of some tables in the list of tables, the first of them kept on the given page of the
file.  A key has a page of its own behind that of its table. -/
def listing : Nat → List StoredTable → List (List Json)
  | _, [] => []
  | page, t :: rest =>
    let table : List Json :=
      [.str "table".toList, .str t.name, .str t.name, .ofNat page, .str (definition t)]
    let key : List Json :=
      [.str "index".toList, .str ("sqlite_autoindex_".toList ++ t.name ++ "_1".toList), .str t.name,
        .ofNat (page + 1), .null]
    if t.hasKeyIndex then table :: key :: listing (page + 2) rest
    else table :: listing (page + 1) rest

/-- The list of tables as a table. -/
def tableList (tables : List StoredTable) : StoredTable where
  name := "sqlite_master".toList
  columns :=
    [("type", "TEXT"), ("name", "TEXT"), ("tbl_name", "TEXT"), ("rootpage", "INT"),
      ("sql", "TEXT")].map fun c => ⟨c.1.toList, c.2.toList, false, false⟩
  rows := (listing 2 tables).zipIdx.map fun row => ⟨row.2 + 1, row.1⟩

/-- Whether a name is that of the list of tables. -/
def isTableList (name : Text) : Bool :=
  ["sqlite_master".toList, "sqlite_schema".toList].any (sameName name)

/-! ## Statements -/

/-- The table of a name. -/
def table? (tables : List StoredTable) (name : Text) : Option StoredTable :=
  if isTableList name then some (tableList tables)
  else tables.find? fun t => sameName t.name name

/-- The table that a query names, unless it names none. -/
def tableOf (tables : List StoredTable) : Option TableName →
    Except BackendError (Option StoredTable)
  | none => .ok none
  | some n =>
    let isHere := n.schema.all fun schema => sameName schema "main".toList
    match if isHere then table? tables n.name else none with
    | some t => .ok (some t)
    | none => .error (.database ("no such table: ".toList ++ n.text))

/-- A command whose names have been looked up. -/
inductive Plan where
  | nothing
  | selection (s : Selection)
  /-- A change of the file. -/
  | change

/-- The plan of a command. -/
def plan (tables : List StoredTable) : Command → Except BackendError Plan
  | .nothing => .ok .nothing
  | .query q => do
    let table ← tableOf tables q.table
    let selection ← q.resolve table
    return .selection selection
  | .change none _ => .ok .change
  | .change (some name) mayLack =>
    if (table? tables name).isSome then .ok .change
    else if mayLack then .ok .nothing
    else .error (.database ("no such table: ".toList ++ name))

/-- The answer to a command; the file can be read only. -/
def Plan.answer : Plan → Except BackendError (List Row)
  | nothing => .ok []
  | selection s => s.rows
  | change => .error (.database "attempt to write a readonly database".toList)

/-- The number of values that are to be given along with a statement, after some tokens of it: a
place without a name counts for itself, a numbered one up to its number, and a name once. -/
def parameterCount : Nat → List Text → List Token → Nat
  | n, _, [] => n
  | n, seen, t :: rest =>
    if t.kind ≠ .parameter then parameterCount n seen rest
    else
      match t.text with
      | ['?'] => parameterCount (n + 1) seen rest
      | '?' :: digits => parameterCount (max n (toNat digits)) seen rest
      | name =>
        if seen.contains name then parameterCount n seen rest
        else parameterCount (n + 1) (name :: seen) rest

/-- The failure of a statement for which values are to be given. -/
def unbound (n : Nat) : BackendError :=
  .misuse ("Incorrect number of bindings supplied. The current statement uses ".toList
    ++ ofNat n ++ ", and there are 0 supplied.".toList)

/-- The answer to a statement.  What is wrong with its words and names comes first; then there must be
no other statement behind it, and no value to be given along with it. -/
def execute (db : Database) (s : Text) : Except BackendError (List Row) :=
  match db.tables with
  | none => .error cannotOpen
  | some tables => do
    if s.any (·.toNat == 0) then throw (.misuse "the query contains a null character".toList)
    let (command, hasMore) ← readCommand s
    let plan ← plan tables command
    if hasMore then throw (.misuse "You can only execute one statement at a time.".toList)
    let n := parameterCount 0 [] (Token.all s)
    if 0 < n then throw (unbound n)
    plan.answer

end Database

end QueryGate
