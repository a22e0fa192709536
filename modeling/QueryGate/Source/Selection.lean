import QueryGate.Source.Query
import QueryGate.Source.Table

/-!
# Selections

A query is first resolved: every name in it is looked up in its table, which gives the columns of
the result with their names and values.  A selection that is resolved has no names left to look up,
and is evaluated on the rows of the table.

A query with a count in it has one row of result, in which other columns have the values of the
first row that is read.
-/

namespace QueryGate

open Text

/-- A result row: column names with values. -/
abbrev Row := List (Text × Json)

namespace Source

/-- A table under the name that a query gives it. -/
structure Scope where
  table : StoredTable
  name : Text

/-- A value that a row of a table has. -/
inductive Cell where
  | constant (v : Json)
  | column (position : Nat)
  /-- The number of the row. -/
  | rowNumber
  deriving Repr

/-- A value of a result. -/
inductive ResultValue where
  | cell (c : Cell)
  /-- The number of rows. -/
  | rowCount
  /-- The number of rows in which a value is not null. -/
  | valueCount (c : Cell)
  deriving Repr

/-- A column of a result. -/
structure ResultColumn where
  name : Text
  value : ResultValue
  deriving Repr

/-- A query whose names have been looked up. -/
structure Selection where
  /-- The table, unless the query has none. -/
  table : Option StoredTable
  columns : List ResultColumn
  distinct : Bool
  limit : Option Json
  offset : Option Json

/-! ## Names -/

namespace Scope

/-- Whether a column with some names in front may be one of the table. -/
def covers (scope : Scope) : List Text → Bool
  | [] => true
  | [table] => sameName table scope.name
  | [schema, table] => sameName schema "main".toList && sameName table scope.name
  | _ => false

/-- Whether a name stands for the number of a row. -/
def isRowNumber (name : Text) : Bool :=
  ["rowid".toList, "oid".toList, "_rowid_".toList].any (sameName name)

/-- The value that a name stands for. -/
def cell? (scope : Scope) (c : ColumnName) : Option Cell :=
  if !scope.covers c.front then none
  else
    match scope.table.position? c.name with
    | some i => some (.column i)
    | none => if isRowNumber c.name then some .rowNumber else none

end Scope

/-- The constant that a name stands for where no column has it: a truth value, or a text in double
quotes. -/
def ColumnName.constant? (c : ColumnName) : Option Json :=
  match c.front, c.form with
  | [], .orText => some (.str c.name)
  | [], .bare =>
    if sameName c.name "true".toList then some (.int 1)
    else if sameName c.name "false".toList then some (.int 0)
    else none
  | _, _ => none

/-- The value that a name stands for in a query. -/
def cellOf (scope : Option Scope) (c : ColumnName) : Except BackendError Cell :=
  match (scope.bind (·.cell? c)).or (c.constant?.map .constant) with
  | some cell => .ok cell
  | none => .error (.database ("no such column: ".toList ++ c.text))

/-- The value that an expression stands for.  One that is given along with the statement is null
until then. -/
def valueOf (scope : Option Scope) : Expression → Except BackendError ResultValue
  | .constant v => .ok (.cell (.constant v))
  | .column c => (cellOf scope c).map .cell
  | .rowCount => .ok .rowCount
  | .valueCount c => (cellOf scope c).map .valueCount
  | .parameter => .ok (.cell (.constant .null))
  | .other t => .error (unexpected [t])

/-- The name of a result column without an alias: that of a column of the table as declared, and
otherwise the text of the item. -/
def titleOf (scope : Option Scope) (v : ResultValue) (source : Text) : Text :=
  let declared (i : Nat) : Option Text :=
    scope.bind fun s => (s.table.columns[i]?).map (·.name)
  match v with
  | .cell (.column i) => (declared i).getD source
  | .cell .rowNumber =>
    ((scope.bind fun s => s.table.numberPosition?).bind declared).getD "rowid".toList
  | _ => source

/-- Every column of a table. -/
def everyColumn (t : StoredTable) : List ResultColumn :=
  t.columns.zipIdx.map fun c => ⟨c.1.name, .cell (.column c.2)⟩

/-- What is wrong with an item that shows every column of a table that is not there. -/
def missingTable? (scope : Option Scope) (item : QueryItem) : Option BackendError :=
  match item.shown with
  | .everything none =>
    if scope.isNone then some (.database "no tables specified".toList) else none
  | .everything (some name) =>
    if scope.any (·.covers [name]) then none
    else some (.database ("no such table: ".toList ++ name))
  | .value _ => none

/-- The result columns of an item. -/
def QueryItem.columns (scope : Option Scope) (item : QueryItem) :
    Except BackendError (List ResultColumn) :=
  match item.shown with
  | .everything _ => .ok ((scope.map fun s => everyColumn s.table).getD [])
  | .value e => (valueOf scope e).map fun v =>
    [⟨item.alias_.getD (titleOf scope v item.source), v⟩]

/-- The result columns of several items. -/
def columnsOf (scope : Option Scope) : List QueryItem → Except BackendError (List ResultColumn)
  | [] => .ok []
  | item :: rest => do
    let here ← item.columns scope
    let more ← columnsOf scope rest
    return here ++ more

/-- The value of a limit, which stands for every row, so that it may name no column. -/
def limitOf : Option Expression → Except BackendError (Option Json)
  | none => .ok none
  | some e =>
    match valueOf none e with
    | .ok (.cell (.constant v)) => .ok (some v)
    | .ok _ => .error (.database "misuse of aggregate function COUNT()".toList)
    | .error fault => .error fault

/-- The selection that a query asks for, given its table. -/
def Query.resolve (q : Query) (table : Option StoredTable) : Except BackendError Selection := do
  let scope := table.map fun t =>
    (⟨t, ((q.table.bind (·.alias_)).getD t.name)⟩ : Scope)
  match q.items.reverse.findSome? (missingTable? scope) with
  | some fault => throw fault
  | none => pure ()
  let limit ← limitOf q.limit
  let offset ← limitOf q.offset
  let columns ← columnsOf scope q.items
  match q.beyond with
  | some t => throw (unexpected [t])
  | none => return ⟨table, columns, q.distinct, limit, offset⟩

/-! ## Values -/

namespace Cell

/-- The position of the column that the value is read from, if there is one. -/
def position? : Cell → Option Nat
  | .column i => some i
  | _ => none

/-- The value in a row; without a row, only a constant is there. -/
def valueIn (row : Option StoredRow) : Cell → Json
  | .constant v => v
  | .column i => ((row.bind fun r => r.values[i]?)).getD .null
  | .rowNumber => (row.map fun r => Json.int r.number).getD .null

end Cell

namespace ResultValue

/-- Whether the value is a count. -/
def isCount : ResultValue → Bool
  | .cell _ => false
  | _ => true

/-- The position of the column that the value is read from, if there is one. -/
def position? : ResultValue → Option Nat
  | .cell c => c.position?
  | .rowCount => none
  | .valueCount c => c.position?

/-- The value for a row out of all. -/
def valueIn (all : List StoredRow) (row : Option StoredRow) : ResultValue → Json
  | .cell c => c.valueIn row
  | .rowCount => .ofNat all.length
  | .valueCount c => .ofNat (all.countP fun r => c.valueIn (some r) != .null)

end ResultValue

/-- A limit as a whole number. -/
def wholeLimit (v : Json) : Except BackendError Int :=
  match Affinity.toNumber (Affinity.plain v) with
  | .int n => .ok n
  | _ => .error (.integrity "datatype mismatch".toList)

/-- The rows between limits.  A negative limit is none, and if there is to be no row, nothing is
asked about how many are left out. -/
def between {α : Type} (limit offset : Option Json) (rows : List α) :
    Except BackendError (List α) := do
  let limit ← limit.mapM wholeLimit
  if limit = some 0 then return []
  let offset ← offset.mapM wholeLimit
  let rows := rows.drop ((offset.getD 0).toNat)
  return match limit with
    | some (.ofNat n) => rows.take n
    | _ => rows

/-- Whether two names of result columns are taken for one: letter case makes no difference between
names of ASCII characters. -/
def sameLabel (a b : Text) : Bool :=
  a == b || (a.all isAscii && b.all isAscii && sameName a b)

/-- A row of values under the names of their columns.  A name that is repeated has the value of its
first column. -/
def labelled (names : List Text) (values : List Json) : Row :=
  let row := names.zip values
  (OrderedMap.ofList (row.map fun c =>
    (c.1, ((row.find? fun d => sameLabel d.1 c.1).map (·.2)).getD c.2))).entries

namespace Selection

/-- The rows that are read.  Without a table there is one row without values. -/
def readRows (s : Selection) : List StoredRow :=
  match s.table with
  | some t => t.read (s.columns.filterMap (·.value.position?))
  | none => [⟨0, []⟩]

/-- The values of the result, row by row. -/
def values (s : Selection) : List (List Json) :=
  let read := s.readRows
  let valuesIn (row : Option StoredRow) : List Json :=
    s.columns.map fun c => c.value.valueIn read row
  if s.columns.any (·.value.isCount) then [valuesIn read.head?]
  else read.map fun r => valuesIn (some r)

/-- The result. -/
def rows (s : Selection) : Except BackendError (List Row) := do
  let all := if s.distinct then s.values.eraseDupsBy StoredTable.sameValues else s.values
  let shown ← between s.limit s.offset all
  return shown.map (labelled (s.columns.map (·.name)))

end Selection

end Source

end QueryGate
