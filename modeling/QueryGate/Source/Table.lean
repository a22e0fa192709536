import QueryGate.Error
import QueryGate.Source.Affinity

/-!
# Stored tables

A table has columns and rows, and each row has a number.  The only key column of type `INTEGER`
numbers the rows; without such a column they are numbered as they come.  Rows that break a rule of
the table are refused: a number or key that is there already, a missing value that is demanded, or
a row number that is no whole number.

Other keys are kept in order beside the table.  Rows are read in the order of their numbers, or in
that of the key if it holds all that is asked for and is narrower than the table.
-/

namespace QueryGate

open Text Source

/-- A column of a stored table. -/
structure StoredColumn where
  name : Text
  /-- The declared type, possibly empty. -/
  type : Text
  notNull : Bool
  primaryKey : Bool
  deriving DecidableEq, Repr

/-- A row of a stored table. -/
structure StoredRow where
  number : Int
  /-- The values, as many as there are columns. -/
  values : List Json
  deriving Repr

/-- A table with its rows in the order in which they came. -/
structure StoredTable where
  name : Text
  columns : List StoredColumn
  rows : List StoredRow

namespace StoredColumn

/-- The types whose names are written in capitals wherever they are shown. -/
def standardTypes : List Text := [
  "ANY".toList, "BLOB".toList, "INT".toList, "INTEGER".toList, "REAL".toList, "TEXT".toList]

/-- The column with its type as it is kept. -/
def normal (c : StoredColumn) : StoredColumn :=
  let type := dropEndWhile isAsciiBlank (c.type.dropWhile isAsciiBlank)
  { c with type := (standardTypes.find? (sameName type)).getD type }

/-- The attributes of a column in a schema text. -/
def attributes (c : StoredColumn) : List Text :=
  (if c.primaryKey then ["PRIMARY KEY".toList] else [])
    ++ (if c.notNull then ["NOT NULL".toList] else [])

/-- The line of a column in a schema text. -/
def line (c : StoredColumn) : Text :=
  "  - ".toList ++ c.name ++ " (".toList ++ (if c.type.isEmpty then "TEXT".toList else c.type)
    ++ ") ".toList ++ join ", ".toList c.attributes ++ ['\n']

end StoredColumn

namespace StoredTable

/-- Whether the table belongs to the engine. -/
def isInternal (t : StoredTable) : Bool :=
  match dropLead? "sqlite".toList (foldName t.name) with
  | some (_ :: _) => true
  | _ => false

/-- The block of a table in a schema text. -/
def block (t : StoredTable) : Text :=
  "\nTable: ".toList ++ t.name ++ '\n' :: t.columns.flatMap (·.line)

/-- The position of a column. -/
def position? (t : StoredTable) (name : Text) : Option Nat :=
  t.columns.findIdx? fun c => sameName c.name name

/-- The positions of the key columns. -/
def keyPositions (t : StoredTable) : List Nat :=
  (t.columns.zipIdx.filter (·.1.primaryKey)).map (·.2)

/-- The position of the column that numbers the rows, if there is one. -/
def numberPosition? (t : StoredTable) : Option Nat :=
  match t.keyPositions with
  | [i] => if (t.columns[i]?).any fun c => c.type == "INTEGER".toList then some i else none
  | _ => none

/-- Whether the table has a key that is kept in order beside it. -/
def hasKeyIndex (t : StoredTable) : Bool := !t.keyPositions.isEmpty && t.numberPosition?.isNone

/-! ## Keys -/

/-- A number as a ratio, or an infinite one. -/
def ratio? : Json → Option (Int × Nat)
  | .int i => some (i, 1)
  | .float (.finite negative m e) =>
    let r := Binary64.ratio m e
    some (if negative then -(r.1 : Int) else r.1, r.2)
  | _ => none

/-- The place of a kind of value in the order of keys. -/
def rank : Json → Nat
  | .null => 0
  | .float (.infinite true) => 1
  | .int _ => 2
  | .float (.infinite false) => 3
  | .float _ => 2
  | .string _ => 4
  | _ => 5

/-- Whether a value of a key comes no later than another: null, numbers by size, texts by
character. -/
def valueLe (a b : Json) : Bool :=
  if rank a ≠ rank b then decide (rank a < rank b)
  else match a, b with
    | .str s, .str t => Text.le s t
    | a, b =>
      match ratio? a, ratio? b with
      | some (m, d), some (m', d') => decide (m * d' ≤ m' * d)
      | _, _ => true

/-- Whether two values are the same in a key. -/
def sameValue (a b : Json) : Bool := valueLe a b && valueLe b a

/-- Whether a key comes no later than another, value by value. -/
def keyLe : List Json → List Json → Bool
  | [], _ => true
  | _ :: _, [] => false
  | a :: k, b :: l => if sameValue a b then keyLe k l else valueLe a b

/-- The key of a row. -/
def keyOf (t : StoredTable) (r : StoredRow) : List Json :=
  t.keyPositions.map fun i => (r.values[i]?).getD .null

/-- Whether two lists of values are the same, value by value. -/
def sameValues (k l : List Json) : Bool := keyLe k l && keyLe l k

/-- Whether two keys are the same; one with a null in it is the same as no other. -/
def sameKey (k l : List Json) : Bool := !k.contains .null && sameValues k l

/-! ## Storing -/

/-- The number of the next row that brings none. -/
def nextNumber (t : StoredTable) : Int :=
  match t.rows with
  | [] => 1
  | r :: rest => rest.foldl (fun n r => max n r.number) r.number + 1

/-- The number of a row with some values. -/
def numberOf (t : StoredTable) (values : List Json) : Except BackendError Int :=
  match t.numberPosition? with
  | none => .ok t.nextNumber
  | some i =>
    match values[i]? with
    | some (.int n) => .ok n
    | some .null => .ok t.nextNumber
    | none => .ok t.nextNumber
    | _ => .error (.integrity "datatype mismatch".toList)

/-- The text of a broken rule of a column. -/
def broken (rule : String) (t : StoredTable) (c : StoredColumn) : Text :=
  rule.toList ++ " constraint failed: ".toList ++ t.name ++ '.' :: c.name

/-- Whether a value is a whole number that is too large to be stored. -/
def isOversized : Json → Bool
  | .int i => decide ((maxWhole : Int) < i ∨ i < -(maxWhole : Int) - 1)
  | _ => false

/-- The values of a row as the columns keep them; those that the row lacks are null. -/
def keptValues (t : StoredTable) (row : List Json) : List Json :=
  t.columns.zipIdx.map fun c => (Affinity.ofType c.1.type).keep ((row[c.2]?).getD .null)

/-- Whether a row of the table keeps another from being added. -/
def clashes (t : StoredTable) (r added : StoredRow) : Bool :=
  r.number == added.number || (t.hasKeyIndex && sameKey (t.keyOf r) (t.keyOf added))

/-- The table with one more row. -/
def insert (t : StoredTable) (row : List Json) : Except BackendError StoredTable :=
  if row.any isOversized then .error .oversized
  else
    let kept := t.keptValues row
    match t.numberOf kept with
    | .error e => .error e
    | .ok number =>
      -- the column that shows the number holds it in place of null
      let values := match t.numberPosition? with
        | some i => kept.set i (.int number)
        | none => kept
      match (t.columns.zip values).find? fun c => c.1.notNull && c.2 == .null with
      | some c => .error (.integrity (broken "NOT NULL" t c.1))
      | none =>
        if t.rows.any (t.clashes · ⟨number, values⟩) then
          let key := t.keyPositions.filterMap (t.columns[·]?)
          .error (.integrity (join ", ".toList (key.map (broken "UNIQUE" t))))
        else .ok { t with rows := t.rows ++ [⟨number, values⟩] }

/-- The table with more rows. -/
def insertAll (t : StoredTable) : List (List Json) → Except BackendError StoredTable
  | [] => .ok t
  | row :: rest => do (← t.insert row).insertAll rest

/-- The first name that stands in a list once more, in any letter case. -/
def repeated? : List Text → List Text → Option Text
  | _, [] => none
  | before, name :: rest =>
    if before.any (sameName name) then some name else repeated? (name :: before) rest

/-- The table with the given columns and rows. -/
def make (name : Text) (columns : List StoredColumn) (rows : List (List Json)) :
    Except BackendError StoredTable :=
  if beginsWith "sqlite_".toList (foldName name) then
    .error (.database ("object name reserved for internal use: ".toList ++ name))
  else
    match repeated? [] (columns.map (·.name)) with
    | some column => .error (.database ("duplicate column name: ".toList ++ column))
    | none => insertAll ⟨name, columns.map (·.normal), []⟩ rows

/-! ## Reading -/

/-- A width as it is compared: its four leading bits. -/
def coarse (n : Nat) : Nat :=
  let unit := Nat.pow 2 (n.log2 - 3)
  n / unit * unit

/-- The widths of some columns together. -/
def widthOf (l : List StoredColumn) : Nat := l.foldl (fun n c => n + Affinity.width c.type) 0

/-- Whether rows are read in the order of the key when the columns at some positions are asked
for. -/
def isReadByKey (t : StoredTable) (asked : List Nat) : Bool :=
  let key := t.keyPositions
  let keyWidth := widthOf (key.filterMap (t.columns[·]?)) + 1
  t.hasKeyIndex && asked.all key.contains
    && decide (coarse (4 * keyWidth) < coarse (4 * (widthOf t.columns + 1)))

/-- The rows in the order in which they are read when the columns at some positions are asked
for. -/
def read (t : StoredTable) (asked : List Nat) : List StoredRow :=
  let byNumber := t.rows.mergeSort fun a b => decide (a.number ≤ b.number)
  if t.isReadByKey asked then byNumber.mergeSort fun a b => keyLe (t.keyOf a) (t.keyOf b)
  else byNumber

end StoredTable

end QueryGate
