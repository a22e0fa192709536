import QueryGate.Projection.Reference
import QueryGate.Text.Blank

/-!
# Schema texts

A schema text describes tables line by line.  A header line `Table: name` or `Collection: name`
opens a block, column lines `- name (type) attributes` add to it, and the next header or a blank
line closes it.  Lines outside blocks, and lines of a block that are no column lines, are ignored.

Headers are recognised exactly as written, at the start of a line.  The type of a column reaches
to the last closing parenthesis of its line.
-/

namespace QueryGate

open Text

/-- A column as a schema text declares it. -/
structure Column where
  name : Text
  type : Text
  attributes : Text
  deriving DecidableEq, Repr

/-- A table as a schema text declares it. -/
structure Table where
  name : Text
  columns : List Column
  deriving DecidableEq, Repr

namespace Schema

/-- The name in a header, given the text behind the colon.  If only blanks follow, at least two of
them, the last one is the name. -/
def headerName? (s : Text) : Option Text :=
  match dropBlanks? s with
  | none => none
  | some [] => if s.length ≥ 2 then s.getLast?.map fun c => [c] else none
  | some rest => some (trimRight rest)

/-- The table that a line opens, if it is a header. -/
def header? (line : Text) : Option Text :=
  match dropLead? "Table:".toList line with
  | some rest => headerName? rest
  | none => (dropLead? "Collection:".toList line).bind headerName?

/-- The text before and the text after the last closing parenthesis. -/
def splitAtLastParen? (s : Text) : Option (Text × Text) :=
  match s.reverse.dropWhile (· ≠ ')') with
  | _ :: back => some (back.reverse, (s.reverse.takeWhile (· ≠ ')')).reverse)
  | [] => none

/-- The column that a line declares, if it is a column line. -/
def column? (line : Text) : Option Column :=
  match ((dropLead? ['-'] (trimLeft line)).bind dropBlanks?) with
  | none => none
  | some rest =>
    let name := rest.takeWhile isWord
    if name.isEmpty then none
    else match (dropBlanks? (rest.dropWhile isWord)).bind (dropLead? ['(']) with
      | none => none
      | some inner =>
        (splitAtLastParen? inner).map fun p => ⟨name, trim p.1, trim p.2⟩

/-- The tables of some lines, given the table whose block is open. -/
def tablesFrom (current : Option Table) : List Text → List Table
  | [] => current.toList
  | line :: lines =>
    match header? line with
    | some name => current.toList ++ tablesFrom (some ⟨name, []⟩) lines
    | none =>
      match current with
      | none => tablesFrom none lines
      | some table =>
        if (trim line).isEmpty then table :: tablesFrom none lines
        else tablesFrom (some ⟨table.name, table.columns ++ (column? line).toList⟩) lines

/-- The tables that a schema text describes, in order. -/
def parse (s : Text) : List Table := tablesFrom none (lines s)

/-- The columns of the first table of a given name; an unknown table has none. -/
def columnsOf (s name : Text) : List Text :=
  match (parse s).find? fun table => table.name == name with
  | some table => table.columns.map (·.name)
  | none => []

end Schema

end QueryGate
