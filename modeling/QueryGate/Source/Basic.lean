import QueryGate.Source.Database

/-!
# Data sources

A data source describes its schema and answers statements.  One kind answers from memory: the same
rows for every statement, after a delay, or a failure.  The other kind is a database file.
-/

namespace QueryGate

open Text

/-- A source that gives fixed answers. -/
structure MemorySource where
  schema : Text
  rows : List Row
  name : Text
  kind : Text
  /-- Seconds until a statement is answered. -/
  delay : Number
  /-- What every statement raises, if it does. -/
  failure : Option Raised
  /-- What every request for the schema raises, if it does. -/
  schemaFailure : Option Raised

/-- A data source. -/
inductive Source where
  | memory (m : MemorySource)
  | file (db : Database) (name : Text)

namespace Source

/-- The name of a file without its last extension; a name that only begins or ends with a point
has none. -/
def stem (path : Text) : Text :=
  let steps := (splitOn '/' path).filter fun step => !step.isEmpty && step != ['.']
  let name := steps.getLast?.getD []
  let back := name.reverse
  let extension := back.takeWhile (· ≠ '.')
  match back.dropWhile (· ≠ '.') with
  | _ :: base => if extension.isEmpty || base.isEmpty then name else base.reverse
  | [] => name

/-- The database at a path, named by the path unless another name is given. -/
def ofFile (db : Database) (path : Text) (name : Option Text) : Source :=
  match name with
  | some (c :: name) => file (db.foundAt path) (c :: name)
  | _ => file (db.foundAt path) (stem path)

/-- The name of the database. -/
def name : Source → Text
  | memory m => m.name
  | file _ name => name

/-- The kind of backend. -/
def kind : Source → Text
  | memory m => m.kind
  | file .. => "sqlite".toList

/-- The schema text. -/
def describe : Source → Except Raised Text
  | memory m =>
    match m.schemaFailure with
    | some e => .error e
    | none => .ok m.schema
  | file db name => (db.describe name).mapError .backend

/-- The answer to a statement. -/
def answer (src : Source) (s : Text) : Except Raised (List Row) :=
  match src with
  | memory m =>
    match m.failure with
    | some e => .error e
    | none => .ok m.rows
  | file db _ => (db.execute s).mapError .backend

/-- Seconds until a statement is answered. -/
def delay : Source → Number
  | memory m => m.delay
  | file .. => .int 0

/-- Whether the source keeps the statements that it is given. -/
def keepsStatements : Source → Bool
  | memory _ => true
  | file .. => false

/-- No list has as many items. -/
def countBound : Nat := Nat.pow 2 63

theorem countBound_pos : 0 < countBound := by decide

/-- How an attempt to have a statement answered within a deadline ends. -/
inductive Attempt where
  | answered (rows : List Row) (few : rows.length < countBound)
  | raised (e : Raised)
  /-- The deadline passed.  A source that gives up waiting itself is not told apart. -/
  | timedOut
  /-- The request was cancelled while the source was at work. -/
  | interrupted

/-- The attempt to have a statement answered.  No time at all is not enough to ask the source;
`interrupt` says that the caller goes away as soon as the source has been asked.  A source may also
find its work cancelled without that. -/
def attempt (src : Source) (timeout : Number) (interrupt : Bool) (s : Text) : Attempt :=
  if timeout.isNonpositive then .timedOut
  else if interrupt && src.delay.isPositive then .interrupted
  else if src.delay.isPositive && timeout.le src.delay then .timedOut
  else match src.answer s with
    | .ok rows =>
      if few : rows.length < countBound then .answered rows few
      else .raised (.backend .exhausted)
    | .error .cancelled => .interrupted
    | .error (.backend (.deadline _)) => .timedOut
    | .error e => .raised e

end Source

end QueryGate
