import QueryGate.Catalog
import QueryGate.Event
import QueryGate.Projection.Split
import QueryGate.Schema
import QueryGate.Statement.Span

/-!
# Sanitizing a statement

Sensitive columns are removed from the projection of a statement.  A whole-row item stands for
the columns that the schema declares for the statement's table.  If some columns remain, the
projection becomes the list of them, in back quotes; if none remains, it becomes a safe
expression in place of the first removed column.

Only the first projection is read and replaced.  A statement without a table name is left alone,
with a warning.  A statement from which nothing is removed is left as it is.
-/

namespace QueryGate

open Text Projection

/-- A removed column. -/
structure BlockedColumn where
  column : Text
  deriving DecidableEq, Repr

namespace BlockedColumn

/-- The category of every removed column. -/
def category : Text := "sensitive".toList

/-- Why the column was removed. -/
def reason (b : BlockedColumn) : Text := "Access to '".toList ++ b.column ++ "' is blocked.".toList

/-- The column as records show it. -/
def toRecord (b : BlockedColumn) : Audit.ColumnRecord :=
  ⟨.str b.column, .str category, .str b.reason⟩

/-- The column as an object. -/
def toJson (b : BlockedColumn) : Json := b.toRecord.toJson

end BlockedColumn

/-- What may be shown in place of a removed column. -/
structure Suggestion where
  column : Text
  safe : Text
  explanation : Text
  deriving DecidableEq, Repr

/-- The suggestion as an object. -/
def Suggestion.toJson (s : Suggestion) : Json :=
  .object [("original", .str s.column), ("safe", .str s.safe),
    ("explanation", .str s.explanation)]

/-- An observation about a run. -/
inductive Warning where
  | tableNotFound
  | columnsBlocked (columns : List BlockedColumn) (suggestions : List Suggestion)
  deriving DecidableEq, Repr

/-- The warning as records show it. -/
def Warning.toRecord : Warning → Audit.WarningRecord
  | tableNotFound =>
    ⟨.str "Could not determine table name to sanitize columns.".toList,
      .str ErrorCode.sanitizationDegraded.text, .obj []⟩
  | columnsBlocked columns suggestions =>
    ⟨.str "Some columns were blocked for security. Showing safe results instead.".toList,
      .str "columns_blocked".toList,
      .object [("blocked_columns", .arr (columns.map (·.toJson))),
        ("suggested_alternatives", .arr (suggestions.map (·.toJson)))]⟩

/-- The warning as an object. -/
def Warning.toJson (w : Warning) : Json := w.toRecord.toJson

/-- What sanitizing a statement gives. -/
structure Sanitized where
  /-- The statement that may run. -/
  statement : Text
  /-- The removed columns, in order. -/
  blocked : List BlockedColumn
  warnings : List Warning
  /-- What is reported on the way. -/
  events : List Event

/-- Whether the statement was changed. -/
def Sanitized.changed (s : Sanitized) : Bool := !s.blocked.isEmpty

namespace Sanitizer

/-- An item of a projection with the column that it reads. -/
structure Requested where
  column : Text
  item : Text
  deriving DecidableEq, Repr

/-- The items of the first projection that read a column. -/
def requested (s : Text) : List Requested :=
  match Statement.span? s with
  | none => []
  | some span =>
    (split span.projection).filterMap fun item => (reference item).map fun column => ⟨column, item⟩

/-- The columns of the first projection, in order. -/
def columns (s : Text) : List Text := (requested s).map (·.column)

/-- The requested columns with the schema's columns in place of each whole-row item. -/
def expand (schemaColumns : List Text) (l : List Requested) : List Requested :=
  l.flatMap fun r =>
    if r.column = wildcard then schemaColumns.map fun c => ⟨c, c⟩ else [r]

/-- Whether a requested column must be removed: its name or its whole item is sensitive. -/
def isBlocked (c : Catalog) (r : Requested) : Bool := c.isSensitive r.column || c.isSensitive r.item

/-- A column name in back quotes. -/
def backQuoted (column : Text) : Text := '`' :: column ++ ['`']

/-- The projection that keeps the given columns and the quantifiers of the old projection. -/
def keptProjection (old : Text) (kept : List Text) : Text :=
  quantifierPrefix old ++ join ", ".toList (kept.map backQuoted)

/-- What is shown when every column is removed, given the first of them. -/
def substitute (c : Catalog) (first : Text) : Text :=
  match c.safeAlternative? first with
  | some (x :: alternative) => x :: alternative
  | _ => Catalog.genericAlternative

/-- The statement with its projection cut down to the kept columns, or replaced if none is kept. -/
def replaceProjection (c : Catalog) (s : Text) (blocked kept : List Text) : Text :=
  match Statement.span? s with
  | none => s
  | some span =>
    match blocked, kept with
    -- with no column left, the first removed one chooses what is shown
    | first :: _, [] => span.withProjection (substitute c first)
    | _, kept => span.withProjection (keptProjection span.projection kept)

/-- The statement without its sensitive columns. -/
def sanitize (c : Catalog) (s schema : Text) : Sanitized :=
  match Statement.table? s with
  -- without a table the columns are unknown, and the statement passes as it is
  | none => ⟨s, [], [.tableNotFound], [.sanitizationDegraded]⟩
  | some table =>
    let all := expand (Schema.columnsOf schema table) (requested s)
    let blocked := (all.filter (isBlocked c)).map (·.column)
    let kept := (all.filter fun r => !isBlocked c r).map (·.column)
    if blocked.isEmpty then ⟨s, [], [], []⟩
    else ⟨replaceProjection c s blocked kept, blocked.map (⟨·⟩), [],
      [.columnsBlocked table blocked kept.isEmpty]⟩

/-- What may be shown in place of a column: its alternative, or else a count. -/
def suggest (c : Catalog) (column : Text) : Suggestion :=
  match c.safeAlternative? column with
  | some (x :: alternative) =>
    ⟨column, x :: alternative, "Instead of selecting ".toList ++ column ++
      " directly, use: ".toList ++ x :: alternative⟩
  | _ =>
    ⟨column, "COUNT(*) as ".toList ++ column ++ "_records".toList,
      "Use aggregate function instead of accessing ".toList ++ column ++ " directly".toList⟩

/-- What may be shown in place of the removed columns. -/
def suggestions (c : Catalog) (blocked : List BlockedColumn) : List Suggestion :=
  blocked.map fun b => suggest c b.column

/-- Why a statement with removed columns is not answered in full. -/
def blockedReason (count : Nat) : Text :=
  "Query blocked due to ".toList ++ ofNat count ++ " sensitive column(s)".toList

/-- A summary of what sanitizing a statement gave at a time. -/
def report (c : Catalog) (now : Timestamp) (s : Text) (outcome : Sanitized) : Json :=
  let allowed := outcome.blocked.isEmpty
  .object [
    ("timestamp", .str now.toText),
    ("catalog_version", .str c.version),
    ("query", .str s),
    ("sanitized_query", .str outcome.statement),
    ("allowed", .bool allowed),
    ("blocked_columns", .arr (outcome.blocked.map (·.toJson))),
    ("warnings", .arr (outcome.warnings.map (·.toJson))),
    ("reason", .str (if allowed then "Query approved".toList
      else blockedReason outcome.blocked.length))]

end Sanitizer

end QueryGate
