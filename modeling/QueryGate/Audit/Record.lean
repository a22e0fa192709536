import QueryGate.Json.Basic
import QueryGate.Time.Timestamp

/-!
# Audit records

Two series of records are kept: one entry for each run of the pipeline, and one violation for each
attempt to read sensitive columns.  Only the timestamp and the status of a record have a type of
their own.  The other fields are whatever JSON value a line holds, so that every line that is
accepted can be shown again unchanged.
-/

namespace QueryGate.Audit

/-- The outcome of a run. -/
inductive Status where
  | allowed
  | blocked
  | error
  deriving DecidableEq, Repr

/-- The status as it is written. -/
def Status.text : Status → Text
  | allowed => "allowed".toList
  | blocked => "blocked".toList
  | error => "error".toList

/-- The status that a text names. -/
def Status.ofText? (s : Text) : Option Status :=
  [allowed, blocked, error].find? fun status => status.text == s

/-- A column that was removed from a statement. -/
structure ColumnRecord where
  column : Json
  category : Json
  reason : Json
  deriving Repr

/-- The record as an object. -/
def ColumnRecord.toJson (c : ColumnRecord) : Json :=
  .object [("column", c.column), ("category", c.category), ("reason", c.reason)]

/-- An observation made during a run. -/
structure WarningRecord where
  message : Json
  code : Json
  details : Json
  deriving Repr

/-- The record as an object; code and details only if they are given. -/
def WarningRecord.toJson (w : WarningRecord) : Json :=
  .object ([("message", w.message)]
    ++ (if w.code.isTruthy then [("code", w.code)] else [])
    ++ (if w.details.isTruthy then [("details", w.details)] else []))

/-- The record of one run. -/
structure Entry where
  userId : Json
  status : Status
  timestamp : Timestamp
  userEmail : Json
  database : Json
  dbType : Json
  question : Json
  generatedSql : Json
  executedSql : Json
  blockedColumns : List ColumnRecord
  warnings : List WarningRecord
  reason : Json
  executionTimeMs : Json
  rowsReturned : Json
  error : Json
  deriving Repr

/-- An entry with nothing but user, status and time. -/
def Entry.bare (userId : Json) (status : Status) (timestamp : Timestamp) : Entry where
  userId := userId
  status := status
  timestamp := timestamp
  userEmail := .null
  database := .null
  dbType := .null
  question := .null
  generatedSql := .null
  executedSql := .null
  blockedColumns := []
  warnings := []
  reason := .null
  executionTimeMs := .null
  rowsReturned := .null
  error := .null

/-- The fields of an entry in the order in which they are written. -/
def Entry.fields (e : Entry) : List (String × Json) := [
  ("timestamp", .str e.timestamp.toText),
  ("user_id", e.userId),
  ("user_email", e.userEmail),
  ("database", e.database),
  ("db_type", e.dbType),
  ("natural_language_query", e.question),
  ("generated_sql", e.generatedSql),
  ("executed_sql", e.executedSql),
  ("status", .str e.status.text),
  ("blocked_columns", .arr (e.blockedColumns.map (·.toJson))),
  ("warnings", .arr (e.warnings.map (·.toJson))),
  ("reason", e.reason),
  ("execution_time_ms", e.executionTimeMs),
  ("rows_returned", e.rowsReturned),
  ("error", e.error)]

/-- An entry as an object. -/
def Entry.toJson (e : Entry) : Json := .object e.fields

/-- The record of an attempt to read sensitive columns. -/
structure Violation where
  userId : Json
  attemptedQuery : Json
  blockedColumns : List ColumnRecord
  reason : Json
  timestamp : Timestamp
  userEmail : Json
  severity : Json
  deriving Repr

/-- The severity of a violation unless another is given. -/
def Violation.defaultSeverity : Text := "HIGH".toList

/-- A violation as an object. -/
def Violation.toJson (v : Violation) : Json := .object [
  ("timestamp", .str v.timestamp.toText),
  ("severity", v.severity),
  ("user_id", v.userId),
  ("user_email", v.userEmail),
  ("attempted_query", v.attemptedQuery),
  ("blocked_columns", .arr (v.blockedColumns.map (·.toJson))),
  ("reason", v.reason)]

end QueryGate.Audit
