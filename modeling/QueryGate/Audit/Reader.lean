import QueryGate.Audit.Record
import QueryGate.Time.Reader
import QueryGate.Text.Quotation

/-!
# Reading audit records

Records are read back from JSON values field by field.  A record must be an object; a timestamp
must be a text that stands for one, a status must be one of the three, lists must be lists, and
some fields must be there.  A list that is null, false, zero or empty is an empty list.  Nothing
else is checked.

The first fault in the order of the fields decides how reading fails.
-/

namespace QueryGate.Audit

open Text

/-- Why a value is no record. -/
inductive ReadError where
  /-- A field is missing that must be there. -/
  | missing (field : Text)
  /-- Something that must be an object or a list is neither. -/
  | wrongShape
  /-- A timestamp is no text. -/
  | noText
  /-- A timestamp or status has no meaning. -/
  | badValue
  deriving DecidableEq, Repr

/-- The name of the missing field in quotes; other failures have no message. -/
def ReadError.message : ReadError → Option Text
  | missing field => some (quoted field)
  | _ => none

/-- A field that must be there. -/
def required (field : String) : Json → Except ReadError Json
  | .members l =>
    match Json.lastMember? field.toList l with
    | some v => .ok v
    | none => .error (.missing field.toList)
  | _ => .error .wrongShape

/-- A field that may be missing. -/
def optional (field : String) (default : Json) (v : Json) : Json :=
  (v.member? field.toList).getD default

/-- A timestamp field.  Any character may stand between date and time, so a string that is no text
may be one too. -/
def readTimestamp : Json → Except ReadError Timestamp
  | .string s =>
    match Timestamp.ofText? s.shown with
    | some t => .ok t
    | none => .error .badValue
  | _ => .error .noText

/-- A status field. -/
def readStatus : Json → Except ReadError Status
  | .str s =>
    match Status.ofText? s with
    | some status => .ok status
    | none => .error .badValue
  | _ => .error .badValue

/-- The records of a list, each read by `read`. -/
def readAll {α : Type} (read : Json → Except ReadError α) : List Json → Except ReadError (List α)
  | [] => .ok []
  | v :: rest =>
    match read v with
    | .error e => .error e
    | .ok a =>
      match readAll read rest with
      | .error e => .error e
      | .ok as => .ok (a :: as)

/-- A field that holds a list of records. -/
def readList {α : Type} (read : Json → Except ReadError α) (v : Json) :
    Except ReadError (List α) :=
  match v with
  | .arr items => readAll read items
  -- what counts as false stands for no records
  | _ => if v.isTruthy then .error .wrongShape else .ok []

/-- A removed column. -/
def ColumnRecord.ofJson (v : Json) : Except ReadError ColumnRecord := do
  let column ← required "column" v
  return ⟨column, optional "category" (.str "sensitive".toList) v, optional "reason" (.str []) v⟩

/-- A warning; details that are null, false, zero or empty are an empty object. -/
def WarningRecord.ofJson (v : Json) : Except ReadError WarningRecord := do
  let message ← required "message" v
  let details := optional "details" .null v
  return ⟨message, optional "code" .null v, if details.isTruthy then details else .obj []⟩

/-- An entry. -/
def Entry.ofJson (v : Json) : Except ReadError Entry := do
  let timestamp ← readTimestamp (← required "timestamp" v)
  let userId ← required "user_id" v
  let status ← readStatus (← required "status" v)
  let blockedColumns ← readList ColumnRecord.ofJson (optional "blocked_columns" .null v)
  let warnings ← readList WarningRecord.ofJson (optional "warnings" .null v)
  return {
    userId, status, timestamp, blockedColumns, warnings
    userEmail := optional "user_email" .null v
    database := optional "database" .null v
    dbType := optional "db_type" .null v
    question := optional "natural_language_query" .null v
    generatedSql := optional "generated_sql" .null v
    executedSql := optional "executed_sql" .null v
    reason := optional "reason" .null v
    executionTimeMs := optional "execution_time_ms" .null v
    rowsReturned := optional "rows_returned" .null v
    error := optional "error" .null v }

/-- A violation. -/
def Violation.ofJson (v : Json) : Except ReadError Violation := do
  let timestamp ← readTimestamp (← required "timestamp" v)
  let userId ← required "user_id" v
  let attemptedQuery ← required "attempted_query" v
  let blockedColumns ← readList ColumnRecord.ofJson (optional "blocked_columns" .null v)
  let reason ← required "reason" v
  return {
    userId, timestamp, attemptedQuery, blockedColumns, reason
    userEmail := optional "user_email" .null v
    severity := optional "severity" (.str defaultSeverity) v }

end QueryGate.Audit
