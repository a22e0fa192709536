import QueryGate.Check.Scalar

/-!
# Settings

The settings of a deployment, with a default for each.  They are given as named values or read
from environment variables, where an empty variable counts as unset, the environment's own name
excepted.
-/

namespace QueryGate

open Text

/-- The settings of a deployment. -/
structure Settings where
  environment : Text
  auditDir : Text
  /-- How many days of records are searched. -/
  auditWindowDays : Int
  executionTimeout : Binary64
  catalogPath : Option Text
  databasePath : Option Text
  databaseName : Option Text
  rowLimit : Int

namespace Settings

/-- Whether the deployment is the one that users work with. -/
def isProduction (s : Settings) : Bool := s.environment == "production".toList

/-- The check of a named value, or its default. -/
def field {α : Type} (values : List (Text × Json)) (name : String) (default : α)
    (check : Json → Except IssueKind α) : Checked α :=
  match values.lookup name.toList with
  | some v => .ofExcept name (check v)
  | none => .ok default

/-- The settings given by named values; unknown names are ignored. -/
def ofValues (values : List (Text × Json)) : Checked Settings :=
  (Checked.ok Settings.mk)
    |>.apply (field values "environment" "development".toList Check.text)
    |>.apply (field values "audit_dir" "logs".toList Check.text)
    |>.apply (field values "audit_window_days" 7 (Check.integerAtLeast 1))
    |>.apply (field values "execution_timeout_seconds" (.ofInt 30) Check.positive)
    |>.apply (field values "catalog_path" none Check.optionalText)
    |>.apply (field values "sqlite_path" none Check.optionalText)
    |>.apply (field values "database_name" none Check.optionalText)
    |>.apply (field values "row_limit" 100 (Check.integerAtLeast 1))

/-- The settings that may be given by a variable, with the variable's name behind the common
prefix. -/
def variableNames : List (String × String) := [
  ("audit_dir", "AUDIT_DIR"),
  ("audit_window_days", "AUDIT_WINDOW_DAYS"),
  ("execution_timeout_seconds", "EXECUTION_TIMEOUT"),
  ("catalog_path", "CATALOG_PATH"),
  ("sqlite_path", "SQLITE_PATH"),
  ("database_name", "DATABASE_NAME"),
  ("row_limit", "ROW_LIMIT")]

/-- The common beginning of the variables' names. -/
def variableStart : Text := "SQL_GUARD_".toList

/-- The settings given by environment variables. -/
def ofEnvironment (env : List (Text × Text)) : Checked Settings :=
  let environment := (env.lookup "ENVIRONMENT".toList).getD "development".toList
  let others := variableNames.filterMap fun v =>
    match env.lookup (variableStart ++ v.2.toList) with
    | some (c :: value) => some (v.1.toList, Json.str (c :: value))
    | _ => none
  ofValues (("environment".toList, .str environment) :: others)

/-- The settings as an object. -/
def fields (s : Settings) : List (String × Json) := [
  ("environment", .str s.environment),
  ("audit_dir", .str s.auditDir),
  ("audit_window_days", .int s.auditWindowDays),
  ("execution_timeout_seconds", .float s.executionTimeout),
  ("catalog_path", .ofText? s.catalogPath),
  ("sqlite_path", .ofText? s.databasePath),
  ("database_name", .ofText? s.databaseName),
  ("row_limit", .int s.rowLimit)]

end Settings

end QueryGate
