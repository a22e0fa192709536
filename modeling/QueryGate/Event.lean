import QueryGate.Audit.Record
import QueryGate.Error
import QueryGate.Statement.Verdict

/-!
# Log events

What the gate reports while it works: an event has a level, a name, and named fields.  Elapsed
times are measured on the clock of the gate, which stands still while a request is answered.
-/

namespace QueryGate

/-- The levels of log events, by the name of the call that emits them. -/
inductive LogLevel where
  | debug
  | info
  | warning
  | error
  /-- An error with the exception at hand. -/
  | exception
  | critical
  deriving DecidableEq, Repr

/-- The level as it is written. -/
def LogLevel.text : LogLevel → Text
  | debug => "debug".toList
  | info => "info".toList
  | warning => "warning".toList
  | error => "error".toList
  | exception => "exception".toList
  | critical => "critical".toList

/-- A report of the gate. -/
inductive Event where
  | statementRejected (r : Rejection)
  /-- No table was found in a statement, so nothing was sanitized. -/
  | sanitizationDegraded
  | columnsBlocked (table : Text) (blocked : List Text) (substituted : Bool)
  | securityViolation (severity userId : Json) (blocked : List Json)
  /-- A record could not be written; entries have a status, violations have none. -/
  | auditWriteFailed (userId : Json) (status : Option Audit.Status)
  | auditReadFailed (partition : Text)
  | auditEntry (e : Audit.Entry)
  | pipelineCompleted (status : Audit.Status) (errorKind : Option ErrorCode)
      (blocked rows : Nat)
  | schemaIntrospectionFailed (error : Text)
  | questionUndrafted (error : Text)
  | draftFailed (error : Text)
  | sqlGenerated (model sql : Text)
  | requestCompleted (method path : Text)
  | unhandledException (path : Text)
  deriving Repr

namespace Event

/-- The level of an event. -/
def level : Event → LogLevel
  | statementRejected _ => .info
  | sanitizationDegraded => .warning
  | columnsBlocked .. => .info
  | securityViolation .. => .warning
  | auditWriteFailed .. => .error
  | auditReadFailed _ => .error
  | auditEntry _ => .info
  | pipelineCompleted .. => .info
  | schemaIntrospectionFailed _ => .warning
  | questionUndrafted _ => .warning
  | draftFailed _ => .error
  | sqlGenerated .. => .debug
  | requestCompleted .. => .debug
  | unhandledException _ => .exception

/-- The name of an event. -/
def name : Event → String
  | statementRejected _ => "statement_rejected"
  | sanitizationDegraded => "sanitization_degraded"
  | columnsBlocked .. => "columns_blocked"
  | securityViolation .. => "security_violation"
  | auditWriteFailed .. => "audit_write_failed"
  | auditReadFailed _ => "audit_read_failed"
  | auditEntry _ => "audit_entry"
  | pipelineCompleted .. => "pipeline_completed"
  | schemaIntrospectionFailed _ => "schema_introspection_failed"
  | questionUndrafted _ => "translation_error"
  | draftFailed _ => "translation_failed"
  | sqlGenerated .. => "sql_generated"
  | requestCompleted .. => "request_completed"
  | unhandledException _ => "unhandled_exception"

/-- The fields of a refusal: the rule, and the pattern of a denylist rule. -/
def rejectionFields : Rejection → List (String × Json)
  | .forbidden rule => [("rule", .str "denylist".toList), ("pattern", .str rule.source)]
  | .notAllowed _ => [("rule", .str "allow_set".toList)]
  | .severalStatements => [("rule", .str "single_statement".toList)]

/-- The fields of an event.  The texts of operating system errors are left out. -/
def fields : Event → List (String × Json)
  | statementRejected r => rejectionFields r
  | sanitizationDegraded => [("reason", .str "table_not_found".toList)]
  | columnsBlocked table blocked substituted =>
    [("table", .str table), ("blocked", .ofTexts blocked), ("substituted", .bool substituted)]
  | securityViolation severity userId blocked =>
    [("severity", severity), ("user_id", userId), ("blocked_columns", .arr blocked)]
  | auditWriteFailed userId status =>
    ("user_id", userId) :: (status.map fun s => ("status", Json.str s.text)).toList
  | auditReadFailed partition => [("partition", .str partition)]
  | auditEntry e => e.fields
  | pipelineCompleted status errorKind blocked rows =>
    [("status", .str status.text), ("error_kind", .ofText? (errorKind.map (·.text))),
      ("blocked_columns", .ofNat blocked), ("rows_returned", .ofNat rows),
      ("execution_time_ms", .float .zero)]
  | schemaIntrospectionFailed error => [("error", .str error)]
  | questionUndrafted error => [("error", .str error)]
  | draftFailed error => [("error", .str error)]
  | sqlGenerated model sql => [("model", .str model), ("sql", .str sql)]
  | requestCompleted method path =>
    [("method", .str method), ("path", .str path), ("duration_ms", .float .zero)]
  | unhandledException path => [("path", .str path)]

/-- The event as one object, with the given context in it; fields win over context. -/
def toJson (context : List (Text × Json)) (e : Event) : Json :=
  let all := context ++ e.fields.map (fun f => (f.1.toList, f.2))
    ++ [("level".toList, .str e.level.text), ("event".toList, .str e.name.toList)]
  .obj (OrderedMap.ofList all).entries

end Event

end QueryGate
