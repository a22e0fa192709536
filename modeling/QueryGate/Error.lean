import QueryGate.Number.Basic
import QueryGate.Text.Quotation
import QueryGate.Time.Timestamp

/-!
# Errors

The failures of the gate itself (`GuardError`), each with a stable code, a message, and details
for display; the failures of the backends behind it (`BackendError`), of which only the text is
passed on; and the faults that a caller may see raised (`Fault`).
-/

namespace QueryGate

open Text

/-- The stable codes of failures and observations. -/
inductive ErrorCode where
  | rejected
  | sanitizationDegraded
  | timeout
  | executionFailure
  | cancelled
  | auditWriteFailure
  | draftFailure
  deriving DecidableEq, Repr

namespace ErrorCode

/-- The code as it is written in records and responses. -/
def text : ErrorCode → Text
  | rejected => "rejected".toList
  | sanitizationDegraded => "sanitization_degraded".toList
  | timeout => "timeout".toList
  | executionFailure => "execution_failure".toList
  | cancelled => "cancelled".toList
  | auditWriteFailure => "audit_write_failure".toList
  | draftFailure => "translation_failure".toList

end ErrorCode

/-- The kinds of gate failure that carry nothing but a message and details. -/
inductive PlainKind where
  | general
  | failure
  | cancelled
  | auditWrite
  | undrafted
  deriving DecidableEq, Repr

/-- A failure of the gate. -/
inductive GuardError where
  /-- A statement was refused; `matched` is the pattern that it contains. -/
  | rejected (message : Text) (statement matched : Option Text)
  /-- The source did not answer within the given seconds. -/
  | timeout (seconds : Number) (statement : Option Text)
  /-- Any other failure. -/
  | plain (kind : PlainKind) (message : Text) (statement : Option Text)
      (details : List (Text × Json))
  deriving Repr

namespace GuardError

/-- The source reported an error, whose text is kept. -/
def failure (message statement : Text) : GuardError := plain .failure message (some statement) []

/-- No statement could be drafted. -/
def undrafted (message : Text) : GuardError := plain .undrafted message none []

/-- The name of the failure's kind. -/
def name : GuardError → Text
  | rejected .. => "RejectedStatement".toList
  | timeout .. => "ExecutionTimeout".toList
  | plain .general .. => "SqlGuardError".toList
  | plain .failure .. => "ExecutionFailure".toList
  | plain .cancelled .. => "ExecutionCancelled".toList
  | plain .auditWrite .. => "AuditWriteFailure".toList
  | plain .undrafted .. => "TranslationError".toList

/-- The stable code of the failure. -/
def code : GuardError → ErrorCode
  | rejected .. => .rejected
  | timeout .. => .timeout
  | plain .general .. => .executionFailure
  | plain .failure .. => .executionFailure
  | plain .cancelled .. => .cancelled
  | plain .auditWrite .. => .auditWriteFailure
  | plain .undrafted .. => .draftFailure

/-- The failure in words. -/
def message : GuardError → Text
  | rejected message .. => message
  | timeout seconds _ =>
    "Query execution timeout. Query took longer than ".toList ++ seconds.toMessageText
      ++ "s to execute.".toList
  | plain _ message .. => message

/-- The statement at fault, if it is kept. -/
def statement : GuardError → Option Text
  | rejected _ statement _ => statement
  | timeout _ statement => statement
  | plain _ _ statement _ => statement

/-- Further details. -/
def details : GuardError → List (Text × Json)
  | rejected _ _ matched =>
    match matched with
    | some (c :: pattern) => [("matched_pattern".toList, .str (c :: pattern))]
    | _ => []
  | timeout seconds _ => [("timeout_seconds".toList, seconds.toJson)]
  | plain _ _ _ details => details

/-- The failure for display: statement and details only where there are any. -/
def toJson (e : GuardError) : Json :=
  .obj ([("code".toList, .str e.code.text), ("message".toList, .str e.message)]
    ++ (e.statement.map fun s => ("statement".toList, Json.str s)).toList
    ++ (if e.details.isEmpty then [] else [("details".toList, .obj e.details)]))

end GuardError

/-- A failure of a data source or of the model that drafts statements. -/
inductive BackendError where
  | internal (message : Text)
  | badValue (message : Text)
  | missingKey (key : Text)
  /-- The backend gave up waiting on its own account. -/
  | deadline (message : Text)
  | connection (message : Text)
  | database (message : Text)
  /-- A rule about the values of a database was broken. -/
  | integrity (message : Text)
  /-- A database was given something that it has no use for. -/
  | misuse (message : Text)
  /-- A whole number is too large for a database. -/
  | oversized
  /-- There is not memory enough for an answer. -/
  | exhausted
  deriving DecidableEq, Repr

/-- The failure in words. -/
def BackendError.text : BackendError → Text
  | internal message => message
  | badValue message => message
  | missingKey key => quoted key
  | deadline message => message
  | connection message => message
  | database message => message
  | integrity message => message
  | misuse message => message
  | oversized => "whole number is too large".toList
  | exhausted => []

/-- What a source or model may raise: a failure, or the news that the request is cancelled.  What
else may be raised that is no failure (an exit, a keyboard interrupt) is left out. -/
inductive Raised where
  | guard (e : GuardError)
  | backend (e : BackendError)
  /-- The request is cancelled while the source or the model is at work on it. -/
  | cancelled
  deriving Repr

/-- The failure in words. -/
def Raised.text : Raised → Text
  | guard e => e.message
  | backend e => e.text
  | cancelled => []

/-- What may escape to a caller. -/
inductive Fault where
  | raised (e : Raised)
  /-- A timestamp or the clock has no universal time. -/
  | clock (f : ClockFault)
  /-- A refusal had to be put into words although no kind of statement is allowed. -/
  | noKindAllowed
  /-- A record that is written or read holds too many values inside one another. -/
  | tooDeep
  /-- A value had to be shown that has no JSON text. -/
  | unwritable
  deriving Repr

/-- The message of a fault. -/
def Fault.message : Fault → Text
  | raised e => e.text
  | clock .dateOutOfRange => "date value out of range".toList
  | clock .noDayBefore => "year 0 is out of range".toList
  | noKindAllowed => "tuple index out of range".toList
  | tooDeep => "maximum recursion depth exceeded".toList
  | unwritable => "value has no JSON text".toList

end QueryGate
