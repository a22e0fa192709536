import QueryGate.Pipeline.World

/-!
# Running a statement

A statement passes through the gate in four stages: it is judged, sanitized, answered by the
source within a deadline, and audited.  A refused statement never reaches the source.  What
reaches it is the sanitized statement, once.

Every run that gives a result appends one entry to the audit trail, and one violation before the
source is asked if columns were removed.  Failures to write are reported and change nothing else.
A clock without universal time ends the run where its first record would be made.

A request may be cancelled while the source is at work.  Then the run is audited as one that went
wrong, and nobody is given its result.
-/

namespace QueryGate

open Text

/-- How many lists and objects stand inside one another in what a run records: the record, its
warnings, a warning, its details, a list in them and an item of that. -/
def recordDepth : Nat := 6

/-- How a gate is set up. -/
structure Gate where
  trail : Audit.Trail
  catalog : Catalog
  rules : StatementRules
  /-- Seconds within which the source must answer. -/
  timeout : Number
  /-- Whoever calls the gate leaves room to write and read what it records, which is less than a run
  takes itself. -/
  room : recordDepth ≤ trail.writeDepth ∧ recordDepth ≤ trail.readDepth

/-- A statement with what is known about its caller. -/
structure Request where
  statement : Text
  schema : Text
  userId : Text
  userEmail : Option Text
  database : Option Text
  dbType : Option Text
  /-- The question that the statement was drafted for. -/
  question : Option Text

/-- A failure that a result tells of. -/
structure Failure where
  message : Text
  code : ErrorCode
  deriving DecidableEq, Repr

/-- What is told of a request that was cancelled while the source was at work. -/
def Failure.cancellation : Failure := ⟨"Request cancelled during execution".toList, .cancelled⟩

/-- The result of a run. -/
structure RunResult where
  /-- Whether the statement was answered. -/
  success : Bool
  status : Audit.Status
  submitted : Text
  /-- The statement that was to be executed; none for a refused one. -/
  executed : Option Text
  blocked : List BlockedColumn
  warnings : List Warning
  rows : List Row
  /-- How many rows the caller is told of. -/
  rowsReturned : Nat
  /-- What went wrong, in words. -/
  error : Option Text
  errorKind : Option ErrorCode
  /-- Rows are counted in a machine word, as the items of every list are. -/
  counted : rowsReturned < Source.countBound

namespace RunResult

/-- The result with the answer of the source in it. -/
def answered (r : RunResult) (rows : List Row) (few : rows.length < Source.countBound) : RunResult :=
  { r with success := true, status := .allowed, rows, rowsReturned := rows.length, counted := few }

/-- The result with a failure in it. -/
def failed (r : RunResult) (f : Failure) : RunResult :=
  { r with error := some f.message, errorKind := some f.code }

/-- The result as an object. -/
def toJson (r : RunResult) : Json := .object [
  ("success", .bool r.success),
  ("status", .str r.status.text),
  ("original_statement", .str r.submitted),
  ("executed_statement", .ofText? r.executed),
  ("blocked_columns", .arr (r.blocked.map (·.toJson))),
  ("warnings", .arr (r.warnings.map (·.toJson))),
  ("rows", .arr (r.rows.map .obj)),
  ("rows_returned", .ofNat r.rowsReturned),
  ("execution_time_ms", .float .zero),
  ("error", .ofText? r.error),
  ("error_kind", .ofText? (r.errorKind.map (·.text)))]

end RunResult

/-- How a run ends. -/
inductive Outcome where
  | result (r : RunResult)
  | raised (f : Fault)
  /-- The request was cancelled. -/
  | cancelled

/-- What is raised and not dealt with ends a run or a question. -/
def Outcome.ofRaised : Raised → Outcome
  | .cancelled => cancelled
  | e => raised (.raised e)

namespace Gate

/-- The audit entry of a result. -/
def entryOf (now : Timestamp) (req : Request) (r : RunResult) (reason : Option Text) :
    Audit.Entry where
  userId := .str req.userId
  status := r.status
  timestamp := now
  userEmail := .ofText? req.userEmail
  database := .ofText? req.database
  dbType := .ofText? req.dbType
  question := .ofText? req.question
  generatedSql := .str r.submitted
  executedSql := .ofText? r.executed
  blockedColumns := r.blocked.map (·.toRecord)
  warnings := r.warnings.map (·.toRecord)
  reason := .ofText? reason
  executionTimeMs := .float .zero
  rowsReturned := if r.success then .ofNat r.rowsReturned else .null
  error := .ofText? r.error

/-- The violation record of a request from which columns were removed. -/
def violationOf (now : Timestamp) (req : Request) (blocked : List BlockedColumn) :
    Audit.Violation where
  userId := .str req.userId
  attemptedQuery := .str req.statement
  blockedColumns := blocked.map (·.toRecord)
  reason := .str (Sanitizer.blockedReason blocked.length)
  timestamp := now
  userEmail := .ofText? req.userEmail
  severity := .str Audit.Violation.defaultSeverity

/-- Appends the entry of a result at a time and reports that the run is complete. -/
def auditAt (g : Gate) (now : Timestamp) (req : Request) (r : RunResult) (reason : Option Text)
    (w : World) : Except Fault World :=
  (w.write (g.trail.recordOn now.date (entryOf now req r reason))).map fun w =>
    w.report [.pipelineCompleted r.status r.errorKind r.blocked.length r.rowsReturned]

/-- The end of a run whose result is audited. -/
def conclude (g : Gate) (req : Request) (r : RunResult) (reason : Option Text) (ended : Outcome)
    (w : World) : Outcome × World :=
  match w.now with
  | .error f => (.raised (.clock f), w)
  | .ok now =>
    match g.auditAt now req r reason w with
    | .ok w => (ended, w)
    | .error f => (.raised f, w)

/-- The statement that may run in place of a given one, or the refusal, with what is reported. -/
def prepare (g : Gate) (s schema : Text) : Except Fault Sanitized × List Event :=
  match g.rules.judge s with
  | .rejected r =>
    match r.reason? with
    | some reason =>
      (.error (.raised (.guard (.rejected reason (some s) r.matched?))), [.statementRejected r])
    | none => (.error .noKindAllowed, [.statementRejected r])
  | .safe =>
    let outcome := Sanitizer.sanitize g.catalog s schema
    (.ok outcome, outcome.events)

/-- The result of a refused statement. -/
def refusal (req : Request) (reason : Text) : RunResult where
  success := false
  status := .blocked
  submitted := req.statement
  executed := none
  blocked := []
  warnings := []
  rows := []
  rowsReturned := 0
  error := some ("Query validation failed: ".toList ++ reason)
  errorKind := some .rejected
  counted := Source.countBound_pos

/-- The result of a sanitized statement before the source is asked. -/
def pending (g : Gate) (req : Request) (s : Sanitized) : RunResult where
  success := false
  status := .error
  submitted := req.statement
  executed := some s.statement
  blocked := s.blocked
  warnings := s.warnings ++
    (if s.blocked.isEmpty then []
      else [.columnsBlocked s.blocked (Sanitizer.suggestions g.catalog s.blocked)])
  rows := []
  rowsReturned := 0
  error := none
  errorKind := none
  counted := Source.countBound_pos

/-- Why an answered statement was not answered in full, if columns were removed. -/
def partialReason (r : RunResult) : Option Text :=
  if r.blocked.isEmpty then none else some (Sanitizer.blockedReason r.blocked.length)

/-- The failure that a result tells of, for what a source raised; other failures of the gate are
raised again. -/
def failureOf : Raised → Option Failure
  | .guard (.timeout seconds statement) =>
    some ⟨(GuardError.timeout seconds statement).message, .timeout⟩
  | .guard (.plain .failure message _ _) => some ⟨message, .executionFailure⟩
  | .guard _ => none
  | .backend e => some ⟨e.text, .executionFailure⟩
  | .cancelled => none

/-- The end of a run, given how the attempt to have its statement answered ended. -/
def finish (g : Gate) (req : Request) (r : RunResult) (a : Source.Attempt) (w : World) :
    Outcome × World :=
  let fail (f : Failure) : Outcome × World :=
    g.conclude req (r.failed f) none (.result (r.failed f)) w
  match a with
  | .answered rows few =>
    let r := r.answered rows few
    g.conclude req r (partialReason r) (.result r) w
  | .timedOut => fail ⟨(GuardError.timeout g.timeout r.executed).message, .timeout⟩
  | .interrupted =>
    let r := r.failed .cancellation
    g.conclude req r none .cancelled w
  | .raised e =>
    match failureOf e with
    | some f => fail f
    -- raised again, without an entry
    | none => (.ofRaised e, w)

/-- Records a violation if columns were removed. -/
def recordViolation (g : Gate) (req : Request) (s : Sanitized) (w : World) : Except Fault World :=
  if s.blocked.isEmpty then .ok w
  else match w.now with
    | .error f => .error (.clock f)
    | .ok now => w.write (g.trail.recordViolationOn now.date (violationOf now req s.blocked))

/-- Runs a sanitized statement.  The source is asked only if there is any time. -/
def execute (g : Gate) (src : Source) (interrupt : Bool) (req : Request) (s : Sanitized)
    (w : World) : Outcome × World :=
  match g.recordViolation req s w with
  | .error f => (.raised f, w)
  | .ok w =>
    -- a deadline that has passed leaves the source unasked
    let w := if g.timeout.isNonpositive then w else w.reach src s.statement
    g.finish req (g.pending req s) (src.attempt g.timeout interrupt s.statement) w

/-- Runs a statement; `interrupt` says that the caller goes away as soon as the source has been
asked. -/
def run (g : Gate) (src : Source) (interrupt : Bool) (req : Request) (w : World) :
    Outcome × World :=
  match g.rules.judge req.statement with
  | .rejected r =>
    let w := w.report [.statementRejected r]
    match r.reason? with
    | some reason =>
      let result := refusal req reason
      g.conclude req result (some reason) (.result result) w
    | none => (.raised .noKindAllowed, w)
  | .safe =>
    let s := Sanitizer.sanitize g.catalog req.statement req.schema
    g.execute src interrupt req s (w.report s.events)

end Gate

end QueryGate
