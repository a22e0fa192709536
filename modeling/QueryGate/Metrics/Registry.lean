import QueryGate.Metrics.Sample

/-!
# What is measured

The measurements of a service: runs of the pipeline by status, their duration, failures by kind,
removed columns by category, reads of the audit trail, requests and their durations, and the
queries under way.
-/

namespace QueryGate.Metrics

open Text

/-- A decimal number with the given digits behind the point. -/
def decimal (digits : Nat) (places : Nat) : Binary64 := .ofDecimal false digits (-places)

/-- The bounds up to five seconds. -/
def requestBounds : List Binary64 := [
  decimal 1 2, decimal 5 2, decimal 1 1, decimal 25 2, decimal 5 1, decimal 1 0, decimal 25 1,
  decimal 5 0]

/-- The bounds up to half a minute. -/
def pipelineBounds : List Binary64 := requestBounds ++ [decimal 10 0, decimal 30 0]

/-- The measurements of a service. -/
structure Registry where
  /-- What is told about the service itself. -/
  info : Labels
  runs : Counts
  duration : Histogram
  errors : Counts
  blocked : Counts
  auditReads : Counts
  requests : Counts
  requestDurations : OrderedMap Labels Histogram
  activeQueries : Int

namespace Registry

/-- Nothing measured yet. -/
def fresh : Registry where
  info := []
  runs := .empty
  duration := .ofBounds pipelineBounds
  errors := .empty
  blocked := .empty
  auditReads := .empty
  requests := .empty
  requestDurations := .empty
  activeQueries := 0

/-- A run of the pipeline. -/
structure Run where
  status : Text
  duration : Binary64
  errorKind : Option Text
  /-- The category of every removed column. -/
  blockedCategories : List Text

/-- The registry with a run counted. -/
def trackRun (m : Registry) (r : Run) : Registry :=
  { m with
    runs := m.runs.add [("status", r.status)]
    duration := m.duration.observe r.duration
    errors := match r.errorKind with
      | some (c :: kind) => m.errors.add [("kind", c :: kind)]
      | _ => m.errors
    blocked := r.blockedCategories.foldl (fun b c => b.add [("category", c)]) m.blocked }

/-- The registry with a read of the audit trail counted. -/
def trackAuditRead (m : Registry) (kind : String) : Registry :=
  { m with auditReads := m.auditReads.add [("kind", kind.toList)] }

/-- The registry with an answered request counted. -/
def trackRequest (m : Registry) (method endpoint : Text) (status : Nat) (duration : Binary64) :
    Registry :=
  let labels : Labels := [("endpoint", endpoint), ("method", method)]
  let durations := (m.requestDurations.get? labels).getD (.ofBounds requestBounds)
  { m with
    requests := m.requests.add (labels ++ [("status", ofNat status)])
    requestDurations := m.requestDurations.insert labels (durations.observe duration) }

/-- The registry with one more query under way. -/
def beginQuery (m : Registry) : Registry := { m with activeQueries := m.activeQueries + 1 }

/-- The registry with one query less under way. -/
def endQuery (m : Registry) : Registry := { m with activeQueries := m.activeQueries - 1 }

/-- The lines of all measurements, in no particular order. -/
def lines (m : Registry) : List Text :=
  [line "sql_guard_info" m.info (.ofInt 1),
    line "sql_guard_active_queries" [] (.ofInt m.activeQueries)]
    ++ m.runs.lines "sql_guard_pipeline_runs_total"
    ++ m.duration.lines "sql_guard_pipeline_duration_seconds" []
    ++ m.errors.lines "sql_guard_pipeline_errors_total"
    ++ m.blocked.lines "sql_guard_blocked_columns_total"
    ++ m.auditReads.lines "sql_guard_audit_reads_total"
    ++ m.requests.lines "http_requests_total"
    ++ m.requestDurations.entries.flatMap fun e =>
      e.2.lines "http_request_duration_seconds" e.1

/-- The lines of all measurements, sorted. -/
def samples (m : Registry) : List Text := m.lines.mergeSort Text.le

end Registry

end QueryGate.Metrics
