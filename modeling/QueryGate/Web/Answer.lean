import QueryGate.Schema
import QueryGate.Web.App
import QueryGate.Web.Endpoint
import QueryGate.Web.Input

/-!
# Answers of the endpoints

Each endpoint turns a request into a response body, or into a fault that is dealt with elsewhere.
Whatever happens to a statement in the pipeline is no failure of the request.

The caller is who the request's headers say; checking them is done before requests come here.
-/

namespace QueryGate.Web

open Text

/-- What an endpoint gives. -/
inductive Answer where
  | reply (status : Nat) (body : Body)
  | fault (f : Fault)

/-- The answer in which all is well.  Numbers that are not finite are left out. -/
def Answer.fine (members : List (String × Json)) : Answer :=
  let v := (Json.object members).withFinite
  if v.isPortable then .reply 200 (.json v) else .fault .unwritable

/-- The answer of a few words on why there is no other. -/
def Answer.detail (status : Nat) (words : String) : Answer :=
  .reply status (.json (.object [("detail", .str words.toList)]))

/-- The answer to a request that is not dealt with.  What was found is shown along with what is
wrong, so it must have a JSON text. -/
def Answer.refused : Refusal → Answer
  | .issue i found =>
    if found.isPortable then .reply 422 (.json (.object [("detail", .arr [i.toJson])]))
    else .fault .unwritable
  | .unreadable => .detail 400 "There was an error parsing the body"

/-- The user of a request that names none. -/
def anonymous : Text := "anonymous".toList

/-- The user that a request is audited under. -/
def HttpRequest.userId (r : HttpRequest) : Text := (r.givenHeader? "X-User-ID").getD anonymous

/-- The address of the user, if it is known. -/
def HttpRequest.userEmail (r : HttpRequest) : Option Text := r.givenHeader? "X-User-Email"

/-- The name of a request in headers, records and reports. -/
def App.nameOf (a : App) (r : HttpRequest) : Text := (r.header? "X-Request-ID").getD a.freshId

/-- The name of a request in the body of its answer, which is never empty. -/
def App.givenNameOf (a : App) (r : HttpRequest) : Text :=
  (r.givenHeader? "X-Request-ID").getD a.freshId

/-- A warning with all its fields. -/
def warningJson (w : Warning) : Json :=
  let record := w.toRecord
  .object [("message", record.message), ("code", record.code), ("details", record.details)]

/-- The result of a question. -/
def resultFields (question name : Text) (r : RunResult) : List (String × Json) := [
  ("success", .bool r.success),
  ("status", .str r.status.text),
  ("original_query", .str question),
  ("generated_sql", if r.submitted.isEmpty then .null else .str r.submitted),
  ("executed_sql", .ofText? r.executed),
  ("rows", .arr (r.rows.map .obj)),
  ("row_count", .ofNat r.rowsReturned),
  ("blocked_columns", .arr (r.blocked.map (·.toJson))),
  ("warnings", .arr (r.warnings.map warningJson)),
  ("error", .ofText? r.error),
  ("error_kind", .ofText? (r.errorKind.map (·.text))),
  ("request_id", .str name),
  ("processing_time_ms", .float .zero)]

/-- The category under which a removed column is counted. -/
def categoryOf (c : Catalog) (b : BlockedColumn) : Text :=
  match c.categoryOf? b.column with
  | some (x :: category) => x :: category
  | _ => BlockedColumn.category

/-- What is counted for a result. -/
def runOf (c : Catalog) (r : RunResult) : Metrics.Registry.Run where
  status := r.status.text
  duration := .zero
  errorKind := r.errorKind.map (·.text)
  blockedCategories := r.blocked.map (categoryOf c)

namespace App

/-- Answers a question and counts the result.  A request whose caller goes away is one whose source
finds its work cancelled. -/
def ask (a : App) (r : HttpRequest) (s : State) : Answer × State :=
  match questionIn a.bodyDepth r with
  | .error refusal => (.refused refusal, s)
  | .ok question =>
    match a.service.ask a.source false ⟨question, r.userId, r.userEmail⟩ s.world with
    | (.result result, w) =>
      (.fine (resultFields question (a.givenNameOf r) result),
        ⟨w, s.metrics.trackRun (runOf a.service.gate.catalog result)⟩)
    | (.raised f, w) => (.fault f, { s with world := w })
    | (.cancelled, w) => (.fault (.raised .cancelled), { s with world := w })

/-- Shows what would be executed for a statement. -/
def dryRun (a : App) (r : HttpRequest) (s : State) : Answer × State :=
  match statementIn a.bodyDepth r with
  | .error refusal => (.refused refusal, s)
  | .ok statement =>
    match a.source.describe with
    | .error e => (.fault (.raised e), s)
    | .ok schema =>
      let (prepared, events) := a.service.gate.prepare statement schema
      -- what preparing reports is kept even if it fails
      let s := { s with world := s.world.report events }
      match prepared with
      | .error f => (.fault f, s)
      | .ok outcome =>
        match s.world.now with
        | .error f => (.fault (.clock f), s)
        | .ok now =>
          (.fine [
            ("safe", .bool true),
            ("original_sql", .str statement),
            ("sanitized_sql", .str outcome.statement),
            ("blocked_columns", .arr (outcome.blocked.map (·.toJson))),
            ("warnings", .arr (outcome.warnings.map warningJson)),
            ("security_report",
              Sanitizer.report a.service.gate.catalog now statement outcome)], s)

/-- Shows the newest entries of the caller. -/
def history (a : App) (r : HttpRequest) (s : State) : Answer × State :=
  match limitIn 50 r.target with
  | .error refusal => (.refused refusal, s)
  | .ok limit =>
    let (found, events) := a.service.gate.trail.entriesOf r.userId limit s.world.directory
    let w := s.world.report events
    match found with
    | .error f => (.fault f, { s with world := w })
    | .ok entries =>
      (.fine [
        ("user_id", .str r.userId),
        ("count", .ofNat entries.length),
        ("entries", .arr (entries.map (·.toJson)))],
        ⟨w, s.metrics.trackAuditRead "history"⟩)

/-- Shows the newest violations. -/
def violations (a : App) (r : HttpRequest) (s : State) : Answer × State :=
  match limitIn 100 r.target with
  | .error refusal => (.refused refusal, s)
  | .ok limit =>
    let (found, events) := a.service.gate.trail.violations limit s.world.directory
    let w := s.world.report events
    match found with
    | .error f => (.fault f, { s with world := w })
    | .ok violations =>
      (.fine [
        ("count", .ofNat violations.length),
        ("violations", .arr (violations.map (·.toJson)))],
        ⟨w, s.metrics.trackAuditRead "violations"⟩)

/-- A column of the schema. -/
def columnJson (c : Column) : Json := .object [
  ("name", .str c.name),
  ("type", .str c.type),
  ("attributes", .str c.attributes)]

/-- A table of the schema. -/
def tableJson (t : Table) : Json := .object [
  ("name", .str t.name),
  ("columns", .arr (t.columns.map columnJson))]

/-- Shows the schema of the source. -/
def schema (a : App) : Answer :=
  match a.source.describe with
  | .error e => .fault (.raised e)
  | .ok raw => .fine [
      ("database", .str a.source.name),
      ("db_type", .str a.source.kind),
      ("tables", .arr ((Schema.parse raw).map tableJson)),
      ("raw", .str raw)]

/-- Tells whether the audit directory can be written to, which makes it if need be. -/
def health (s : State) : Answer × State :=
  let writable := s.world.directory.isWritable
  let s := { s with world := { s.world with directory := s.world.directory.ensure } }
  match s.world.now with
  | .error f => (.fault (.clock f), s)
  | .ok now =>
    (.fine [
      ("status", .str (if writable then "healthy" else "degraded").toList),
      ("version", .str version),
      ("timestamp", .str now.toZuluText),
      ("checks", .object [("api", .bool true), ("audit_writable", .bool writable)])], s)

/-- Tells that the application has all its parts. -/
def ready : Answer := .fine [
  ("ready", .bool true),
  ("checks", .object [("pipeline_configured", .bool true), ("data_source_configured", .bool true)])]

/-- The answer of an endpoint. -/
def answer (a : App) (e : Endpoint) (r : HttpRequest) (s : State) : Answer × State :=
  match e with
  | .health => health s
  | .ready => (ready, s)
  | .live => (.fine [("status", .str "ok".toList)], s)
  | .ask => a.ask r s
  | .dryRun => a.dryRun r s
  | .history => a.history r s
  | .violations => a.violations r s
  | .schema => (a.schema, s)
  | .metrics => (.reply 200 (.samples s.metrics.samples), s)
  | .description | .docs | .docsReturn | .otherDocs => (.reply 200 .page, s)

/-- The answer to a request, wherever it leads. -/
def route (a : App) (r : HttpRequest) (s : State) : Answer × State :=
  match Route.find r.method r.target.path with
  | .to e => a.answer e r s
  | .wrongMethod => (.detail 405 "Method Not Allowed", s)
  | .moved => (.reply 307 .empty, s)
  | .nowhere => (.detail 404 "Not Found", s)

end App

end QueryGate.Web
