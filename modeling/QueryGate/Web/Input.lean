import QueryGate.Check.Scalar
import QueryGate.Json.Parser
import QueryGate.Text.Encoding
import QueryGate.Web.Exchange

/-!
# What requests bring

A body must be a JSON object with one text in it: a question, or a statement to be checked.  A
question has at most a thousand characters and is trimmed; nothing may be left blank.  A parameter
may limit how many records are shown, up to a thousand.  Whatever is wrong is told with its place.

What was found in place of what is wanted is kept with the issue, since the answer shows it.
-/

namespace QueryGate.Web

open Text

/-- Why a request is not dealt with. -/
inductive Refusal where
  /-- Something is wrong with a part of the request, in which `found` stands. -/
  | issue (i : Issue) (found : Json)
  /-- The body cannot be read. -/
  | unreadable

/-- A refusal for a part of a request. -/
def refusalAt (place : List String) (kind : IssueKind) (found : Json) : Refusal :=
  .issue ⟨kind, place.map fun s => .key s.toList⟩ found

/-- The value in a body, with room for `depth` lists and objects inside one another; none if it is
not meant as JSON. -/
def bodyValue (depth : Nat) (r : HttpRequest) : Except Refusal (Option Json) :=
  if r.body.isEmpty then .error (refusalAt ["body"] .missing .null)
  else if !r.bringsJson then .ok none
  else match ofBytes? r.body with
    | none => .error .unreadable
    | some s =>
      match Json.parse (.lenient depth) s with
      | .ok v => .ok (some v)
      | .error .malformed => .error (refusalAt ["body"] .badJson .null)
      | .error _ => .error .unreadable

/-- A member that the object in a body must have. -/
def bodyField (depth : Nat) (name : String) (check : Json → Except IssueKind Text)
    (r : HttpRequest) : Except Refusal Text :=
  match bodyValue depth r with
  | .error refusal => .error refusal
  | .ok (some (.members l)) =>
    match Json.lastMember? name.toList l with
    | none => .error (refusalAt ["body", name] .missing (.members l))
    | some v => (check v).mapError fun kind => refusalAt ["body", name] kind v
  | .ok found => .error (refusalAt ["body"] .noFields (found.getD .null))

/-- The greatest length of a question. -/
def maxQuestionLength : Nat := 1000

/-- A question. -/
def checkQuestion (v : Json) : Except IssueKind Text := do
  let s ← Check.someText v
  if maxQuestionLength < s.length then .error (.tooLong maxQuestionLength)
  else if (trim s).isEmpty then .error (.refused "Query must not be blank".toList)
  else .ok (trim s)

/-- The question that a request brings. -/
def questionIn (depth : Nat) (r : HttpRequest) : Except Refusal Text :=
  bodyField depth "query" checkQuestion r

/-- The statement that a request brings. -/
def statementIn (depth : Nat) (r : HttpRequest) : Except Refusal Text :=
  bodyField depth "sql" Check.someText r

/-- The greatest number of records shown at once. -/
def maxRecords : Nat := 1000

/-- A number of records. -/
def checkLimit (v : Json) : Except IssueKind Int := do
  let n ← Check.integerAtLeast 1 v
  if (maxRecords : Int) < n then .error (.notAtMost maxRecords) else .ok n

/-- The number of records that a target asks for. -/
def limitIn (default : Int) (t : Target) : Except Refusal Int :=
  match t.parameter? "limit".toList with
  | none => .ok default
  | some s => (checkLimit (.str s)).mapError fun kind => refusalAt ["query", "limit"] kind (.str s)

end QueryGate.Web
