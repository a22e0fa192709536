import QueryGate.Web.Answer

/-!
# Serving requests

A request passes through four layers on its way in, and its answer through the same layers on its
way out.  From the outside: whatever is not dealt with becomes a response of status 500; requests
are counted once they are answered; questions of browsers about what other pages may send are
answered at once; and every request gets a name, which is part of everything reported for it.

Failures of the gate are turned into responses inside of all layers.  Other failures pass through
them, so that the response made outside neither is counted nor names its request in a header.
-/

namespace QueryGate.Web

open Text

/-- A report with the context in which it was made. -/
structure Line where
  context : List (Text × Json)
  event : Event

/-- The report as an object. -/
def Line.toJson (l : Line) : Json := l.event.toJson l.context

/-- The status of a failure of the gate. -/
def statusOf (e : GuardError) : Nat :=
  match e.code with
  | .rejected => 400
  | .draftFailure => 502
  | .timeout => 504
  | _ => 500

/-- The body that tells of a failure. -/
def failureBody (error message name : Text) (details : Json) : Body := .json (.object [
  ("error", .str error),
  ("message", .str message),
  ("request_id", .str name),
  ("details", details)])

/-- The answer in which failures of the gate are responses. -/
def Answer.settle (name : Text) : Answer → Answer
  | .fault (.raised (.guard e)) =>
    .reply (statusOf e) (failureBody e.name e.message name e.toJson)
  | answer => answer

/-- An answer on its way out, with what was reported. -/
structure Passage where
  answer : Answer
  /-- The request that is answered, as named in a header. -/
  name : Option Text
  lines : List Line
  state : State

namespace App

/-- What is reported along with everything about a request. -/
def contextOf (a : App) (r : HttpRequest) : List (Text × Json) := [
  ("request_id".toList, .str (a.nameOf r)),
  ("user_id".toList, .str ((r.header? "X-User-ID").getD anonymous))]

/-- The named request is answered, and all that is reported for it gets its context. -/
def correlate (a : App) (r : HttpRequest) (s : State) : Passage :=
  let (answer, s) := a.route r s
  let events := s.world.events ++ [.requestCompleted r.method r.target.shownPath]
  { answer := answer.settle (a.nameOf r)
    name := some (a.nameOf r)
    lines := events.map (⟨a.contextOf r, ·⟩)
    state := { s with world := { s.world with events := [] } } }

/-- The methods that other pages may use. -/
def sharedMethods : List Text := [
  "DELETE".toList, "GET".toList, "HEAD".toList, "OPTIONS".toList, "PATCH".toList, "POST".toList,
  "PUT".toList, "QUERY".toList]

/-- The method that a browser asks about before it sends a request for another page. -/
def askedMethod? (r : HttpRequest) : Option Text :=
  if r.method == "OPTIONS".toList && (r.header? "Origin").isSome then
    r.header? "Access-Control-Request-Method"
  else none

/-- What a browser asks for that is not allowed: a method that is not shared, and requests from a
public page to a private network. -/
def disallowed (method : Text) (r : HttpRequest) : List Text :=
  (if sharedMethods.contains method then [] else ["method".toList])
    ++ (if (r.header? "Access-Control-Request-Private-Network").isSome then
        ["private-network".toList] else [])

/-- The answer to a question of a browser. -/
def sharing (method : Text) (r : HttpRequest) : Answer :=
  match disallowed method r with
  | [] => .reply 200 (.words "OK".toList)
  | causes => .reply 400 (.words ("Disallowed CORS ".toList ++ join ", ".toList causes))

/-- Questions of browsers are answered at once. -/
def share (a : App) (r : HttpRequest) (s : State) : Passage :=
  match askedMethod? r with
  | some method =>
    { answer := sharing method r
      name := none
      lines := []
      state := s }
  | none => a.correlate r s

/-- Counts an answered request. -/
def count (r : HttpRequest) (answer : Answer) (m : Metrics.Registry) : Metrics.Registry :=
  match answer with
  | .reply status _ => m.trackRequest r.method r.target.shownPath status .zero
  | .fault _ => m

/-- Requests are counted once they are answered, and questions while they are under way. -/
def measure (a : App) (r : HttpRequest) (s : State) : Passage :=
  if r.target.shownPath == Endpoint.ask.path then
    let p := a.share r { s with metrics := s.metrics.beginQuery }
    { p with state :=
      { p.state with metrics := (count r p.answer p.state.metrics).endQuery } }
  else
    let p := a.share r s
    { p with state := { p.state with metrics := count r p.answer p.state.metrics } }

end App

/-- A response with what was reported on the way, and what is kept for the next request. -/
structure Served where
  response : HttpResponse
  lines : List Line
  state : State

/-- The body as it is sent: none in answer to a request for the head alone. -/
def sent (method : Text) (body : Body) : Body :=
  if method == "HEAD".toList then .empty else body

/-- Serves a request. -/
def App.serve (a : App) (r : HttpRequest) (s : State) : Served :=
  let p := a.measure r s
  match p.answer with
  | .reply status body => ⟨⟨status, p.name, sent r.method body⟩, p.lines, p.state⟩
  | .fault _ =>
    ⟨⟨500, none, sent r.method (failureBody "InternalServerError".toList
        "An unexpected error occurred".toList (a.nameOf r) .null)⟩,
      p.lines ++ [⟨[], .unhandledException r.target.shownPath⟩], p.state⟩

/-- A request with the time at which it comes. -/
structure Visit where
  now : Clock
  request : HttpRequest

/-- Serves a request at its time. -/
def App.serveAt (a : App) (v : Visit) (s : State) : Served :=
  a.serve v.request { s with world := { s.world with now := v.now } }

/-- Serves requests in order. -/
def App.serveAll (a : App) : List Visit → State → List Served
  | [], _ => []
  | v :: visits, s =>
    let served := a.serveAt v s
    served :: a.serveAll visits served.state

end QueryGate.Web
