import QueryGate.Text.Basic

/-!
# Endpoints

Each endpoint has a path and the methods that it answers.  A line feed at the end of a path is
ignored.  A path that would name an endpoint without the slashes at its end is moved there,
whatever the method.

Besides the endpoints proper there are pages that describe them.
-/

namespace QueryGate.Web

open Text

/-- What can be asked for. -/
inductive Endpoint where
  | health
  | ready
  | live
  | ask
  | dryRun
  | history
  | violations
  | schema
  | metrics
  /-- The description of all endpoints. -/
  | description
  | docs
  /-- Where the page of `docs` is led back to by those who authorize it. -/
  | docsReturn
  /-- The same description, laid out by another program. -/
  | otherDocs
  deriving DecidableEq, Repr

namespace Endpoint

/-- All endpoints. -/
def all : List Endpoint := [
  description, docs, docsReturn, otherDocs,
  health, ready, live, ask, dryRun, history, violations, schema, metrics]

/-- The path of an endpoint. -/
def path : Endpoint → Text
  | health => "/health".toList
  | ready => "/ready".toList
  | live => "/live".toList
  | ask => "/api/v1/query".toList
  | dryRun => "/api/v1/validate".toList
  | history => "/api/v1/audit/history".toList
  | violations => "/api/v1/audit/violations".toList
  | schema => "/api/v1/schema".toList
  | metrics => "/metrics".toList
  | description => "/openapi.json".toList
  | docs => "/docs".toList
  | docsReturn => "/docs/oauth2-redirect".toList
  | otherDocs => "/redoc".toList

/-- The methods that an endpoint answers. -/
def methods : Endpoint → List Text
  | ask => ["POST".toList]
  | dryRun => ["POST".toList]
  | metrics | description | docs | docsReturn | otherDocs => ["GET".toList, "HEAD".toList]
  | health | ready | live | history | violations | schema => ["GET".toList]

/-- Whether a path names an endpoint. -/
def isNamed (e : Endpoint) (path : Text) : Bool := path == e.path || path == e.path ++ ['\n']

/-- The endpoint that a path names. -/
def ofPath? (path : Text) : Option Endpoint := all.find? (·.isNamed path)

end Endpoint

/-- Where a request leads. -/
inductive Route where
  | to (e : Endpoint)
  | wrongMethod
  /-- The endpoint stands at the path without slashes at its end. -/
  | moved
  | nowhere
  deriving DecidableEq, Repr

/-- A path without the slashes at its end. -/
def withoutSlashes (path : Text) : Text := (path.reverse.dropWhile (· = '/')).reverse

/-- Where a method and path lead. -/
def Route.find (method path : Text) : Route :=
  match Endpoint.ofPath? path with
  | some e => if e.methods.contains method then .to e else .wrongMethod
  | none =>
    if endsWith ['/'] path && (Endpoint.ofPath? (withoutSlashes path)).isSome then .moved
    else .nowhere

end QueryGate.Web
