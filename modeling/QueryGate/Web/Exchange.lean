import QueryGate.Json.Basic
import QueryGate.Text.Blank
import QueryGate.Text.LetterCase
import QueryGate.Web.Url

/-!
# Requests and responses

A request brings headers, whose names are the same in any letter case, and perhaps a body, which is
JSON if the headers say so.  The answer to it has a status and a body, and most often names the
request that it answers.
-/

namespace QueryGate.Web

open Text

/-- A request. -/
structure HttpRequest where
  method : Text
  target : Target
  /-- The headers in order; of several headers of one name the first counts. -/
  headers : List (Text × Text)
  /-- The body, which may be empty. -/
  body : List UInt8

/-- The value of a header. -/
def HttpRequest.header? (r : HttpRequest) (name : String) : Option Text :=
  (r.headers.find? fun h => h.1.map asciiLower == name.toList.map asciiLower).map (·.2)

/-- The value of a header that is there and not empty. -/
def HttpRequest.givenHeader? (r : HttpRequest) (name : String) : Option Text :=
  match r.header? name with
  | some (c :: value) => some (c :: value)
  | _ => none

/-- Whether a content type is that of JSON: `application/json`, or another type of `application` that
is laid out like it. -/
def isJsonType (contentType : Text) : Bool :=
  match splitOn '/' (toLower (trim (contentType.takeWhile (· ≠ ';')))) with
  | [kind, form] =>
    kind == "application".toList && (form == "json".toList || endsWith "+json".toList form)
  | _ => false

/-- Whether the body of a request is meant as JSON. -/
def HttpRequest.bringsJson (r : HttpRequest) : Bool :=
  match r.header? "Content-Type" with
  | some contentType => isJsonType contentType
  | none => false

/-- What a response holds. -/
inductive Body where
  | empty
  | json (v : Json)
  /-- Plain words. -/
  | words (s : Text)
  /-- Measurements, line by line. -/
  | samples (lines : List Text)
  /-- A page about the application. -/
  | page

/-- The answer to a request. -/
structure HttpResponse where
  status : Nat
  /-- The request that is answered, as named in a header. -/
  requestId : Option Text
  body : Body

end QueryGate.Web
