import QueryGate.Json.Basic

/-!
# Issues with given values

Values from outside are checked against what is expected of them.  Everything that is wrong is
reported, each issue with its place: the keys and list positions that lead to it.
-/

namespace QueryGate

open Text

/-- A step on the way to a value inside another. -/
inductive Step where
  | key (name : Text)
  | index (i : Nat)
  deriving DecidableEq, Repr

/-- The step as a JSON value. -/
def Step.toJson : Step → Json
  | key name => .str name
  | index i => .ofNat i

/-- What may be wrong with a value. -/
inductive IssueKind where
  | missing
  | notString
  | emptyString
  | tooLong (limit : Nat)
  | notInteger
  | unreadableInteger
  | oversizedInteger
  | fractionalInteger
  | notFinite
  | notNumber
  | unreadableNumber
  | notGreater (bound : Nat)
  | notAtLeast (bound : Nat)
  | notAtMost (bound : Nat)
  | notObject
  | notList
  | noDocument
  | noFields
  | emptyObject
  | refused (reason : Text)
  | badJson
  deriving DecidableEq, Repr

namespace IssueKind

/-- The stable name of the issue. -/
def name : IssueKind → String
  | missing => "missing"
  | notString => "string_type"
  | emptyString => "string_too_short"
  | tooLong _ => "string_too_long"
  | notInteger => "int_type"
  | unreadableInteger => "int_parsing"
  | oversizedInteger => "int_parsing_size"
  | fractionalInteger => "int_from_float"
  | notFinite => "finite_number"
  | notNumber => "float_type"
  | unreadableNumber => "float_parsing"
  | notGreater _ => "greater_than"
  | notAtLeast _ => "greater_than_equal"
  | notAtMost _ => "less_than_equal"
  | notObject => "dict_type"
  | notList => "list_type"
  | noDocument => "model_type"
  | noFields => "model_attributes_type"
  | emptyObject => "too_short"
  | refused _ => "value_error"
  | badJson => "json_invalid"

/-- The issue in words; a text that is no JSON has its own wording for each fault, left out
here. -/
def message? : IssueKind → Option Text
  | missing => some "Field required".toList
  | notString => some "Input should be a valid string".toList
  | emptyString => some "String should have at least 1 character".toList
  | tooLong limit =>
    some ("String should have at most ".toList ++ ofNat limit ++ " characters".toList)
  | notInteger => some "Input should be a valid integer".toList
  | unreadableInteger =>
    some "Input should be a valid integer, unable to parse string as an integer".toList
  | oversizedInteger =>
    some "Unable to parse input string as an integer, exceeded maximum size".toList
  | fractionalInteger =>
    some "Input should be a valid integer, got a number with a fractional part".toList
  | notFinite => some "Input should be a finite number".toList
  | notNumber => some "Input should be a valid number".toList
  | unreadableNumber =>
    some "Input should be a valid number, unable to parse string as a number".toList
  | notGreater bound => some ("Input should be greater than ".toList ++ ofNat bound)
  | notAtLeast bound => some ("Input should be greater than or equal to ".toList ++ ofNat bound)
  | notAtMost bound => some ("Input should be less than or equal to ".toList ++ ofNat bound)
  | notObject => some "Input should be an object".toList
  | notList => some "Input should be a valid array".toList
  | noDocument => some "Input should be an object".toList
  | noFields =>
    some "Input should be a valid dictionary or object to extract fields from".toList
  | emptyObject => some "Dictionary should have at least 1 item after validation, not 0".toList
  | refused reason => some ("Value error, ".toList ++ reason)
  | badJson => none

end IssueKind

/-- An issue and its place. -/
structure Issue where
  kind : IssueKind
  loc : List Step
  deriving DecidableEq, Repr

/-- An issue at a named field. -/
def Issue.at (field : String) (kind : IssueKind) : Issue := ⟨kind, [.key field.toList]⟩

/-- The issue as an object. -/
def Issue.toJson (i : Issue) : Json :=
  .object ([("type", .str i.kind.name.toList), ("loc", .arr (i.loc.map (·.toJson)))]
    ++ (i.kind.message?.map fun m => ("msg", Json.str m)).toList)

/-- The outcome of checking a value: the value, or all that is wrong with it. -/
inductive Checked (α : Type) where
  | ok (a : α)
  | bad (issues : List Issue)

namespace Checked

/-- The issues of an outcome. -/
def issues {α : Type} : Checked α → List Issue
  | ok _ => []
  | bad issues => issues

/-- One issue at a named field, or the value. -/
def ofExcept {α : Type} (field : String) : Except IssueKind α → Checked α
  | .ok a => ok a
  | .error kind => bad [.at field kind]

/-- A function applied to its checked argument; the issues of both are collected. -/
def apply {α β : Type} (f : Checked (α → β)) (a : Checked α) : Checked β :=
  match f, a with
  | ok f, ok a => ok (f a)
  | f, a => bad (f.issues ++ a.issues)

end Checked

end QueryGate
