import QueryGate.Catalog
import QueryGate.Check.Scalar
import QueryGate.Json.Parser
import QueryGate.Json.Printer
import QueryGate.Text.Utf8

/-!
# Catalog files

A catalog file is a JSON object with a version, the patterns of each category, and optional safe
alternatives.  There must be at least one category, and no pattern may be blank.  Patterns are
trimmed and brought to lower case when the file is loaded.

A name may be repeated.  Of repeated fields the last counts.  Of repeated categories, and of
repeated alternatives, each is checked, the first gives the place and the last gives the value.
-/

namespace QueryGate.Catalog

open Text

/-- The contents of a catalog file. -/
structure Document where
  version : Text
  categories : OrderedMap Text (List Text)
  safeAlternatives : OrderedMap Text Text
  deriving DecidableEq, Repr

namespace Document

/-- The texts of a list that stands at a place; `i` is the position of the first. -/
def checkTexts (loc : List Step) (i : Nat) : List Json → Checked (List Text)
  | [] => .ok []
  | v :: rest =>
    let head : Checked Text :=
      match Check.text v with
      | .ok s => .ok s
      | .error kind => .bad [⟨kind, loc ++ [.index i]⟩]
    (Checked.ok List.cons).apply head |>.apply (checkTexts loc (i + 1) rest)

/-- The members of an object, each checked at its place. -/
def checkMembers {α : Type} (loc : List Step) (check : List Step → Json → Checked α) :
    List (Text × Json) → Checked (List (Text × α))
  | [] => .ok []
  | (k, v) :: rest =>
    (Checked.ok fun a more => (k, a) :: more).apply (check (loc ++ [.key k]) v)
      |>.apply (checkMembers loc check rest)

/-- A list of texts. -/
def checkPatterns (loc : List Step) : Json → Checked (List Text)
  | .arr items => checkTexts loc 0 items
  | _ => .bad [⟨.notList, loc⟩]

/-- A text. -/
def checkAlternative (loc : List Step) (v : Json) : Checked Text :=
  match Check.text v with
  | .ok s => .ok s
  | .error kind => .bad [⟨kind, loc⟩]

/-- A pattern of nothing but blanks. -/
def isBlankPattern (p : Text) : Bool := (trim p).isEmpty

/-- The categories: at least one, and no blank pattern in any. -/
def checkCategories (v : Json) : Checked (OrderedMap Text (List Text)) :=
  match v with
  | .members l =>
    match checkMembers [.key "categories".toList] checkPatterns (Json.textMembers l) with
    | .bad issues => .bad issues
    | .ok [] => .bad [.at "categories" .emptyObject]
    | .ok all =>
      let categories := OrderedMap.ofList all
      match categories.entries.find? fun c => c.2.any isBlankPattern with
      | some c =>
        .bad [.at "categories" (.refused
          ("Category '".toList ++ c.1 ++ "' contains a blank pattern".toList))]
      | none => .ok categories
  | _ => .bad [.at "categories" .notObject]

/-- The safe alternatives. -/
def checkAlternatives (v : Json) : Checked (OrderedMap Text Text) :=
  match v with
  | .members l =>
    (Checked.ok OrderedMap.ofList).apply
      (checkMembers [.key "safe_alternatives".toList] checkAlternative (Json.textMembers l))
  | _ => .bad [.at "safe_alternatives" .notObject]

/-- A member that must be there. -/
def demanded {α : Type} (field : String) (check : Json → Checked α)
    (l : List (JsonString × Json)) : Checked α :=
  match Json.lastMember? field.toList l with
  | some v => check v
  | none => .bad [.at field .missing]

/-- The document that a JSON value stands for; unknown members are ignored. -/
def ofJson : Json → Checked Document
  | .members l =>
    (Checked.ok Document.mk)
      |>.apply (demanded "version" (fun v => .ofExcept "version" (Check.someText v)) l)
      |>.apply (demanded "categories" checkCategories l)
      |>.apply
        (match Json.lastMember? "safe_alternatives".toList l with
        | some v => checkAlternatives v
        | none => .ok .empty)
  | _ => .bad [⟨.noDocument, []⟩]

/-- The document that a text stands for. -/
def ofText (s : Text) : Checked Document :=
  match Json.parse .strict s with
  | .ok v => ofJson v
  | .error _ => .bad [⟨.badJson, []⟩]

/-- The catalog that a document describes. -/
def toCatalog (d : Document) : Catalog :=
  make (d.categories.mapValues fun patterns => patterns.map trim) d.safeAlternatives d.version

end Document

/-- A catalog as the object that a catalog file holds. -/
def toJson (c : Catalog) : Json := .object [
  ("version", .str c.version),
  ("categories", .obj (c.categories.entries.map fun e => (e.1, .ofTexts e.2))),
  ("safe_alternatives", .obj (c.safeAlternatives.entries.map fun e => (e.1, .str e.2)))]

/-- Why a catalog file cannot be loaded. -/
inductive LoadError where
  | noFile
  /-- There is a folder in place of the file. -/
  | folder
  | notText
  | invalid (issues : List Issue)

/-- The catalog in a file, given the file's bytes. -/
def load (file : Option (List UInt8)) : Except LoadError Catalog :=
  match file with
  | none => .error .noFile
  | some bytes =>
    match ofUtf8? bytes with
    | none => .error .notText
    | some s =>
      match Document.ofText s with
      | .ok d => .ok d.toCatalog
      | .bad issues => .error (.invalid issues)

end QueryGate.Catalog
