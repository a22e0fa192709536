import QueryGate.Draft.Clean
import QueryGate.Draft.Prompt
import QueryGate.Event

/-!
# Drafting a statement

A drafter puts a question to a model and cleans its answer.  The model here answers from a list:
the first entry whose key occurs in the question, in any letter case, or else a default answer.
A model may also be one that fails every time.
-/

namespace QueryGate.Draft

open Text

/-- A model that answers from a list. -/
structure CannedModel where
  /-- Answers by a text that occurs in the question. -/
  responses : OrderedMap Text Text
  /-- The answer when no key occurs. -/
  default : Text
  /-- What every call raises, if it does. -/
  failure : Option Raised

namespace CannedModel

/-- The name under which the model's answers are reported. -/
def name : Text := "mock-llm-v1".toList

/-- The answer of a model that is given none. -/
def unknownTable : Text := "SELECT * FROM unknown_table".toList

/-- The answer to a prompt. -/
def answer (m : CannedModel) (prompt : Text) : Except Raised Text :=
  match m.failure with
  | some e => .error e
  | none =>
    let question := toLower (questionOf prompt)
    match m.responses.entries.find? fun r => contains (toLower r.1) question with
    | some r => .ok r.2
    | none => .ok m.default

end CannedModel

/-- A model with what its prompts are made from. -/
structure Drafter where
  model : CannedModel
  catalog : Catalog
  rowLimit : Int

/-- A draft or what was raised instead, with the prompt that was sent and what was reported. -/
structure Drafted where
  result : Except Raised Text
  prompt : Text
  events : List Event

/-- The draft of a statement that answers a question.  Every failure to make one is a failure of the
gate; that the request is cancelled is no failure. -/
def Drafter.draft (d : Drafter) (question schema dbType : Text) : Drafted :=
  let sent := prompt ⟨question, schema, dbType, d.rowLimit, d.catalog⟩
  match d.model.answer sent with
  | .error .cancelled => ⟨.error .cancelled, sent, []⟩
  | .error e =>
    ⟨.error (.guard (.undrafted ("SQL generation failed: ".toList ++ e.text))), sent,
      [.draftFailed e.text]⟩
  | .ok answer =>
    let sql := clean answer
    if sql.isEmpty then
      ⟨.error (.guard (.undrafted "SQL generation returned an empty statement".toList)), sent, []⟩
    else ⟨.ok sql, sent, [.sqlGenerated CannedModel.name sql]⟩

end QueryGate.Draft
