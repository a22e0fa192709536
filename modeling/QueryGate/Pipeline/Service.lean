import QueryGate.Draft.Drafter
import QueryGate.Pipeline.Run

/-!
# Answering questions

A question is answered in three stages: the source describes its schema, a statement is drafted,
and the draft is run through the gate.  If the first or second stage fails, nothing is executed;
the failure is audited and told in the result.  If the request is cancelled during one of them,
nothing is audited.
-/

namespace QueryGate

open Text

/-- A gate with a drafter in front. -/
structure Service where
  gate : Gate
  drafter : Draft.Drafter

/-- A question with its caller. -/
structure Question where
  text : Text
  userId : Text
  userEmail : Option Text

namespace Service

/-- The result of a question for which there is no statement. -/
def undrafted (f : Failure) : RunResult where
  success := false
  status := .error
  submitted := []
  executed := none
  blocked := []
  warnings := []
  rows := []
  rowsReturned := 0
  error := some f.message
  errorKind := some f.code
  counted := Source.countBound_pos

/-- The audit entry of a question for which there is no statement. -/
def undraftedEntry (now : Timestamp) (q : Question) (src : Source) (message : Text) : Audit.Entry :=
  { Audit.Entry.bare (.str q.userId) .error now with
    userEmail := .ofText? q.userEmail
    database := .str src.name
    dbType := .str src.kind
    question := .str q.text
    error := .str message }

/-- Audits a question for which there is no statement. -/
def fail (svc : Service) (src : Source) (q : Question) (f : Failure) (w : World) :
    Outcome × World :=
  match w.now with
  | .error fault => (.raised (.clock fault), w)
  | .ok now =>
    match w.write (svc.gate.trail.recordOn now.date (undraftedEntry now q src f.message)) with
    | .ok w => (.result (undrafted f), w)
    | .error fault => (.raised fault, w)

/-- Answers a question from a source; `interrupt` says that the caller goes away as soon as the
source has been asked to answer the draft. -/
def ask (svc : Service) (src : Source) (interrupt : Bool) (q : Question) (w : World) :
    Outcome × World :=
  match src.describe with
  | .error .cancelled => (.cancelled, w)
  | .error e =>
    svc.fail src q ⟨e.text, .executionFailure⟩ (w.report [.schemaIntrospectionFailed e.text])
  | .ok schema =>
    let drafted := svc.drafter.draft q.text schema src.kind
    let w := (w.ask drafted.prompt).report drafted.events
    match drafted.result with
    | .error (.guard e) =>
      svc.fail src q ⟨e.message, e.code⟩ (w.report [.questionUndrafted e.message])
    -- only failures to draft are dealt with
    | .error e => (.ofRaised e, w)
    | .ok statement =>
      svc.gate.run src interrupt
        ⟨statement, schema, q.userId, q.userEmail, some src.name, some src.kind, some q.text⟩ w

end Service

end QueryGate
