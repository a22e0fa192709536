import QueryGate.Pipeline.Service

/-!
# Sessions

A session is a series of calls to one service over one source.  Each call is answered before the
next begins, so a session is a fold over its calls; what earlier calls did is known to later ones
only through the world.
-/

namespace QueryGate

open Text

/-- What a caller may ask of a service. -/
inductive Call where
  /-- What would be executed for a statement? -/
  | prepare (statement schema : Text)
  /-- Run a statement; `interrupt` says that the caller goes away as soon as the source has been
  asked. -/
  | run (interrupt : Bool) (request : Request)
  /-- Answer a question, with the same said of its caller. -/
  | ask (interrupt : Bool) (question : Question)

/-- What a caller is told. -/
inductive Reply where
  | prepared (outcome : Except Fault Sanitized)
  | ended (outcome : Outcome)

namespace Service

/-- Answers one call. -/
def perform (svc : Service) (src : Source) (call : Call) (w : World) : Reply × World :=
  match call with
  | .prepare statement schema =>
    let prepared := svc.gate.prepare statement schema
    (.prepared prepared.1, w.report prepared.2)
  | .run interrupt request =>
    let ended := svc.gate.run src interrupt request w
    (.ended ended.1, ended.2)
  | .ask interrupt question =>
    let ended := svc.ask src interrupt question w
    (.ended ended.1, ended.2)

/-- Answers the calls of a session in order. -/
def performAll (svc : Service) (src : Source) : List Call → World → List Reply × World
  | [], w => ([], w)
  | call :: calls, w =>
    let (reply, w) := svc.perform src call w
    let (replies, w) := svc.performAll src calls w
    (reply :: replies, w)

end Service

end QueryGate
