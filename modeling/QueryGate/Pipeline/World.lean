import QueryGate.Audit.Trail
import QueryGate.Sanitizer
import QueryGate.Source.Basic

/-!
# What the pipeline acts on

The pipeline reads a clock and changes four things: the audit directory, the list of statements
that reached the source, the list of prompts that reached the model, and the log.  Together they
are its world.  Time stands still while a request is answered.

At the ends of the calendar the clock may show a local time that is no universal time.  That does
no harm until a record is made, which needs the time.
-/

namespace QueryGate

/-- The world of a pipeline. -/
structure World where
  /-- The current time by the universal clock. -/
  now : Clock
  directory : Audit.Directory
  /-- The statements that reached the source, in order. -/
  executed : List Text
  /-- The prompts that reached the model, in order. -/
  prompts : List Text
  /-- What was reported, in order. -/
  events : List Event

namespace World

/-- The world with more events. -/
def report (events : List Event) (w : World) : World := { w with events := w.events ++ events }

/-- The world after something was written to the audit directory. -/
def wrote (written : Audit.Written) (w : World) : World :=
  { w with directory := written.directory, events := w.events ++ written.events }

/-- The world after an attempt to write to the audit directory, unless the attempt fails. -/
def write (f : Audit.Directory → Except Fault Audit.Written) (w : World) : Except Fault World :=
  (f w.directory).map fun written => w.wrote written

/-- The world after a statement reached the source. -/
def reach (src : Source) (s : Text) (w : World) : World :=
  if src.keepsStatements then { w with executed := w.executed ++ [s] } else w

/-- The world after a prompt reached the model. -/
def ask (prompt : Text) (w : World) : World := { w with prompts := w.prompts ++ [prompt] }

/-! ## What each step leaves alone -/

@[simp] theorem now_report (l : List Event) (w : World) : (w.report l).now = w.now := rfl

@[simp] theorem directory_report (l : List Event) (w : World) :
    (w.report l).directory = w.directory := rfl

@[simp] theorem executed_report (l : List Event) (w : World) :
    (w.report l).executed = w.executed := rfl

@[simp] theorem prompts_report (l : List Event) (w : World) :
    (w.report l).prompts = w.prompts := rfl

@[simp] theorem now_wrote (written : Audit.Written) (w : World) :
    (w.wrote written).now = w.now := rfl

@[simp] theorem directory_wrote (written : Audit.Written) (w : World) :
    (w.wrote written).directory = written.directory := rfl

@[simp] theorem executed_wrote (written : Audit.Written) (w : World) :
    (w.wrote written).executed = w.executed := rfl

@[simp] theorem prompts_wrote (written : Audit.Written) (w : World) :
    (w.wrote written).prompts = w.prompts := rfl

@[simp] theorem now_reach (src : Source) (s : Text) (w : World) : (w.reach src s).now = w.now := by
  unfold reach
  split <;> rfl

@[simp] theorem directory_reach (src : Source) (s : Text) (w : World) :
    (w.reach src s).directory = w.directory := by
  unfold reach
  split <;> rfl

theorem executed_reach (src : Source) (s : Text) (w : World) :
    (w.reach src s).executed = w.executed ++ if src.keepsStatements then [s] else [] := by
  unfold reach
  split <;> simp

@[simp] theorem prompts_reach (src : Source) (s : Text) (w : World) :
    (w.reach src s).prompts = w.prompts := by
  unfold reach
  split <;> rfl

@[simp] theorem now_ask (prompt : Text) (w : World) : (w.ask prompt).now = w.now := rfl

@[simp] theorem directory_ask (prompt : Text) (w : World) :
    (w.ask prompt).directory = w.directory := rfl

@[simp] theorem executed_ask (prompt : Text) (w : World) :
    (w.ask prompt).executed = w.executed := rfl

@[simp] theorem prompts_ask (prompt : Text) (w : World) :
    (w.ask prompt).prompts = w.prompts ++ [prompt] := rfl

end World

end QueryGate
