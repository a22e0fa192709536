import QueryGate.Logging.Console
import QueryGate.Text.LetterCase

/-!
# Log output

Log calls are shown from a threshold on, as JSON objects or on a console.  The threshold is a
level name in any letter case.  Loggers of chatty libraries show nothing below a warning, and
whatever else they show does not depend on the threshold.

A call of the gate that cannot be logged fails, whether it would be shown or not; a call of other
code is passed over.
-/

namespace QueryGate

open Text

/-- How log calls are shown. -/
structure Logging where
  /-- The least rank shown. -/
  threshold : Nat
  /-- Whether calls are shown as JSON objects. -/
  json : Bool
  deriving DecidableEq, Repr

/-- What a program may do with its log. -/
inductive LogStep where
  /-- Adds to the context of all later calls. -/
  | bind (context : List (Text × Json))
  /-- Empties the context. -/
  | clear
  | call (c : LogCall)

/-- What is shown of a call. -/
inductive LogOutput where
  | record (r : Json)
  /-- Lines on a console. -/
  | lines (n : Nat)

/-- Why a name stands for no threshold. -/
inductive ThresholdFault where
  | unknown
  /-- The name stands for a text that names no level. -/
  | otherText
  /-- The name stands for something that cannot be a level. -/
  | noLevel
  deriving DecidableEq, Repr

namespace Logging

/-- The names of thresholds. -/
def thresholds : List (String × Nat) := [
  ("NOTSET", 0),
  ("DEBUG", 10),
  ("INFO", 20),
  ("WARN", 30),
  ("WARNING", 30),
  ("ERROR", 40),
  ("FATAL", 50),
  ("CRITICAL", 50)]

/-- The threshold that a name in any letter case stands for.  Two names beside those of thresholds
stand for the form of a line, which is a text, and for the table of such forms. -/
def thresholdOf (name : Text) : Except ThresholdFault Nat :=
  match thresholds.find? fun t => t.1.toList == toUpper name with
  | some t => .ok t.2
  | none =>
    if toUpper name = "BASIC_FORMAT".toList then .error .otherText
    else if toUpper name = "_STYLES".toList then .error .noLevel
    else .error .unknown

/-- The setting for a level and a format, each taken from the environment if it is not given. -/
def make (env : List (Text × Text)) (level : Option Text) (json : Option Bool) :
    Except ThresholdFault Logging :=
  let value (name : String) : Text := (env.lookup name.toList).getD []
  let name := match level with
    | some (c :: rest) => c :: rest
    | _ => (env.lookup "LOG_LEVEL".toList).getD "INFO".toList
  let asJson := toLower (value "LOG_FORMAT") == "json".toList
    || value "ENVIRONMENT" == "production".toList
  (thresholdOf name).map fun t => ⟨t, json.getD asJson⟩

/-- Loggers with a threshold of their own, which is that of warnings. -/
def quietLoggers : List Text := ["uvicorn.access".toList, "httpx".toList]

/-- Whether a logger is quiet: one of the quiet ones, or below one of them. -/
def isQuiet (logger : Text) : Bool :=
  quietLoggers.any fun q => logger == q || beginsWith (q ++ ['.']) logger

/-- Whether calls of a logger at a level are shown. -/
def shows (l : Logging) (logger : Text) (level : LogLevel) : Bool :=
  decide ((if isQuiet logger then LogLevel.warning.rank else l.threshold) ≤ level.rank)

/-- The record of some entries.  Whether an exception is at hand is not recorded. -/
def record (entries : OrderedMap Text Json) : Json :=
  .obj (entries.entries.filter fun e => e.1 != "exc_info".toList)

/-- What is shown of some entries, if they can be shown. -/
def show? (l : Logging) (entries : OrderedMap Text Json) : Option LogOutput :=
  if l.json then some (.record (record entries))
  else (LogCall.consoleLines? entries).map .lines

/-- What is shown of a call. -/
def outputOf (l : Logging) (context : List (Text × Json)) (c : LogCall) :
    Except LogFault (Option LogOutput) :=
  match LogLevel.ofText? c.level with
  | none => .error .noLevel
  | some level =>
    match c.entries context level with
    | .ok entries => .ok (if l.shows c.logger level then l.show? entries else none)
    | .error fault => if c.plain then .ok none else .error fault

/-- What is shown for some steps, given the context before them. -/
def output (l : Logging) (context : List (Text × Json)) :
    List LogStep → Except LogFault (List LogOutput)
  | [] => .ok []
  | .bind more :: rest => l.output (context ++ more) rest
  | .clear :: rest => l.output [] rest
  | .call c :: rest => do
    let here ← l.outputOf context c
    let more ← l.output context rest
    return here.toList ++ more

end Logging

/-- The records of some output. -/
def LogOutput.records (l : List LogOutput) : List Json :=
  l.filterMap fun
    | .record r => some r
    | .lines _ => none

/-- The number of lines of some output; a record takes one. -/
def LogOutput.lineCount (l : List LogOutput) : Nat :=
  l.foldl (fun n o => n + match o with
    | .record _ => 1
    | .lines k => k) 0

end QueryGate
