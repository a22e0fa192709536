import QueryGate.Event
import QueryGate.Json.Basic

/-!
# Log calls

A call logs an event with fields, from the gate or from code that gives a text alone.  Its entries
are those of the context, then its fields, and then what every call has; the later of them win.

Some names are the log's own.  A few of them tell how the event is to be logged and are no entries
themselves, and a few cannot be given at all.
-/

namespace QueryGate

open Text

/-- The rank of a level: the higher, the more severe. -/
def LogLevel.rank : LogLevel → Nat
  | debug => 10
  | info => 20
  | warning => 30
  | error => 40
  | exception => 40
  | critical => 50

/-- The level as records name it; an error is an error, whatever is at hand. -/
def LogLevel.severity : LogLevel → Text
  | exception => error.text
  | level => level.text

/-- The level that a text names; two of them have a second name. -/
def LogLevel.ofText? (s : Text) : Option LogLevel :=
  if s = "warn".toList then some warning
  else if s = "fatal".toList then some critical
  else [debug, info, warning, error, exception, critical].find? fun level => level.text == s

/-- A call that logs something. -/
structure LogCall where
  logger : Text
  /-- The name of the level. -/
  level : Text
  event : Text
  fields : List (Text × Json)
  /-- Whether the call comes from code that gives a text alone. -/
  plain : Bool

/-- What keeps a call from being logged. -/
inductive LogFault where
  /-- There is no level of that name. -/
  | noLevel
  /-- A field has a name that belongs to the call. -/
  | takenName
  /-- The record that is said to be behind the call has no name. -/
  | namelessRecord
  /-- The values to be put into the event do not fit it. -/
  | unfitValues
  /-- There is one value to be put into the event, and it is not the first but has a name. -/
  | namedValue
  deriving DecidableEq, Repr

namespace LogCall

/-- The names that belong to a call, so that none of its fields can have them. -/
def takenNames : List Text := ["self".toList, "event".toList, "method_name".toList]

/-- The names that never appear in what is logged. -/
def hiddenNames : List Text := [
  "_record".toList, "_from_structlog".toList, "stack_info".toList]

/-- The entries that are given with a call.  That an error comes with its exception is taken for
granted unless a field says otherwise. -/
def given (context : List (Text × Json)) (level : LogLevel) (c : LogCall) :
    OrderedMap Text Json :=
  let trace := if level = .exception then [("exc_info".toList, Json.bool true)] else []
  .ofList (context ++ trace ++ c.fields)

/-- What is wrong with the values to be put into an event that has no places for them: a list of
them is left alone, and so is a collection of several with names. -/
def valuesFault? : Json → Option LogFault
  | .members [_] => some .namedValue
  | .members _ => none
  | .arr _ => none
  | v => if v.isTruthy then some .unfitValues else none

/-- What keeps a call with some entries from being logged. -/
def fault? (entries : OrderedMap Text Json) (c : LogCall) : Option LogFault :=
  if !c.plain && c.fields.any fun f => takenNames.contains f.1 then some .takenName
  else if !c.plain && ((entries.get? "_record".toList).getD .null) != .null then
    some .namelessRecord
  else if c.event.any (· == '%') then none
  else (entries.get? "positional_args".toList).bind valuesFault?

/-- Whether an entry is shown.  The values to be put into the event are shown only if they are
null. -/
def isShown (entry : Text × Json) : Bool :=
  !hiddenNames.contains entry.1 && (entry.1 != "positional_args".toList || entry.2 == .null)

/-- The name under which a logger's records are shown. -/
def loggerName (logger : Text) : Text := if logger.isEmpty then "root".toList else logger

/-- The entries of a call at a level. -/
def entries (context : List (Text × Json)) (level : LogLevel) (c : LogCall) :
    Except LogFault (OrderedMap Text Json) :=
  let given := c.given context level
  match c.fault? given with
  | some fault => .error fault
  | none => .ok (.ofList (given.entries.filter isShown ++ [
      ("event".toList, .str c.event),
      ("level".toList, .str level.severity),
      ("logger".toList, .str (loggerName c.logger)),
      ("timestamp".toList, .bool true)]))

end LogCall

end QueryGate
