import QueryGate.Logging.Call
import QueryGate.Text.Blank

/-!
# Log calls on a console

On a console a call takes one line, and more if its texts have line breaks.  The event, the logger
and the names of entries are shown as they are; so are texts without blanks, quotes and equals
signs, while other values are written so that they stay on the line.

The entries for a stack and for an exception stand on lines of their own below, and must be texts.
-/

namespace QueryGate.LogCall

open Text

/-- Whether a text with a character is quoted. -/
def isQuotedFor (c : Char) : Bool := [' ', '\t', '=', '\r', '\n', '"', '\''].any (· == c)

/-- The entries whose texts are never quoted. -/
def unquotedNames : List Text := ["event".toList, "logger".toList, "logger_name".toList]

/-- The text of an entry as far as it may break the line. -/
def shownText (entry : Text × Json) : Text :=
  let isUnquoted := unquotedNames.contains entry.1
  let value := match entry.2 with
    | .str s => if isUnquoted || !s.any isQuotedFor then s else []
    | _ => []
  if isUnquoted then value else entry.1 ++ '=' :: value

/-- The names of the entries that do not stand on the line of the call. -/
def belowNames : List Text := ["stack".toList, "exception".toList, "exc_info".toList]

/-- The text of an entry that stands below the line, if it is there; nothing else can be shown
there. -/
def below? (entries : OrderedMap Text Json) (name : String) : Option (Option Text) :=
  match entries.get? name.toList with
  | none => some none
  | some .null => some none
  | some (.str s) => some (some s)
  | _ => none

/-- The lines that the entries of a call take on a console, if they can be shown. -/
def consoleLines? (entries : OrderedMap Text Json) : Option Nat :=
  match below? entries "stack", below? entries "exception" with
  | some stack, some exception =>
    let line := (entries.entries.filter fun e => !belowNames.contains e.1).flatMap fun e =>
      shownText e ++ ['|']
    let hasTrace := exception.isSome
      || ((entries.get? "exc_info".toList).getD .null).isTruthy
    let stackPart := match stack with
      | some s => '\n' :: s ++ (if hasTrace then "\n\n=\n".toList else [])
      | none => []
    let exceptionPart := match exception with
      | some s => '\n' :: s
      | none => []
    some (lines (line ++ stackPart ++ exceptionPart ++ ['\n'])).length
  | _, _ => none

end QueryGate.LogCall
