import QueryGate.Pattern

/-!
# The denylist

Shapes of text that no statement may contain, wherever they stand: commands that change data,
structure or rights, calls of stored code, stacked statements, comments, and unions.  The rules
are tried in order against the raw text, so what hides in a comment or a string is seen too.
-/

namespace QueryGate

open Pattern

/-- A forbidden shape and the name of the danger. -/
structure DenyRule where
  pattern : Pattern
  description : Text
  deriving DecidableEq, Repr

namespace DenyRule

/-- The rule's pattern in regular expression notation. -/
def source (r : DenyRule) : Text := r.pattern.source

/-- A blank run that must not be empty. -/
def gap : Pattern := run1 .blank

/-- A keyword given by its letters. -/
def word (s : String) : Pattern := keyword s.toList

/-- The kinds of object that a definition statement creates or drops. -/
def definedObject : Pattern :=
  oneOf "TABLE".toList
    ["DATABASE".toList, "SCHEMA".toList, "INDEX".toList, "VIEW".toList]

/-- The rules in the order in which they are tried. -/
def defaults : List DenyRule := [
  ⟨all [boundary, word "DROP", gap, definedObject, boundary], "DROP operation".toList⟩,
  ⟨all [boundary, word "TRUNCATE", gap, word "TABLE", boundary], "TRUNCATE operation".toList⟩,
  ⟨all [boundary, word "ALTER", gap, word "TABLE", boundary], "ALTER operation".toList⟩,
  ⟨all [boundary, word "CREATE", gap, definedObject, boundary], "CREATE operation".toList⟩,
  ⟨all [boundary, word "GRANT", gap], "GRANT statement".toList⟩,
  ⟨all [boundary, word "REVOKE", gap], "REVOKE statement".toList⟩,
  ⟨all [boundary, word "EXEC", opt (word "UTE"), alt gap (seq (run .blank) (word "("))],
    "Dynamic SQL execution".toList⟩,
  ⟨all [boundary, word "UNION", gap, run .any, word "SELECT"],
    "UNION SELECT (potential injection)".toList⟩,
  ⟨all [word ";", run .blank, word "DROP"], "Stacked DROP (potential injection)".toList⟩,
  ⟨all [word ";", run .blank, word "DELETE"], "Stacked DELETE (potential injection)".toList⟩,
  ⟨word "--", "SQL line comment (potential injection)".toList⟩,
  ⟨word "/*", "SQL block comment (potential injection)".toList⟩,
  ⟨word "xp_cmdshell", "SQL Server command execution".toList⟩,
  ⟨word "sp_executesql", "Dynamic SQL procedure".toList⟩]

end DenyRule

end QueryGate
