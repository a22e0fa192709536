import QueryGate.Catalog

/-!
# The prompt

A question is put to the model in a prompt that also names the dialect, describes the schema,
lists the patterns of the columns that must not be used, and asks for a limit of rows.
-/

namespace QueryGate.Draft

open Text

/-- What stands in front of the question. -/
def questionMark : Text := "Natural Language Query:".toList

/-- What a prompt is made of. -/
structure PromptParts where
  question : Text
  schema : Text
  dbType : Text
  rowLimit : Int
  catalog : Catalog

/-- The rules that every prompt ends with. -/
def rules (dialect : Text) (rowLimit : Int) : List Text := [
  "1. Exclude Sensitive Data: Do NOT select or reference any of the blocked columns listed ".toList
    ++ "above, even if the user explicitly asks for them.".toList,
  "2. Prefix Columns in JOINs: When using a JOIN, ALWAYS prefix column names with the table name ".toList
    ++ "to prevent ambiguity.".toList,
  "3. Generate SQL Only: Return ONLY the raw SQL query, no explanations or markdown.".toList,
  "4. Use Correct Syntax: Use proper ".toList ++ dialect ++ " syntax.".toList,
  "5. Limit Results: For SELECT queries, limit results to ".toList ++ ofInt rowLimit
    ++ " rows if no limit is specified.".toList,
  "6. Safety First: Only SELECT queries are allowed. Never generate DROP, DELETE, UPDATE, INSERT ".toList
    ++ "or similar.".toList]

/-- The prompt for a question. -/
def prompt (p : PromptParts) : Text :=
  let dialect := toUpper p.dbType
  join ['\n'] ([
    "You are an expert SQL query generator. Convert the following natural language query into a ".toList
      ++ "valid ".toList ++ dialect ++ " SQL query.".toList,
    [],
    "Database Schema:".toList,
    p.schema,
    [],
    questionMark ++ ' ' :: p.question,
    [],
    "CRITICAL SECURITY INSTRUCTIONS:".toList,
    "**NEVER include these sensitive columns in your query:**".toList,
    join ", ".toList p.catalog.patterns,
    [],
    "These columns contain sensitive data and must NEVER be selected, filtered, or referenced in ".toList
      ++ "any way.".toList,
    [],
    "ADDITIONAL INSTRUCTIONS:".toList] ++ rules dialect p.rowLimit ++ [
    [],
    "SQL Query:".toList])

/-- The question in a prompt: the rest of the line behind the first mark, or the whole text if the
mark is missing. -/
def questionOf (s : Text) : Text :=
  match splitAtFirst? questionMark s with
  | some (_, rest) => rest.takeWhile (· ≠ '\n')
  | none => s

end QueryGate.Draft
