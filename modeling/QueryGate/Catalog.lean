import QueryGate.OrderedMap
import QueryGate.Text.Blank
import QueryGate.Text.LetterCase

/-!
# The catalog of sensitive columns

A catalog lists patterns of column names by category, together with expressions that may be shown
in place of some columns.  A column is *sensitive* if its lower-case name contains a pattern.
Patterns and the columns of the safe alternatives are kept in lower case.
-/

namespace QueryGate

open Text

/-- Patterns of sensitive column names, and what to show instead. -/
structure Catalog where
  /-- The patterns of each category, in order. -/
  categories : OrderedMap Text (List Text)
  /-- For some columns, an expression that reveals none of their values. -/
  safeAlternatives : OrderedMap Text Text
  version : Text
  deriving DecidableEq, Repr

namespace Catalog

/-- The version of a catalog that names none. -/
def defaultVersion : Text := "2024.1".toList

/-- The expression shown when a column has no alternative of its own. -/
def genericAlternative : Text := "COUNT(*) AS record_count".toList

/-- The catalog with the given patterns and alternatives, brought to lower case. -/
def make (categories : OrderedMap Text (List Text)) (safeAlternatives : OrderedMap Text Text)
    (version : Text) : Catalog where
  categories := categories.mapValues fun patterns => patterns.map toLower
  safeAlternatives := safeAlternatives.mapKeys toLower
  version := version

/-- A list without later repetitions. -/
def distinct : List Text → List Text
  | [] => []
  | p :: ps => p :: (distinct ps).filter (· != p)

/-- All patterns in order, each once. -/
def patterns (c : Catalog) : List Text := distinct (c.categories.entries.flatMap (·.2))

/-- The first pattern that the name of a column contains. -/
def matchingPattern? (c : Catalog) (column : Text) : Option Text :=
  c.patterns.find? fun pattern => contains pattern (toLower column)

/-- Whether a column must not be shown. -/
def isSensitive (c : Catalog) (column : Text) : Bool := (c.matchingPattern? column).isSome

/-- The first category with a pattern that the name of a column contains. -/
def categoryOf? (c : Catalog) (column : Text) : Option Text :=
  (c.categories.entries.find? fun e =>
    e.2.any fun pattern => contains pattern (toLower column)).map (·.1)

/-- The expression listed for a column, in any letter case. -/
def safeAlternative? (c : Catalog) (column : Text) : Option Text :=
  c.safeAlternatives.get? (toLower column)

/-- The categories in force unless others are given. -/
def defaultCategories : List (String × List String) := [
  ("credentials",
    ["password", "password_hash", "hashed_password", "pwd", "passwd", "user_password"]),
  ("payment",
    ["credit_card", "card_number", "cvv", "card_cvv", "expiry", "card_expiry", "account_number",
      "routing_number", "bank_account"]),
  ("pii", ["ssn", "social_security", "social_security_number"]),
  ("secrets", ["api_key", "secret_key", "private_key", "encryption_key"]),
  ("tokens", ["token", "access_token", "refresh_token", "auth_token"])]

/-- The alternatives in force unless others are given. -/
def defaultAlternatives : List (String × String) := [
  ("password", "COUNT(*) as users_with_password"),
  ("password_hash", "COUNT(*) as users_count"),
  ("hashed_password", "COUNT(*) as users_count"),
  ("credit_card", "COUNT(DISTINCT LEFT(credit_card, 4)) as card_types_count"),
  ("card_number", "COUNT(*) as cards_count"),
  ("cvv", "COUNT(*) as records_with_cvv"),
  ("ssn", "COUNT(*) as records_with_ssn"),
  ("social_security", "COUNT(*) as records_with_ssn"),
  ("api_key", "COUNT(*) as active_api_keys"),
  ("secret_key", "COUNT(*) as secret_keys_count"),
  ("token", "COUNT(*) as active_tokens")]

/-- The catalog in force unless another is given. -/
def standard : Catalog :=
  make (.ofList (defaultCategories.map fun e => (e.1.toList, e.2.map String.toList)))
    (.ofList (defaultAlternatives.map fun e => (e.1.toList, e.2.toList))) defaultVersion

end Catalog

end QueryGate
