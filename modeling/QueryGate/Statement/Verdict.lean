import QueryGate.Denylist

/-!
# Judging a statement

A statement may run if it contains no shape of the denylist, begins with one of the allowed
read-only keywords, and contains no statement separator.  The three checks are made in this order
and the first that fails is the reason for the refusal.

The leading keyword is looked for in the trimmed, upper-cased statement and must be followed by a
blank.  The other two checks look at the raw text.
-/

namespace QueryGate

open Text

/-- Why a statement is refused. -/
inductive Rejection where
  /-- It contains a forbidden shape. -/
  | forbidden (rule : DenyRule)
  /-- It does not begin with one of the allowed kinds. -/
  | notAllowed (kinds : List Text)
  /-- It contains a statement separator. -/
  | severalStatements
  deriving DecidableEq, Repr

/-- The judgement of a statement. -/
inductive Verdict where
  | safe
  | rejected (r : Rejection)
  deriving DecidableEq, Repr

/-- What statements are judged by. -/
structure StatementRules where
  /-- The forbidden shapes, in the order in which they are tried. -/
  denylist : List DenyRule
  /-- The keywords that may begin a statement, in upper case. -/
  kinds : List Text
  deriving DecidableEq, Repr

namespace StatementRules

/-- The keywords that begin a statement which only reads. -/
def readOnlyKinds : List Text :=
  ["SELECT".toList, "SHOW".toList, "DESCRIBE".toList, "DESC".toList, "EXPLAIN".toList]

/-- Rules with the given denylist and kinds, the kinds in any case. -/
def make (denylist : List DenyRule) (kinds : List Text) : StatementRules :=
  ⟨denylist, kinds.map toUpper⟩

/-- The rules in force unless others are given. -/
def standard : StatementRules := make DenyRule.defaults readOnlyKinds

/-- The character between two statements. -/
def separator : Char := ';'

/-- Whether `s` begins with `kind` and a blank. -/
def beginsWithKind (s kind : Text) : Bool := ((dropLead? kind s).bind dropBlanks?).isSome

/-- Whether the statement is of one of the allowed kinds. -/
def allows (rules : StatementRules) (s : Text) : Bool :=
  rules.kinds.any (beginsWithKind (toUpper (trim s)))

/-- The judgement of a statement. -/
def judge (rules : StatementRules) (s : Text) : Verdict :=
  match rules.denylist.find? fun rule => rule.pattern.occurs s with
  | some rule => .rejected (.forbidden rule)
  | none =>
    if !rules.allows s then .rejected (.notAllowed rules.kinds)
    else if separator ∈ s then .rejected .severalStatements
    else .safe

end StatementRules

namespace Rejection

/-- Kinds in a sentence: commas between all but the last two, which are joined by "and".  An empty
list cannot be put into words. -/
def listKinds? : List Text → Option Text
  | [] => none
  | [kind] => some kind
  | kinds => some (join ", ".toList kinds.dropLast ++ " and ".toList ++ kinds.getLastD [])

/-- The reason in words; there is none when no kind is allowed at all. -/
def reason? : Rejection → Option Text
  | forbidden rule =>
    some ("Dangerous SQL pattern detected: ".toList ++ rule.description ++ " (/".toList ++
      rule.source ++ "/). Only read-only queries are allowed.".toList)
  | notAllowed kinds =>
    (listKinds? kinds).map fun listed => "Only ".toList ++ listed ++ " queries are allowed.".toList
  | severalStatements => some "Multiple SQL statements are not allowed.".toList

/-- The forbidden pattern or separator that was found. -/
def matched? : Rejection → Option Text
  | forbidden rule => some rule.source
  | notAllowed _ => none
  | severalStatements => some [StatementRules.separator]

end Rejection

end QueryGate
