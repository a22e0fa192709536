import QueryGate.Source.Affinity

/-!
# Tokens of a statement

A database reads a statement as a series of tokens with white space and comments between them.
Each token is kept as it is written, with the gap in front of it, so that any part of a statement
can be shown again.  The last token is the end of the statement.

Words are made of letters, digits, underscores, dollar signs, and any characters beyond ASCII.
-/

namespace QueryGate.Source

open Text

/-- The kinds of tokens. -/
inductive TokenKind where
  /-- A name without quotes, or a keyword. -/
  | word
  /-- A name in quotes. -/
  | name (s : Text)
  /-- A name in double quotes, which stands for a text where there is nothing of that name. -/
  | nameOrText (s : Text)
  | text (s : Text)
  | number
  /-- A place for a value that is given along with the statement. -/
  | parameter
  | mark
  /-- What is no token. -/
  | illegal
  | ending
  deriving DecidableEq, Repr

/-- A token. -/
structure Token where
  /-- The white space and comments in front. -/
  gap : Text
  /-- The token as it is written. -/
  text : Text
  kind : TokenKind
  deriving DecidableEq, Repr

namespace Token

/-- White space between tokens; the mark of byte order is ignored as well. -/
def isGapChar (c : Char) : Bool :=
  c == ' ' || c == '\t' || c == '\n' || c == '\r' || c.toNat == 0x0C || c.toNat == 0xFEFF

/-- A character that a word begins with. -/
def beginsWord (c : Char) : Bool := isAsciiLetter c || c == '_' || !isAscii c

/-- A character of a word. -/
def isWordChar (c : Char) : Bool := beginsWord c || isAsciiDigit c || c == '$'

/-- A hexadecimal digit. -/
def isHexDigit (c : Char) : Bool :=
  isAsciiDigit c || (decide ('a' ≤ asciiLower c) && decide (asciiLower c ≤ 'f'))

/-- The number of characters up to the end of a comment in asterisks and slashes. -/
def commentLength : Text → Nat
  | [] => 0
  | '*' :: '/' :: _ => 2
  | _ :: s => commentLength s + 1

/-- The number of characters of the gap at the start of a text, up to `fuel` pieces of it. -/
def gapLength : Nat → Text → Nat
  | 0, _ => 0
  | fuel + 1, s =>
    match s with
    | '-' :: '-' :: rest =>
      let n := (rest.takeWhile (· ≠ '\n')).length + 2
      n + gapLength fuel (s.drop n)
    | '/' :: '*' :: c :: rest =>
      let n := commentLength (c :: rest) + 2
      n + gapLength fuel (s.drop n)
    | c :: _ => if isGapChar c then 1 + gapLength fuel (s.drop 1) else 0
    | [] => 0

/-- What stands in quotes up to the closing quote, where two quotes stand for one, and how many
characters that takes with the closing quote. -/
def quoted? (quote : Char) : Text → Option (Text × Nat)
  | [] => none
  | c :: s =>
    if c = quote then
      match s with
      | d :: rest =>
        if d = quote then (quoted? quote rest).map fun p => (quote :: p.1, p.2 + 2)
        else some ([], 1)
      | [] => some ([], 1)
    else (quoted? quote s).map fun p => (c :: p.1, p.2 + 1)

/-- The token in quotes at the start of a text: its kind and its length.  Without a closing quote it
is no token, and takes up everything. -/
def quotedToken (quote : Char) (kind : Text → TokenKind) (s : Text) : TokenKind × Nat :=
  match quoted? quote (s.drop 1) with
  | some (content, n) => (kind content, n + 1)
  | none => (.illegal, s.length)

/-- The length of the exponent at the start of a text; none is there without a digit. -/
def exponentLength (s : Text) : Nat :=
  match s with
  | c :: rest =>
    if c = 'e' ∨ c = 'E' then
      let sign := match rest with
        | d :: _ => if d = '+' ∨ d = '-' then 1 else 0
        | [] => 0
      let digits := ((rest.drop sign).takeWhile isAsciiDigit).length
      if digits = 0 then 0 else 1 + sign + digits
    else 0
  | [] => 0

/-- The length of the number at the start of a text, without what makes it no number. -/
def numberLength (s : Text) : Nat :=
  let whole := (s.takeWhile isAsciiDigit).length
  let fraction := match s.drop whole with
    | '.' :: rest => (rest.takeWhile isAsciiDigit).length + 1
    | _ => 0
  whole + fraction + exponentLength (s.drop (whole + fraction))

/-- The number at the start of a text: its kind and its length.  A number that runs into a word is no
token. -/
def numberToken (s : Text) : TokenKind × Nat :=
  let hex := match s with
    | '0' :: x :: rest => if asciiLower x = 'x' then (rest.takeWhile isHexDigit).length else 0
    | _ => 0
  let n := if 0 < hex then hex + 2 else numberLength s
  let more := ((s.drop n).takeWhile isWordChar).length
  (if more = 0 then .number else .illegal, n + more)

/-- The marks of more than one character, longer ones first. -/
def longMarks : List Text := [
  "->>".toList, "->".toList, "==".toList, "<=".toList, "<>".toList, "<<".toList, ">=".toList,
  ">>".toList, "!=".toList, "||".toList]

/-- The marks of one character. -/
def marks : Text := "()+-*/%=<>|,&~;.".toList

/-- The token at the start of a text that does not begin with a gap: its kind and its length. -/
def first (s : Text) : TokenKind × Nat :=
  match s with
  | [] => (.ending, 0)
  | '`' :: _ => quotedToken '`' .name s
  | '"' :: _ => quotedToken '"' .nameOrText s
  | '\'' :: _ => quotedToken '\'' .text s
  | '[' :: rest =>
    match rest.dropWhile (· ≠ ']') with
    -- a bracket that is not closed takes the rest
    | [] => (.illegal, s.length)
    | _ =>
      let content := rest.takeWhile (· ≠ ']')
      (.name content, content.length + 2)
  | c :: rest =>
    if isAsciiDigit c || (c == '.' && rest.head?.any isAsciiDigit) then numberToken s
    else if beginsWord c then (.word, (s.takeWhile isWordChar).length)
    else if c = '?' then (.parameter, (rest.takeWhile isAsciiDigit).length + 1)
    else if ['$', '@', ':', '#'].contains c && rest.head?.any isWordChar then
      (.parameter, (rest.takeWhile isWordChar).length + 1)
    else
      match longMarks.find? fun m => beginsWith m s with
      | some m => (.mark, m.length)
      | none => (if marks.any (· == c) then .mark else .illegal, 1)

/-- The tokens of a text; `fuel` bounds their number and the pieces of the gaps between them. -/
def allFrom : Nat → Text → List Token
  | 0, _ => []
  | fuel + 1, s =>
    let n := gapLength fuel s
    let rest := s.drop n
    let (kind, length) := first rest
    ⟨s.take n, rest.take length, kind⟩ ::
      if kind = .ending then [] else allFrom fuel (rest.drop length)

/-- The tokens of a statement, the last of them being its end. -/
def all (s : Text) : List Token := allFrom (s.length + 1) s

/-- Whether a token is a word, in any letter case. -/
def isWord (word : String) (t : Token) : Bool :=
  t.kind == .word && sameName t.text word.toList

/-- Whether a token is one of some words, in any letter case. -/
def isOneOf (words : List String) (t : Token) : Bool := words.any t.isWord

/-- Whether a token is a mark. -/
def isMark (mark : String) (t : Token) : Bool := t.kind == .mark && t.text == mark.toList

/-- Some tokens as they are written, without the gap in front of the first. -/
def written : List Token → Text
  | [] => []
  | t :: rest => t.text ++ rest.flatMap fun u => u.gap ++ u.text

end Token

end QueryGate.Source
