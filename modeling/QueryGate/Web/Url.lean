import QueryGate.Text.Utf8
import QueryGate.Text.WordClass

/-!
# Request targets

The target of a request is a path, and behind a question mark its parameters, joined by
ampersands.  Bytes may be written as a percent sign and two hexadecimal digits, and in parameters a
plus sign stands for a space.  What stands behind a number sign is not sent.

A target may be given as a whole address, of which scheme and host are dropped here.  Segments of
dots are resolved before the percent signs are, and those only once: what they stand for is not
looked at again.
-/

namespace QueryGate.Web

open Text

/-- The value of a hexadecimal digit. -/
def hexValue? (c : Char) : Option Nat :=
  if '0' ≤ c ∧ c ≤ '9' then some (c.toNat - '0'.toNat)
  else if 'a' ≤ c ∧ c ≤ 'f' then some (c.toNat - 'a'.toNat + 10)
  else if 'A' ≤ c ∧ c ≤ 'F' then some (c.toNat - 'A'.toNat + 10)
  else none

/-- The bytes of a text in which percent signs may introduce bytes; one that introduces none
stands for itself. -/
def percentBytes : Text → List UInt8
  | [] => []
  | '%' :: a :: b :: s =>
    match hexValue? a, hexValue? b with
    | some x, some y => UInt8.ofNat (16 * x + y) :: percentBytes s
    | _, _ => utf8Char '%' ++ percentBytes (a :: b :: s)
  | c :: s => utf8Char c ++ percentBytes s
termination_by structural s => s

/-- A text with its percent signs resolved. -/
def percentDecode (s : Text) : Text := readUtf8 (percentBytes s)

/-- A part of a parameter list with plus signs and percent signs resolved. -/
def decodePart (s : Text) : Text := percentDecode (s.map fun c => if c = '+' then ' ' else c)

/-- A parameter: name and value around the first equals sign; a missing value is empty. -/
def parameter (s : Text) : Text × Text :=
  (decodePart (s.takeWhile (· ≠ '=')), decodePart ((s.dropWhile (· ≠ '=')).drop 1))

/-- The parameters of a list. -/
def parameters (s : Text) : List (Text × Text) :=
  ((splitOn '&' s).filter (!·.isEmpty)).map parameter

/-- A control character of ASCII, which no address holds. -/
def isControl (c : Char) : Bool := decide (c.toNat < 0x20) || c.toNat == 0x7F

/-- A character that may stand in a scheme. -/
def isSchemeChar (c : Char) : Bool :=
  isAsciiDigit c || isAsciiLetter c || c == '+' || c == '.' || c == '-'

/-- The scheme at the start of an address, possibly empty, and what follows it. -/
def takeScheme (s : Text) : Text × Text :=
  let scheme := s.takeWhile isSchemeChar
  match s.dropWhile isSchemeChar with
  | ':' :: rest =>
    if scheme.isEmpty || scheme.head?.any isAsciiLetter then (scheme, rest) else ([], s)
  | _ => ([], s)

/-- The host at the start of an address without scheme, possibly empty, and what follows it. -/
def takeHost (s : Text) : Text × Text :=
  match s with
  | '/' :: '/' :: rest =>
    let inHost := fun c => c ≠ '/' && c ≠ '?'
    (rest.takeWhile inHost, rest.dropWhile inHost)
  | _ => ([], s)

/-- The segments of a path with those of dots resolved, given the segments in front, backwards. -/
def resolveDots (front : List Text) : List Text → List Text
  | [] => front.reverse
  | segment :: rest =>
    if segment = ".".toList then resolveDots front rest
    else if segment = "..".toList then
      resolveDots (if front = [[]] then front else front.drop 1) rest
    else resolveDots (segment :: front) rest

/-- A path with its segments of dots resolved. -/
def resolved (path : Text) : Text := join ['/'] (resolveDots [] (splitOn '/' path))

/-- What a request is for. -/
structure Target where
  path : Text
  parameters : List (Text × Text)
  deriving DecidableEq, Repr

namespace Target

/-- The target that a text names, if it is an address.  Without a host, any number of slashes may
stand in front of the path, but two of them announce a host. -/
def ofText? (s : Text) : Option Target :=
  let (scheme, behind) := takeScheme (s.takeWhile (· ≠ '#'))
  let (host, sent) := takeHost behind
  let given := sent.takeWhile (· ≠ '?')
  if s.any isControl || (scheme.isEmpty && host.isEmpty && (dropLead? "//".toList given).isSome) then
    none
  else
    let isWhole := !scheme.isEmpty && !host.isEmpty
    let path := resolved (if isWhole then given else '/' :: given.dropWhile (· = '/'))
    some ⟨percentDecode (if path.isEmpty then ['/'] else path),
      Web.parameters ((sent.dropWhile (· ≠ '?')).drop 1)⟩

/-- The value of a parameter; the last one of a name counts. -/
def parameter? (t : Target) (name : Text) : Option Text := t.parameters.reverse.lookup name

/-- A character of a path as it is reported: without tabs and line breaks, and with a percent sign
for what would end the path. -/
def shownChar (c : Char) : Text :=
  match c with
  | '?' => "%3F".toList
  | '#' => "%23".toList
  | '\\' => "%5C".toList
  | '\t' => []
  | '\n' => []
  | '\r' => []
  | c => [c]

/-- The path as it is reported. -/
def shownPath (t : Target) : Text := t.path.flatMap shownChar

end Target

end QueryGate.Web
