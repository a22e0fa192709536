import QueryGate.Check.Issue
import QueryGate.Text.LetterCase
import QueryGate.Text.Blank

/-!
# Checking texts and numbers

A text must be given as a text.  A number may be given as a number, a truth value, or a text that
stands for one, with blanks around it.

A text is first read as a plain number.  If that fails, it is read once more without its
underscores, none of which may stand at an end or next to another.  For a whole number a plus
sign, zeros in front and a fraction of zeros are taken off as well; a minus sign may stand behind
zeros in front.
-/

namespace QueryGate.Check

open Text

/-- An ASCII digit. -/
def isDecimal (c : Char) : Bool := decide ('0' ≤ c) && decide (c ≤ '9')

/-- A blank that is ignored around a number; the ASCII separators are not. -/
def isIgnored (c : Char) : Bool :=
  isBlank c && !(decide (0x1C ≤ c.toNat) && decide (c.toNat ≤ 0x1F))

/-- A text without the ignored blanks at its ends. -/
def strip (s : Text) : Text := dropEndWhile isIgnored (s.dropWhile isIgnored)

/-- A text without its underscores: none of them may stand at an end or next to another. -/
def withoutUnderscores? (s : Text) : Option Text :=
  if s.head? = some '_' ∨ s.getLast? = some '_' ∨ contains ['_', '_'] s then none
  else some (s.filter (· ≠ '_'))

/-- The greatest length of the digits of a whole number with its minus sign. -/
def maxIntegerLength : Nat := 4300

/-- The bound of the whole numbers that a floating point number may be turned into. -/
def wholeBound : Nat := Nat.pow 2 63

/-- A number with a minus sign for a negative one, if it is whole and its digits do not begin with
a zero that could be left out.  Too many digits are refused before what follows them is read. -/
def plainInteger (s : Text) : Except IssueKind Int :=
  let negative := s.head? = some '-'
  let sign := if negative then 1 else 0
  let run := (s.drop sign).takeWhile isDecimal
  if s.drop sign = ['0'] then .ok 0
  else if run.isEmpty || run.head? = some '0' then .error .unreadableInteger
  else if maxIntegerLength < sign + run.length then .error .oversizedInteger
  else if sign + run.length < s.length then .error .unreadableInteger
  else
    let n : Int := Text.toNat run
    .ok (if negative then -n else n)

/-- What follows zeros and underscores, of which `last` is the last so far.  In front of a point,
and at the end, the last of them is kept. -/
def behindZeros? (last : Char) : Text → Option Text
  | [] => some [last]
  | c :: s =>
    if c = '0' ∨ c = '_' then behindZeros? c s
    else if c = '-' || isDecimal c then some (c :: s)
    else if c = '.' then some (last :: c :: s)
    else none

/-- A number without the zeros in front. -/
def dropZeros? : Text → Option Text
  | [] => none
  | c :: s =>
    if c = '0' then behindZeros? c s
    else if c = '-' || isDecimal c then some (c :: s)
    else none

/-- A number without a fraction that consists of zeros. -/
def dropZeroFraction (s : Text) : Text :=
  match s.dropWhile (· ≠ '.') with
  | _ :: zeros =>
    if !zeros.isEmpty && zeros.all (· = '0') then s.takeWhile (· ≠ '.') else s
  | [] => s

/-- A number without a plus sign, zeros in front, a fraction of zeros and underscores. -/
def cleanInteger? (s : Text) : Option Text :=
  let unsigned := fun (s : Text) =>
    ((dropZeros? s).map dropZeroFraction).bind withoutUnderscores?
  match s with
  | '+' :: '-' :: _ => none
  | '+' :: s => unsigned s
  | '-' :: s => (unsigned s).map ('-' :: ·)
  | s => unsigned s

/-- The whole number that a text stands for. -/
def integerOf (s : Text) : Except IssueKind Int :=
  let s := strip s
  match plainInteger s, cleanInteger? s with
  | .error .unreadableInteger, some cleaned => plainInteger cleaned
  | outcome, _ => outcome

/-- The sign in front of a number: whether it is negative, and the rest. -/
def takeSign : Text → Bool × Text
  | '-' :: s => (true, s)
  | '+' :: s => (false, s)
  | s => (false, s)

/-- The exponent at the end of a number: none, or a sign and digits behind `e`. -/
def exponent? : Text → Option Int
  | [] => some 0
  | c :: s =>
    if c = 'e' ∨ c = 'E' then
      let (negative, ds) := takeSign s
      if ds.isEmpty || !ds.all isDecimal then none
      else
        let n : Int := Text.toNat ds
        some (if negative then -n else n)
    else none

/-- The floating point number that a text writes out plainly. -/
def plainFloat? (s : Text) : Option Binary64 :=
  let (negative, rest) := takeSign s
  let word := rest.map asciiLower
  if word = "inf".toList ∨ word = "infinity".toList then some (.infinite negative)
  else if word = "nan".toList then some .nan
  else
    let whole := rest.takeWhile isDecimal
    let behind := rest.dropWhile isDecimal
    let (fraction, tail) := match behind with
      | '.' :: more => (more.takeWhile isDecimal, more.dropWhile isDecimal)
      | _ => ([], behind)
    if whole.isEmpty && fraction.isEmpty then none
    else (exponent? tail).map fun e =>
      .ofDecimal negative (Text.toNat (whole ++ fraction)) (e - fraction.length)

/-- The floating point number that a text stands for.  Blanks around a number with underscores are
not ignored. -/
def float? (s : Text) : Option Binary64 :=
  match plainFloat? (strip s) with
  | some x => some x
  | none => (withoutUnderscores? s).bind plainFloat?

/-- A text. -/
def text : Json → Except IssueKind Text
  | .str s => .ok s
  | _ => .error .notString

/-- A text of at least one character. -/
def someText (v : Json) : Except IssueKind Text := do
  let s ← text v
  if s.isEmpty then .error .emptyString else .ok s

/-- A text or null. -/
def optionalText : Json → Except IssueKind (Option Text)
  | .null => .ok none
  | v => (text v).map some

/-- A whole number. -/
def integer : Json → Except IssueKind Int
  | .int i => .ok i
  | .bool b => .ok (if b then 1 else 0)
  | .float (.finite negative m e) =>
    let (num, den) := Binary64.ratio m e
    if num % den ≠ 0 then .error .fractionalInteger
    else if wholeBound ≤ num / den then .error .oversizedInteger
    else
      let n : Int := (num / den : Nat)
      .ok (if negative then -n else n)
  | .float _ => .error .notFinite
  | .str s => integerOf s
  | _ => .error .notInteger

/-- A floating point number; a whole number must not be too large for one. -/
def number : Json → Except IssueKind Binary64
  | .int i =>
    match Binary64.ofInt i with
    | .finite negative m e => .ok (.finite negative m e)
    | _ => .error .notNumber
  | .bool b => .ok (.ofInt (if b then 1 else 0))
  | .float x => .ok x
  | .str s =>
    match float? s with
    | some x => .ok x
    | none => .error .unreadableNumber
  | _ => .error .notNumber

/-- A whole number not below a bound. -/
def integerAtLeast (bound : Nat) (v : Json) : Except IssueKind Int := do
  let i ← integer v
  if i < bound then .error (.notAtLeast bound) else .ok i

/-- A floating point number above zero. -/
def positive (v : Json) : Except IssueKind Binary64 := do
  let x ← number v
  if Binary64.lt .zero x then .ok x else .error (.notGreater 0)

end QueryGate.Check
