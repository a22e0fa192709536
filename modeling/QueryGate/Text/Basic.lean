/-!
# Texts

Statements, schemas, prompts and log lines are all texts: finite sequences of characters.  A text
is kept as the list of its characters, so that every function on it is a recursion on the list
and every statement about it is a statement about lists.

This module holds what needs no character property: testing for and removing a given beginning,
finding one text inside another, joining texts, decimal digits, and the order of texts.
-/

namespace QueryGate

/-- A finite sequence of characters. -/
abbrev Text := List Char

namespace Text

/-- A character of the ASCII range. -/
def isAscii (c : Char) : Bool := decide (c.toNat < 0x80)

/-- Membership in a list of ranges of code points, ends included. -/
def inRanges (ranges : List (Nat × Nat)) (c : Char) : Bool :=
  ranges.any fun r => decide (r.1 ≤ c.toNat) && decide (c.toNat ≤ r.2)

/-- What follows `lead` in a text that begins with it. -/
def dropLead? : Text → Text → Option Text
  | [], s => some s
  | _ :: _, [] => none
  | a :: lead, c :: s => if a = c then dropLead? lead s else none

/-- Whether a text begins with `lead`. -/
def beginsWith (lead s : Text) : Bool := (dropLead? lead s).isSome

/-- Whether a text ends with `tail`. -/
def endsWith (tail s : Text) : Bool := beginsWith tail.reverse s.reverse

/-- Whether `part` stands somewhere in a text. -/
def contains (part : Text) : Text → Bool
  | [] => part.isEmpty
  | c :: s => beginsWith part (c :: s) || contains part s

/-- The text before and the text after the first place where `mark` stands. -/
def splitAtFirst? (mark : Text) : Text → Option (Text × Text)
  | [] => if mark.isEmpty then some ([], []) else none
  | c :: s =>
    match dropLead? mark (c :: s) with
    | some rest => some ([], rest)
    | none => (splitAtFirst? mark s).map fun p => (c :: p.1, p.2)

/-- The pieces between the places where `sep` stands, one more than there are such places. -/
def splitOn (sep : Char) : Text → List Text
  | [] => [[]]
  | c :: s =>
    if c = sep then [] :: splitOn sep s
    else match splitOn sep s with
      | piece :: pieces => (c :: piece) :: pieces
      | [] => [[c]]

/-- The texts one after another, with `sep` between neighbours. -/
def join (sep : Text) : List Text → Text
  | [] => []
  | [t] => t
  | t :: ts => t ++ sep ++ join sep ts

/-- The decimal digits of a number. -/
def ofNat (n : Nat) : Text := Nat.toDigits 10 n

/-- The decimal digits of a number, with a minus sign in front of a negative one. -/
def ofInt : Int → Text
  | .ofNat n => ofNat n
  | .negSucc n => '-' :: ofNat (n + 1)

/-- The value of a run of ASCII digits. -/
def toNat (digits : Text) : Nat := digits.foldl (fun n c => 10 * n + (c.toNat - '0'.toNat)) 0

/-- A text made at least `width` long by zeros in front. -/
def padZeros (width : Nat) (s : Text) : Text := List.replicate (width - s.length) '0' ++ s

/-- Whether a text comes no later than another in the order of characters. -/
def le : Text → Text → Bool
  | [], _ => true
  | _ :: _, [] => false
  | a :: s, b :: t => if a = b then le s t else decide (a < b)

theorem dropLead?_append (lead s : Text) : dropLead? lead (lead ++ s) = some s := by
  induction lead with
  | nil => rfl
  | cons a lead ih => simp [dropLead?, ih]

theorem eq_append_of_dropLead? {lead s rest : Text} (h : dropLead? lead s = some rest) :
    s = lead ++ rest := by
  induction lead generalizing s with
  | nil => simpa [dropLead?] using h
  | cons a lead ih =>
    cases s with
    | nil => simp [dropLead?] at h
    | cons c s =>
      by_cases hc : a = c
      · simp only [dropLead?, hc, if_true] at h
        simp [hc, ih h]
      · simp [dropLead?, hc] at h

end Text

end QueryGate
