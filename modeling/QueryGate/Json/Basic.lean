import QueryGate.Number.Binary64
import QueryGate.OrderedMap
import QueryGate.Text.Basic

/-!
# JSON values

The values that audit lines, catalog files and request bodies are made of.  Whole numbers and
floating point numbers are kept apart, whole numbers have any size, and the members of an object
keep their order.

A string is nearly always a text.  Since escapes in JSON name UTF-16 units, a string may also hold
a unit of a pair without its partner, and is then no text.
-/

namespace QueryGate

/-- A string of a JSON value. -/
inductive JsonString where
  | text (s : Text)
  /-- UTF-16 units that are no text, because one of them lacks its partner. -/
  | broken (units : List UInt16)
  deriving DecidableEq, Repr

namespace JsonString

/-- Whether the string is a text. -/
def isText : JsonString → Bool
  | text _ => true
  | broken _ => false

/-- The text that the string is, if it is one. -/
def text? : JsonString → Option Text
  | text s => some s
  | broken _ => none

/-- Whether nothing stands in the string. -/
def isEmpty : JsonString → Bool
  | text s => s.isEmpty
  | broken units => units.isEmpty

/-- The character that stands for a unit without its partner. -/
def replacement : Char := Char.ofNat 0xFFFD

/-- The text that UTF-16 units stand for. -/
def readUnits : List UInt16 → Text
  | [] => []
  | [a] => [if 0xD800 ≤ a.toNat ∧ a.toNat < 0xE000 then replacement else Char.ofNat a.toNat]
  | a :: b :: rest =>
    let m := a.toNat
    let n := b.toNat
    if 0xD800 ≤ m ∧ m < 0xDC00 ∧ 0xDC00 ≤ n ∧ n < 0xE000 then
      Char.ofNat (0x10000 + (m - 0xD800) * 0x400 + (n - 0xDC00)) :: readUnits rest
    else if 0xD800 ≤ m ∧ m < 0xE000 then replacement :: readUnits (b :: rest)
    else Char.ofNat m :: readUnits (b :: rest)

/-- The string as a text in which units without their partners are replaced. -/
def shown : JsonString → Text
  | text s => s
  | broken units => readUnits units

end JsonString

/-- A JSON value. -/
inductive Json where
  | null
  | bool (b : Bool)
  | int (i : Int)
  | float (x : Binary64)
  | string (s : JsonString)
  | arr (items : List Json)
  /-- The members of an object in order. -/
  | members (l : List (JsonString × Json))
  deriving Repr, BEq

namespace Json

instance : Inhabited Json := ⟨null⟩

/-- A text value. -/
@[match_pattern] def str (s : Text) : Json := string (.text s)

/-- An object whose members are named by texts. -/
def obj (l : List (Text × Json)) : Json := members (l.map fun m => (.text m.1, m.2))

/-- An object whose member names are literals. -/
def object (l : List (String × Json)) : Json := obj (l.map fun m => (m.1.toList, m.2))

/-- A text value, or null for a missing one. -/
def ofText? : Option Text → Json
  | some s => str s
  | none => null

/-- A list of texts. -/
def ofTexts (l : List Text) : Json := arr (l.map str)

/-- A whole number that is not negative. -/
def ofNat (n : Nat) : Json := int n

/-- The members that are named by texts. -/
def textMembers (l : List (JsonString × Json)) : List (Text × Json) :=
  l.filterMap fun m => m.1.text?.map (·, m.2)

/-- The value of the last member of a name. -/
def lastMember? (name : Text) (l : List (JsonString × Json)) : Option Json :=
  l.reverse.lookup (.text name)

/-- The member of an object with a given name. -/
def member? (name : Text) : Json → Option Json
  | members l => lastMember? name l
  | _ => none

/-- Whether a value counts as given: not null, false, zero, or empty. -/
def isTruthy : Json → Bool
  | null => false
  | bool b => b
  | int i => i != 0
  | float (.finite _ m _) => m != 0
  | float _ => true
  | string s => !s.isEmpty
  | arr items => !items.isEmpty
  | members l => !l.isEmpty

mutual

/-- Whether a value can be written so that every reader accepts it: each number in it is finite,
and each string is a text. -/
def isPortable : Json → Bool
  | float (.finite ..) => true
  | float _ => false
  | string s => s.isText
  | arr items => arePortable items
  | members l => membersPortable l
  | _ => true

/-- Whether each value of a list can be written so that every reader accepts it. -/
def arePortable : List Json → Bool
  | [] => true
  | v :: rest => isPortable v && arePortable rest

/-- Whether the name and value of each member can be written so that every reader accepts them. -/
def membersPortable : List (JsonString × Json) → Bool
  | [] => true
  | (k, v) :: rest => k.isText && isPortable v && membersPortable rest

end

mutual

/-- A value with null in place of each number that is not finite. -/
def withFinite : Json → Json
  | float (.finite negative m e) => float (.finite negative m e)
  | float _ => null
  | arr items => arr (itemsWithFinite items)
  | members l => members (membersWithFinite l)
  | v => v

/-- Values with null in place of each number that is not finite. -/
def itemsWithFinite : List Json → List Json
  | [] => []
  | v :: rest => withFinite v :: itemsWithFinite rest

/-- Members with null in place of each number that is not finite. -/
def membersWithFinite : List (JsonString × Json) → List (JsonString × Json)
  | [] => []
  | (k, v) :: rest => (k, withFinite v) :: membersWithFinite rest

end

end Json

end QueryGate
