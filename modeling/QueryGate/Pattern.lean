import QueryGate.Text.Blank
import QueryGate.Text.LetterCase

/-!
# Patterns

A small language of text patterns: keywords without regard to letter case, runs of blanks,
digits or any characters, word boundaries, sequence, choice and option.

A *place* is a position in a text, given by the character before it and the text from it on.
`Pattern.ends p a` lists the places where a match of `p` from `a` may end, in order of preference:
a choice prefers its first branch, an option prefers to be taken, and a run prefers to be long.
`Pattern.firstEnd?` is the first of them, found without building the list (`firstEnd?_eq_head?`),
and `Pattern.occurs` searches a whole text.

`Pattern.source` writes a pattern in the usual notation of regular expressions.
-/

namespace QueryGate

open Text

/-- A class of characters that a run is made of. -/
inductive CharClass where
  | blank
  | digit
  | any
  deriving DecidableEq, Repr

namespace CharClass

/-- Whether a character belongs to the class. -/
def has : CharClass → Char → Bool
  | blank, c => isBlank c
  | digit, c => isDigit c
  | any, _ => true

/-- The class in regular expression notation. -/
def source : CharClass → Text
  | blank => "\\s".toList
  | digit => "\\d".toList
  | any => ".".toList

end CharClass

/-- Patterns of text. -/
inductive Pattern where
  /-- The given characters, letters in any case. -/
  | keyword (word : Text)
  /-- A run of characters of one class, possibly empty. -/
  | run (k : CharClass)
  /-- A run of at least one character of one class. -/
  | run1 (k : CharClass)
  /-- The beginning or end of a word. -/
  | boundary
  /-- One pattern and then another. -/
  | seq (p q : Pattern)
  /-- One pattern or else another. -/
  | alt (p q : Pattern)
  /-- A pattern or else nothing. -/
  | opt (p : Pattern)
  deriving DecidableEq, Repr

/-- A position in a text: the character before it and the text from it on. -/
structure Place where
  before : Option Char
  rest : Text
  deriving DecidableEq, Repr

namespace Place

/-- The position at the start of a text. -/
def start (s : Text) : Place := ⟨none, s⟩

/-- The place behind a keyword that stands at this place. -/
def keyword? : Text → Place → Option Place
  | [], a => some a
  | _ :: _, ⟨_, []⟩ => none
  | x :: word, ⟨_, c :: s⟩ => if isFormOf x c then keyword? word ⟨some c, s⟩ else none

/-- The places that a run of the class may reach, the farthest first. -/
def runEnds (k : CharClass) (before : Option Char) : Text → List Place
  | [] => [⟨before, []⟩]
  | c :: s =>
    if k.has c then runEnds k (some c) s ++ [⟨before, c :: s⟩] else [⟨before, c :: s⟩]

/-- The first answer that `next` gives at one of the places of `runEnds`. -/
def tryRun {α : Type} (k : CharClass) (next : Place → Option α) (before : Option Char) :
    Text → Option α
  | [] => next ⟨before, []⟩
  | c :: s =>
    if k.has c then (tryRun k next (some c) s).orElse fun _ => next ⟨before, c :: s⟩
    else next ⟨before, c :: s⟩

theorem tryRun_eq_findSome? {α : Type} (k : CharClass) (next : Place → Option α)
    (before : Option Char) (s : Text) :
    tryRun k next before s = (runEnds k before s).findSome? next := by
  induction s generalizing before with
  | nil => simp [tryRun, runEnds]
  | cons c s ih =>
    by_cases h : k.has c
    · simp only [tryRun, runEnds, h, if_true, ih, List.findSome?_append]
      cases (runEnds k (some c) s).findSome? next <;> simp
    · simp [tryRun, runEnds, h]

/-- Whether a word begins or ends at this place. -/
def atBoundary (a : Place) : Bool := isBoundary a.before a.rest.head?

end Place

namespace Pattern

/-- The places where a match from a given place may end, in order of preference. -/
def ends : Pattern → Place → List Place
  | keyword word, a => (a.keyword? word).toList
  | run k, a => Place.runEnds k a.before a.rest
  | run1 k, ⟨_, c :: s⟩ => if k.has c then Place.runEnds k (some c) s else []
  | run1 _, ⟨_, []⟩ => []
  | boundary, a => if a.atBoundary then [a] else []
  | seq p q, a => (ends p a).flatMap (ends q)
  | alt p q, a => ends p a ++ ends q a
  | opt p, a => ends p a ++ [a]

/-- The first answer that `next` gives at one of the places of `ends`. -/
def tryEnds {α : Type} : Pattern → (Place → Option α) → Place → Option α
  | keyword word, next, a =>
    match a.keyword? word with
    | some b => next b
    | none => none
  | run k, next, a => Place.tryRun k next a.before a.rest
  | run1 k, next, ⟨_, c :: s⟩ => if k.has c then Place.tryRun k next (some c) s else none
  | run1 _, _, ⟨_, []⟩ => none
  | boundary, next, a => if a.atBoundary then next a else none
  | seq p q, next, a => tryEnds p (tryEnds q next) a
  | alt p q, next, a => (tryEnds p next a).orElse fun _ => tryEnds q next a
  | opt p, next, a => (tryEnds p next a).orElse fun _ => next a

theorem findSome?_flatMap {α β γ : Type} (l : List α) (f : α → List β) (g : β → Option γ) :
    (l.flatMap f).findSome? g = l.findSome? fun x => (f x).findSome? g := by
  induction l with
  | nil => rfl
  | cons x l ih =>
    simp only [List.flatMap_cons, List.findSome?_append, List.findSome?_cons, ih]
    cases (f x).findSome? g <;> simp

theorem tryEnds_eq_findSome? {α : Type} (p : Pattern) (next : Place → Option α) (a : Place) :
    tryEnds p next a = (ends p a).findSome? next := by
  induction p generalizing next a with
  | keyword word => simp only [tryEnds, ends]; cases a.keyword? word <;> simp
  | run k => exact Place.tryRun_eq_findSome? k next a.before a.rest
  | run1 k =>
    obtain ⟨before, _ | ⟨c, s⟩⟩ := a
    · simp [tryEnds, ends]
    · by_cases h : k.has c <;> simp [tryEnds, ends, h, Place.tryRun_eq_findSome?]
  | boundary => by_cases h : a.atBoundary <;> simp [tryEnds, ends, h]
  | seq p q ihp ihq =>
    simp only [tryEnds, ends, ihp, findSome?_flatMap]
    congr 1
    funext b
    exact ihq next b
  | alt p q ihp ihq =>
    simp only [tryEnds, ends, ihp, ihq, List.findSome?_append]
    cases (ends p a).findSome? next <;> simp
  | opt p ihp =>
    simp only [tryEnds, ends, ihp, List.findSome?_append]
    cases (ends p a).findSome? next <;> simp

/-- The preferred end of a match from a place. -/
def firstEnd? (p : Pattern) (a : Place) : Option Place := tryEnds p some a

theorem firstEnd?_eq_head? (p : Pattern) (a : Place) : p.firstEnd? a = (p.ends a).head? := by
  rw [firstEnd?, tryEnds_eq_findSome?]
  cases p.ends a <;> simp

/-- Whether a match of the pattern begins somewhere from a place on. -/
def occursFrom (p : Pattern) (before : Option Char) : Text → Bool
  | [] => (p.firstEnd? ⟨before, []⟩).isSome
  | c :: s => (p.firstEnd? ⟨before, c :: s⟩).isSome || occursFrom p (some c) s

/-- Whether the pattern matches somewhere in a text. -/
def occurs (p : Pattern) (s : Text) : Bool := occursFrom p none s

/-- The sequence of a list of patterns. -/
def all : List Pattern → Pattern
  | [] => keyword []
  | [p] => p
  | p :: ps => seq p (all ps)

/-- The choice among a first keyword and further ones. -/
def oneOf (word : Text) : List Text → Pattern
  | [] => keyword word
  | next :: words => alt (keyword word) (oneOf next words)

/-- A character of a keyword in regular expression notation. -/
def escape (c : Char) : Text := if "*()\x7b\x7d[].?+|^$\\".toList.contains c then ['\\', c] else [c]

/-- The pattern in regular expression notation; `bare` says that no group is needed around a
choice here. -/
def sourceIn (bare : Bool) : Pattern → Text
  | keyword word => word.flatMap escape
  | run k => k.source ++ "*".toList
  | run1 k => k.source ++ "+".toList
  | boundary => "\\b".toList
  | seq p q => sourceIn false p ++ sourceIn false q
  | alt p q =>
    let body := sourceIn true p ++ "|".toList ++ sourceIn true q
    if bare then body else "(?:".toList ++ body ++ ")".toList
  | opt p => "(?:".toList ++ sourceIn true p ++ ")?".toList

/-- The pattern in regular expression notation. -/
def source (p : Pattern) : Text := sourceIn true p

end Pattern

end QueryGate
