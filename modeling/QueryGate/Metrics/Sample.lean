import QueryGate.Number.Decimal
import QueryGate.OrderedMap

/-!
# Samples

Measurements are shown as lines of a name, labels in braces, and a value.  Labels are sorted by
name, and their values are quoted.  A value above zero with more than six digits before the point
is written with an exponent of at least two digits, the first of them a zero.

A histogram counts observations by upper bounds and shows, for each bound, how many observations
do not exceed it.
-/

namespace QueryGate.Metrics

open Text

/-- Label names with their values, sorted by name. -/
abbrev Labels := List (String × Text)

/-- A character inside a label value. -/
def escapeChar (c : Char) : Text :=
  match c with
  | '\\' => "\\\\".toList
  | '"' => "\\\"".toList
  | '\n' => "\\n".toList
  | c => [c]

/-- One label. -/
def labelText (l : String × Text) : Text :=
  l.1.toList ++ "=\"".toList ++ l.2.flatMap escapeChar ++ ['"']

/-- The labels in braces; nothing for no labels. -/
def labelsText (labels : Labels) : Text :=
  if labels.isEmpty then [] else '\x7b' :: join [','] (labels.map labelText) ++ ['\x7d']

/-- The digits of a number before and after its point, both without exponent. -/
def regroup (whole fraction : Text) : Text :=
  let digits := whole.take 1 ++ '.' :: (whole.drop 1 ++ fraction)
  (digits.reverse.dropWhile fun c => c == '0' || c == '.').reverse
    ++ "e+0".toList ++ ofNat (whole.length - 1)

/-- The text of a value. -/
def valueText (x : Binary64) : Text :=
  match x with
  | .infinite false => "+Inf".toList
  | .infinite true => "-Inf".toList
  | .nan => "NaN".toList
  | .finite .. =>
    let s := x.toText
    let whole := s.takeWhile (· ≠ '.')
    if Binary64.lt .zero x && decide ('.' ∈ s) && decide (6 < whole.length) then
      regroup whole (s.drop (whole.length + 1))
    else s

/-- The line of one measurement. -/
def line (name : String) (labels : Labels) (x : Binary64) : Text :=
  name.toList ++ labelsText labels ++ ' ' :: valueText x

/-- Counts by labels, in order of first use. -/
abbrev Counts := OrderedMap Labels Nat

/-- The count at some labels. -/
def Counts.at (c : Counts) (labels : Labels) : Nat := (c.get? labels).getD 0

/-- One more at some labels. -/
def Counts.add (c : Counts) (labels : Labels) : Counts := c.insert labels (Counts.at c labels + 1)

/-- The lines of counts. -/
def Counts.lines (name : String) (c : Counts) : List Text :=
  c.entries.map fun e => line name e.1 (.ofInt e.2)

/-- An upper bound of a histogram with the observations that it is the first to cover. -/
structure Bucket where
  bound : Binary64
  count : Nat
  deriving DecidableEq, Repr

/-- Observations by upper bounds, the last of which is infinite. -/
structure Histogram where
  buckets : List Bucket
  sum : Binary64
  deriving DecidableEq, Repr

namespace Histogram

/-- A histogram without observations. -/
def ofBounds (bounds : List Binary64) : Histogram :=
  ⟨(bounds ++ [Binary64.infinite false]).map (⟨·, 0⟩), .zero⟩

/-- The buckets with one more observation. -/
def countIn (x : Binary64) : List Bucket → List Bucket
  | [] => []
  | b :: rest => if x.le b.bound then ⟨b.bound, b.count + 1⟩ :: rest else b :: countIn x rest

/-- The histogram with one more observation. -/
def observe (h : Histogram) (x : Binary64) : Histogram := ⟨countIn x h.buckets, h.sum.add x⟩

/-- Each bound with the number of observations up to it, on top of `below`. -/
def cumulative (below : Nat) : List Bucket → List (Binary64 × Nat)
  | [] => []
  | b :: rest => (b.bound, below + b.count) :: cumulative (below + b.count) rest

/-- The labels with the bound among them. -/
def withBound (labels : Labels) (bound : Binary64) : Labels :=
  labels.takeWhile (fun l => decide (l.1 < "le")) ++ ("le", valueText bound)
    :: labels.dropWhile (fun l => decide (l.1 < "le"))

/-- The number of observations. -/
def total (h : Histogram) : Nat := h.buckets.foldl (fun n b => n + b.count) 0

/-- The lines of a histogram. -/
def lines (name : String) (labels : Labels) (h : Histogram) : List Text :=
  (cumulative 0 h.buckets).map
      (fun c => line (name ++ "_bucket") (withBound labels c.1) (.ofInt c.2))
    ++ [line (name ++ "_count") labels (.ofInt h.total), line (name ++ "_sum") labels h.sum]

end Histogram

end QueryGate.Metrics
