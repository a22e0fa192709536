/-!
# Binary floating point

Numbers of the 64-bit binary format, as exact data: a finite number is a sign, a significand
below `2 ^ 53` and a power of two.  A ratio of natural numbers is rounded to the nearest such
number, ties to the even significand; everything else is exact arithmetic on natural numbers.

Each number has one representation: the significand is at least `2 ^ 52`, unless the exponent is
the least one, `-1074`.
-/

namespace QueryGate

/-- A number of the 64-bit binary format. -/
inductive Binary64 where
  /-- The value is `significand * 2 ^ exponent`, negated if `negative`. -/
  | finite (negative : Bool) (significand : Nat) (exponent : Int)
  | infinite (negative : Bool)
  | nan
  deriving DecidableEq, Repr

namespace Binary64

/-- The least exponent, that of the subnormal numbers and of zero. -/
def minExponent : Int := -1074

/-- The greatest exponent. -/
def maxExponent : Int := 971

/-- The quotient rounded to the nearest natural number, ties to even. -/
def roundDiv (num den : Nat) : Nat :=
  let q := num / den
  let r := num % den
  if 2 * r < den then q else if den < 2 * r then q + 1 else q + q % 2

/-- The ratio `num / den` divided by `2 ^ e`, as a ratio. -/
def scaleDown (num den : Nat) (e : Int) : Nat × Nat :=
  if e < 0 then (num * Nat.pow 2 e.natAbs, den) else (num, den * Nat.pow 2 e.natAbs)

/-- The exponent at which the ratio has a significand of 53 bits, but not below the least. -/
def exponentOf (num den : Nat) : Int :=
  let guess : Int := (num.log2 : Int) - (den.log2 : Int) - 53
  let scaled := scaleDown num den guess
  -- the guess is right or one too small
  let e := if scaled.1 / scaled.2 < Nat.pow 2 53 then guess else guess + 1
  if e < minExponent then minExponent else e

/-- The number nearest to `num / den`, or its negation. -/
def ofRatio (negative : Bool) (num den : Nat) : Binary64 :=
  let e := if num = 0 then minExponent else exponentOf num den
  let scaled := scaleDown num den e
  let q := roundDiv scaled.1 scaled.2
  let rounded : Nat × Int := if q = Nat.pow 2 53 then (Nat.pow 2 52, e + 1) else (q, e)
  if maxExponent < rounded.2 then infinite negative else finite negative rounded.1 rounded.2

/-- The value of a finite number without its sign, as a ratio. -/
def ratio (significand : Nat) (exponent : Int) : Nat × Nat :=
  if exponent < 0 then (significand, Nat.pow 2 exponent.natAbs)
  else (significand * Nat.pow 2 exponent.natAbs, 1)

/-- Zero. -/
def zero : Binary64 := finite false 0 minExponent

instance : Inhabited Binary64 := ⟨zero⟩

/-- The number nearest to an integer. -/
def ofInt (i : Int) : Binary64 := ofRatio (decide (i < 0)) i.natAbs 1

/-- The number nearest to `digits * 10 ^ exponent`, or its negation.  Exponents far outside the
range of the format are decided without computing the power. -/
def ofDecimal (negative : Bool) (digits : Nat) (exponent : Int) : Binary64 :=
  if digits = 0 then finite negative 0 minExponent
  else if exponent + digits.log2 / 4 > 400 then infinite negative
  else if exponent + digits.log2 < -400 then finite negative 0 minExponent
  else if exponent < 0 then ofRatio negative digits (Nat.pow 10 exponent.natAbs)
  else ofRatio negative (digits * Nat.pow 10 exponent.natAbs) 1

/-- A finite number as an integer multiple of `2 ^ minExponent`. -/
def units (negative : Bool) (significand : Nat) (exponent : Int) : Int :=
  let n : Int := (significand * Nat.pow 2 (exponent - minExponent).toNat : Nat)
  if negative then -n else n

/-- Strictly less; never for a NaN. -/
def lt : Binary64 → Binary64 → Bool
  | finite s m e, finite s' m' e' => decide (units s m e < units s' m' e')
  | finite .., infinite s => !s
  | infinite s, finite .. => s
  | infinite s, infinite s' => s && !s'
  | nan, _ => false
  | _, nan => false

/-- Less or equal; never for a NaN. -/
def le : Binary64 → Binary64 → Bool
  | finite s m e, finite s' m' e' => decide (units s m e ≤ units s' m' e')
  | infinite s, infinite s' => s || !s'
  | a, b => lt a b

/-- The number nearest to the sum. -/
def add : Binary64 → Binary64 → Binary64
  | finite s m e, finite s' m' e' =>
    let sum := units s m e + units s' m' e'
    -- two zeros, or a number and its negation
    let negative := if sum = 0 then s && s' else decide (sum < 0)
    ofRatio negative sum.natAbs (Nat.pow 2 minExponent.natAbs)
  | infinite s, infinite s' => if s = s' then infinite s else nan
  | nan, _ => nan
  | _, nan => nan
  | infinite s, finite .. => infinite s
  | finite .., infinite s => infinite s

end Binary64

end QueryGate
