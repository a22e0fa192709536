import QueryGate.Number.Decimal

/-!
# Extended precision

A database computes the decimal text of a number, and the number that a text stands for, in
floating point numbers with significands of 64 bits.  Every operation rounds to the nearest such
number, ties to the even significand, so the results are not always the nearest decimal or the
nearest number.  The operations are kept as they are, because the texts that they give are seen.

The range of exponents is not limited here: the numbers that occur lie well within that of the
format.
-/

namespace QueryGate

open Text

/-- The number `significand * 2 ^ exponent`, which is not negative. -/
structure Extended where
  significand : Nat
  exponent : Int
  deriving DecidableEq, Repr

namespace Extended

/-- The number of bits of a significand. -/
def precision : Nat := 64

/-- The exponent at which a positive ratio has a significand of full length. -/
def exponentOf (num den : Nat) : Int :=
  let guess : Int := (num.log2 : Int) - (den.log2 : Int) - precision
  let scaled := Binary64.scaleDown num den guess
  if scaled.1 / scaled.2 < Nat.pow 2 precision then guess else guess + 1

/-- The number nearest to a ratio. -/
def ofRatio (num den : Nat) : Extended :=
  if num = 0 then ⟨0, 0⟩
  else
    let e := exponentOf num den
    let scaled := Binary64.scaleDown num den e
    ⟨Binary64.roundDiv scaled.1 scaled.2, e⟩

/-- The number as a ratio. -/
def ratio (x : Extended) : Nat × Nat := Binary64.ratio x.significand x.exponent

/-- A natural number. -/
def ofNat (n : Nat) : Extended := ofRatio n 1

/-- The double precision number nearest to `digits * 10 ^ exponent`, in extended precision. -/
def ofDecimal (digits : Nat) (exponent : Int) : Extended :=
  match Binary64.ofDecimal false digits exponent with
  | .finite _ m e => ofRatio (Binary64.ratio m e).1 (Binary64.ratio m e).2
  | _ => ⟨0, 0⟩

/-- The number nearest to the product. -/
def mul (x y : Extended) : Extended := ofRatio (x.ratio.1 * y.ratio.1) (x.ratio.2 * y.ratio.2)

/-- The number nearest to the quotient. -/
def div (x y : Extended) : Extended := ofRatio (x.ratio.1 * y.ratio.2) (x.ratio.2 * y.ratio.1)

/-- The number nearest to the sum. -/
def add (x y : Extended) : Extended :=
  ofRatio (x.ratio.1 * y.ratio.2 + y.ratio.1 * x.ratio.2) (x.ratio.2 * y.ratio.2)

/-- Less or equal. -/
def le (x y : Extended) : Bool := decide (x.ratio.1 * y.ratio.2 ≤ y.ratio.1 * x.ratio.2)

/-- Strictly less. -/
def lt (x y : Extended) : Bool := !le y x

/-- The whole part. -/
def floor (x : Extended) : Nat := x.ratio.1 / x.ratio.2

/-- The number nearest to what is left without the whole part. -/
def fraction (x : Extended) : Extended := ofRatio (x.ratio.1 % x.ratio.2) x.ratio.2

/-- The double precision number nearest to the number, or its negation. -/
def toBinary64 (negative : Bool) (x : Extended) : Binary64 :=
  .ofRatio negative x.ratio.1 x.ratio.2

/-- The power of ten, by repeated squaring: `square` is ten to the power of a power of two. -/
def powerFrom (square product : Extended) : Nat → Nat → Extended
  | 0, _ => product
  | fuel + 1, n =>
    let product := if n % 2 = 1 then mul product square else product
    if n / 2 = 0 then product else powerFrom (mul square square) product fuel (n / 2)

/-- A power of ten. -/
def powerOfTen (n : Nat) : Extended := powerFrom (ofNat 10) (ofNat 1) (n + 1) n

/-! ## Fifteen digits -/

/-- The number of digits of a decimal text. -/
def textDigits : Nat := 15

/-- A power of ten that is not too large for a number, and its exponent, made greater by a step as
often as that leaves it not too large. -/
def raise (x step : Extended) (by_ : Nat) : Nat → Extended × Int → Extended × Int
  | 0, scale => scale
  | fuel + 1, scale =>
    if le (mul step scale.1) x then raise x step by_ fuel (mul step scale.1, scale.2 + by_)
    else scale

/-- A number and its exponent, made smaller by a step as often as the number is below a bound. -/
def lower (bound step : Extended) (by_ : Nat) : Nat → Extended × Int → Extended × Int
  | 0, scaled => scaled
  | fuel + 1, scaled =>
    if lt scaled.1 bound then lower bound step by_ fuel (mul scaled.1 step, scaled.2 - by_)
    else scaled

/-- A positive number as a multiple of a power of ten, the factor being at least one and below ten,
and the exponent of the power. -/
def normalize (x : Extended) : Extended × Int :=
  let scale := raise x (ofNat 10) 1 10 (raise x (ofDecimal 1 10) 10 35
    (raise x (ofDecimal 1 100) 100 4 (ofNat 1, 0)))
  lower (ofNat 1) (ofNat 10) 1 10
    (lower (ofDecimal 1 (-8)) (ofDecimal 1 8) 8 45 (div x scale.1, scale.2))

/-- Half a unit of the last digit of a number below ten. -/
def halfUnit : Extended := mul (ofDecimal 5 (-5)) (ofDecimal 1 (-10))

/-- The first digits of a number below ten. -/
def leadingDigits : Nat → Extended → Text
  | 0, _ => []
  | n + 1, x => Nat.digitChar x.floor :: leadingDigits n (mul x.fraction (ofNat 10))

/-- The digits of a positive number rounded to fifteen of them, without zeros at the end. -/
def digits (x : Extended) : Decimal.Digits :=
  let (factor, exponent) := normalize x
  let raised := add factor halfUnit
  let (factor, exponent) :=
    if le (ofNat 10) raised then (mul raised (ofDecimal 1 (-1)), exponent + 1)
    else (raised, exponent)
  let all := leadingDigits textDigits factor
  let kept := (all.reverse.dropWhile (· = '0')).reverse
  ⟨if kept.isEmpty then ['0'] else kept, exponent⟩

end Extended

namespace Binary64

/-- The text of a number as a database keeps it: rounded to fifteen digits.  There is but one zero,
and what is no number is null, which has no text. -/
def toStoredText? : Binary64 → Option Text
  | finite negative m e =>
    if m = 0 then some "0.0".toList
    else
      let r := ratio m e
      some (signText negative
        ++ (Extended.ofRatio r.1 r.2).digits.toText Decimal.storedLayout)
  | infinite negative => some (signText negative ++ "Inf".toList)
  | nan => none

end Binary64

end QueryGate
