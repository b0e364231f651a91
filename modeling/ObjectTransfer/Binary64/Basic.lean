/-!
# Double-precision numbers

Numbers `± significand · 2 ^ exponent` with 53 significant bits, as data: rounding of an exact
fraction to the nearest such number, and products and quotients that are rounded once. Messages
about a number of the wrong kind show it in this precision, so that is what the readers of both
document formats produce.
-/

namespace ObjectTransfer

/-- A finite number of double precision. The significand is below `2 ^ 53`, and at least `2 ^ 52`
unless the exponent is the smallest one, `-1074`. -/
structure Binary64 where
  negative : Bool
  significand : Nat
  exponent : Int
  deriving Repr, DecidableEq

namespace Binary64

/-- The numerator and denominator of `numerator / (denominator · 2 ^ exponent)`. -/
def scale (numerator denominator : Nat) : Int → Nat × Nat
  | .ofNat e => (numerator, denominator <<< e)
  | .negSucc e => (numerator <<< (e + 1), denominator)

/-- The quotient rounded to the nearest integer, a half to the even one. -/
def roundHalfEven (numerator denominator : Nat) : Nat :=
  let q := numerator / denominator
  let r := numerator % denominator
  if 2 * r > denominator || (2 * r = denominator && q % 2 = 1) then q + 1 else q

/-- The zero of either sign. -/
def zero (negative : Bool) : Binary64 :=
  ⟨negative, 0, -1074⟩

/-- Two to the 53rd, the bound of significands. -/
def significandBound : Nat := 0x20000000000000

/-- The number nearest to a fraction, the one with the even significand at a tie; none when the
fraction is too large. -/
def ofRatio (negative : Bool) (numerator denominator : Nat) : Option Binary64 :=
  if numerator = 0 then some (zero negative)
  else
    let guess : Int := max ((numerator.log2 : Int) - denominator.log2 - 53) (-1074)
    let (n, d) := scale numerator denominator guess
    let exponent := if n / d < significandBound then guess else guess + 1
    let (n, d) := scale numerator denominator exponent
    let m := roundHalfEven n d
    let (m, exponent) :=
      if m = significandBound then (significandBound / 2, exponent + 1) else (m, exponent)
    if exponent ≤ 971 then some ⟨negative, m, exponent⟩ else none

/-- The magnitude as a fraction. -/
def ratio (x : Binary64) : Nat × Nat :=
  match x.exponent with
  | .ofNat e => (x.significand <<< e, 1)
  | .negSucc e => (x.significand, 1 <<< (e + 1))

/-- The product, rounded. -/
def mul (x y : Binary64) : Option Binary64 :=
  let (a, b) := x.ratio
  let (c, d) := y.ratio
  ofRatio (x.negative != y.negative) (a * c) (b * d)

/-- The quotient by a number other than zero, rounded. -/
def div (x y : Binary64) : Option Binary64 :=
  let (a, b) := x.ratio
  let (c, d) := y.ratio
  ofRatio (x.negative != y.negative) (a * d) (b * c)

end Binary64

end ObjectTransfer
