import ObjectTransfer.Binary64.Basic

/-!
# The shortest decimal of a double-precision number

The fewest digits that read back as the number, and of those the nearest to it; at an exact tie
the even last digit. Two layouts use them: always positional, or with an exponent when the number
is very large or very small.
-/

namespace ObjectTransfer.Binary64

/-- A decimal `0.d₁d₂… · 10 ^ point`, as its digits and the place of the point. -/
structure Digits where
  digits : List Char
  point : Int

/-- The place of the point in the decimal notation of a positive fraction: the fraction lies in
`[10 ^ (point - 1), 10 ^ point)`. -/
def decimalPoint (numerator denominator : Nat) : Int :=
  if denominator ≤ numerator then (Nat.toDigits 10 (numerator / denominator)).length
  else 1 - (Nat.toDigits 10 ((denominator - 1) / numerator)).length

/-- A fraction divided by a power of ten. -/
def scaleTen (numerator denominator : Nat) : Int → Nat × Nat
  | .ofNat e => (numerator, denominator * Nat.pow 10 e)
  | .negSucc e => (numerator * Nat.pow 10 (e + 1), denominator)

/-- Four times the significand, and the ends of the interval of values that round to the number,
in quarters of the last place. -/
def interval (x : Binary64) : Nat × Nat × Nat :=
  let m := 4 * x.significand
  let low := if x.significand = significandBound / 2 ∧ x.exponent ≠ -1074 then m - 1 else m - 2
  (low, m, m + 2)

/-- The nearest decimal with `count` digits that reads back as the number, if there is one. -/
def candidate (x : Binary64) (point : Int) (count : Nat) : Option Nat :=
  let (low, mid, high) := x.interval
  -- The unit of the grid, as a fraction of a quarter of the last place.
  let exponent := point - count
  let (two, one) : Nat × Nat := match x.exponent - 2 with
    | .ofNat e => (1 <<< e, 1)
    | .negSucc e => (1, 1 <<< (e + 1))
  let (n, d) := scaleTen two one exponent
  let below := mid * n / d
  let inside (k : Nat) : Bool :=
    if x.significand % 2 = 0 then low * n ≤ k * d && k * d ≤ high * n
    else low * n < k * d && k * d < high * n
  let above := below + 1
  match inside below && below != 0, inside above with
  | false, false => none
  | true, false => some below
  | false, true => some above
  | true, true =>
    let down := mid * n - below * d
    let up := above * d - mid * n
    if down < up || (down = up && below % 2 = 0) then some below else some above

/-- The shortest digits of a number other than zero. -/
def shortest (x : Binary64) : Digits :=
  let (n, d) := x.ratio
  let point := decimalPoint n d
  let found := (List.range' 1 17).findSome? fun count =>
    (x.candidate point count).map fun k => (count, k)
  match found with
  | some (count, k) =>
    let digits := Nat.toDigits 10 k
    -- Rounding up can carry into one more digit.
    let point := point + (digits.length - count : Nat)
    ⟨(digits.reverse.dropWhile (· == '0')).reverse, point⟩
  | none => ⟨[], 0⟩

/-- Digits in positional notation, with at least one digit on either side of the point. -/
def Digits.positional (d : Digits) : String :=
  let n := d.digits.length
  match d.point with
  | .ofNat p =>
    if p = 0 then "0." ++ String.ofList d.digits
    else if n ≤ p then String.ofList (d.digits ++ List.replicate (p - n) '0') ++ ".0"
    else String.ofList (d.digits.take p) ++ "." ++ String.ofList (d.digits.drop p)
  | .negSucc p => "0." ++ String.ofList (List.replicate (p + 1) '0' ++ d.digits)

/-- Digits in scientific notation: a signed exponent of at least two digits. -/
def Digits.scientific (d : Digits) : String :=
  let exponent := d.point - 1
  let magnitude := toString exponent.natAbs
  let magnitude := if magnitude.length < 2 then "0" ++ magnitude else magnitude
  let sign := if exponent < 0 then "-" else "+"
  let digits := match d.digits with
    | [] => "0"
    | [one] => one.toString
    | one :: more => one.toString ++ "." ++ String.ofList more
  digits ++ "e" ++ sign ++ magnitude

/-- The sign in front of a number. -/
def signText (x : Binary64) : String :=
  if x.negative then "-" else ""

/-- The number in positional notation, however long. -/
def toPositional (x : Binary64) : String :=
  x.signText ++ if x.significand = 0 then "0.0" else x.shortest.positional

/-- The number in positional notation, or in scientific notation when its leading digit stands
for at least `10 ^ 16` or for less than `10 ^ -5`. -/
def toText (x : Binary64) : String :=
  x.signText ++
    if x.significand = 0 then "0.0"
    else
      let d := x.shortest
      if -5 < d.point ∧ d.point ≤ 16 then d.positional else d.scientific

end ObjectTransfer.Binary64
