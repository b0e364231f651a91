import ObjectTransfer.Bytes

/-!
# Numerals

Written numbers: decimal digits of a natural number, and the reader that handle counters,
operation codes and command-line values share. A numeral is read digit by digit from the left,
so that the first digit that is none, or the first that takes the value out of range, decides
how it is refused.
-/

namespace ObjectTransfer

/-- Why a text is no numeral of the wanted range. -/
inductive NumeralError where
  | empty
  | invalidDigit
  | tooLarge
  | tooSmall
  deriving Repr, DecidableEq

namespace NumeralError

/-- The text of the refusal. -/
def message : NumeralError → String
  | empty => "cannot parse integer from empty string"
  | invalidDigit => "invalid digit found in string"
  | tooLarge => "number too large to fit in target type"
  | tooSmall => "number too small to fit in target type"

end NumeralError

namespace Numeral

/-- The decimal digits of a natural number, without leading zeros. -/
def decimal (n : Nat) : Bytes :=
  (Nat.toDigits 10 n).map Bytes.ascii

/-- The lower-case hexadecimal digits of a number, with zeros in front up to `width` digits. -/
def hex (width n : Nat) : String :=
  let digits := Nat.toDigits 16 n
  String.ofList (List.replicate (width - digits.length) '0' ++ digits)

/-- The value of a digit in either case, if it is one of the radix (at most 16). -/
def digit? (radix : Nat) (b : UInt8) : Option Nat :=
  let n := b.toNat
  let value :=
    if 48 ≤ n ∧ n ≤ 57 then n - 48
    else if 65 ≤ n ∧ n ≤ 70 then n - 55
    else if 97 ≤ n ∧ n ≤ 102 then n - 87
    else radix
  if value < radix then some value else none

/-- Reads digits behind a value already read; every value up to `limit` is in range. -/
def readDigits (radix limit value : Nat) : Bytes → Except NumeralError Nat
  | [] => .ok value
  | b :: rest =>
    match digit? radix b with
    | none => .error .invalidDigit
    | some d =>
      if limit < value * radix + d then .error .tooLarge
      else readDigits radix limit (value * radix + d) rest

/-- Reads a natural number up to `limit`: an optional plus sign and at least one digit. -/
def readNat (radix limit : Nat) : Bytes → Except NumeralError Nat
  | [] => .error .empty
  | 0x2B :: [] => .error .invalidDigit
  | 0x2B :: digits => readDigits radix limit 0 digits
  | digits => readDigits radix limit 0 digits

/-- Two to the 63rd: the bound of integers of 64 bits on either side of zero. -/
def halfWord : Nat := 0x8000000000000000

/-- Reads a decimal integer of 64 bits: an optional sign and at least one digit. -/
def readInt64 : Bytes → Except NumeralError Int
  | [] => .error .empty
  | 0x2D :: [] => .error .invalidDigit
  | 0x2D :: digits =>
    match readDigits 10 halfWord 0 digits with
    | .ok n => .ok (-n)
    | .error .tooLarge => .error .tooSmall
    | .error e => .error e
  | text => (readNat 10 (halfWord - 1) text).map Int.ofNat

end Numeral

end ObjectTransfer
