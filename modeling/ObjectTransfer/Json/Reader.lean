import ObjectTransfer.Json.Value
import ObjectTransfer.Text.Numeral

/-!
# Reading JSON

From bytes to a document. The reader never fails: where the text goes wrong the tree says so and
ends. Main definition: `Document.read`.
-/

namespace ObjectTransfer.Json

/-- Whether the byte may stand between any two tokens. -/
def isBlank (b : UInt8) : Bool :=
  b = 0x20 || b = 0x09 || b = 0x0A || b = 0x0D

/-- The text behind the blanks in front. -/
def skipBlanks (text : Bytes) : Bytes :=
  text.dropWhile isBlank

/-- Whether the byte is a decimal digit. -/
def isDigit (b : UInt8) : Bool :=
  0x30 ≤ b && b ≤ 0x39

/-! ## Strings -/

/-- Where the reader of a string stands. -/
inductive TextState where
  | plain
  | escape
  /-- Inside a code unit, with so many digits to come behind this value. -/
  | unit (digitsLeft : Nat) (value : Nat)

/-- A string's content, whether it is free of unpaired surrogates, and the text behind it. -/
structure TextPiece where
  content : Bytes
  paired : Bool
  rest : Bytes

namespace TextPiece

/-- The piece with more content in front. -/
def prepend (bytes : Bytes) (piece : TextPiece) : TextPiece :=
  { piece with content := bytes ++ piece.content }

/-- The piece behind an unpaired surrogate, if `unpaired` says that there is one. -/
def afterSurrogate (unpaired : Bool) (piece : TextPiece) : TextPiece :=
  { piece with paired := piece.paired && !unpaired }

/-- The text of the piece, if it has one. -/
def text? (piece : TextPiece) : Option String :=
  if piece.paired then Bytes.toString? piece.content else none

end TextPiece

/-- The byte that a one-letter escape stands for. -/
def unescape? (b : UInt8) : Option UInt8 :=
  if b = 0x22 || b = 0x5C || b = 0x2F then some b
  else if b = 0x62 then some 0x08
  else if b = 0x66 then some 0x0C
  else if b = 0x6E then some 0x0A
  else if b = 0x72 then some 0x0D
  else if b = 0x74 then some 0x09
  else none

/-- Whether the code unit is the first half of a pair. -/
def isHighSurrogate (n : Nat) : Bool :=
  0xD800 ≤ n && n ≤ 0xDBFF

/-- Whether the code unit is the second half of a pair. -/
def isLowSurrogate (n : Nat) : Bool :=
  0xDC00 ≤ n && n ≤ 0xDFFF

/-- What a code unit adds to the content, given the first half of a pair that may stand before
it: the bytes, a first half that now waits for its second, and whether a half stays alone. -/
def acceptUnit (pending : Option Nat) (n : Nat) : Bytes × Option Nat × Bool :=
  match pending with
  | some high =>
    if isLowSurrogate n then
      let code := 0x10000 + (high - 0xD800) * 0x400 + (n - 0xDC00)
      (String.utf8EncodeChar (Char.ofNat code), none, false)
    else if isHighSurrogate n then ([], some n, true)
    else (String.utf8EncodeChar (Char.ofNat n), none, true)
  | none =>
    if isLowSurrogate n then ([], none, true)
    else if isHighSurrogate n then ([], some n, false)
    else (String.utf8EncodeChar (Char.ofNat n), none, false)

/-- Reads a string from behind its opening quote; `pending` is the first half of a surrogate pair
that ends the content so far. -/
def readText (pending : Option Nat) : TextState → Bytes → Option TextPiece
  | _, [] => none
  | .plain, b :: rest =>
    if b = 0x22 then some ⟨[], pending.isNone, rest⟩
    else if b = 0x5C then readText pending .escape rest
    else if b < 0x20 then none
    else (readText none .plain rest).map fun piece =>
      (piece.prepend [b]).afterSurrogate pending.isSome
  | .escape, b :: rest =>
    if b = 0x75 then readText pending (.unit 4 0) rest
    else
      match unescape? b with
      | none => none
      | some c => (readText none .plain rest).map fun piece =>
        (piece.prepend [c]).afterSurrogate pending.isSome
  | .unit digitsLeft value, b :: rest =>
    match Numeral.digit? 16 b with
    | none => none
    | some d =>
      let value := value * 16 + d
      if digitsLeft ≤ 1 then
        let (bytes, pending, unpaired) := acceptUnit pending value
        (readText pending .plain rest).map fun piece =>
          (piece.prepend bytes).afterSurrogate unpaired
      else readText pending (.unit (digitsLeft - 1) value) rest

/-! ## Numbers -/

/-- The parts of a written number. -/
structure Literal where
  negative : Bool
  /-- The digits in front of the point. -/
  whole : Bytes
  /-- The digits behind the point, if there is one. -/
  fraction : Option Bytes
  /-- The exponent's minus sign and digits, if it has one. -/
  exponent : Option (Bool × Bytes)

/-- Takes the digits in front of a text. -/
def takeDigits (text : Bytes) : Bytes × Bytes :=
  text.span isDigit

/-- Reads the part behind the point, if there is one. -/
def readFraction : Bytes → Option (Option Bytes × Bytes)
  | 0x2E :: rest =>
    match takeDigits rest with
    | ([], _) => none
    | (digits, rest) => some (some digits, rest)
  | text => some (none, text)

/-- Reads the digits of an exponent. -/
def readExponentDigits (negative : Bool) (text : Bytes) :
    Option (Option (Bool × Bytes) × Bytes) :=
  match takeDigits text with
  | ([], _) => none
  | (digits, rest) => some (some (negative, digits), rest)

/-- Reads the exponent, if there is one. -/
def readExponent : Bytes → Option (Option (Bool × Bytes) × Bytes)
  | b :: rest =>
    if b = 0x65 || b = 0x45 then
      match rest with
      | 0x2B :: rest => readExponentDigits false rest
      | 0x2D :: rest => readExponentDigits true rest
      | rest => readExponentDigits false rest
    else some (none, b :: rest)
  | [] => some (none, [])

/-- Reads a number without its sign: a leading zero stands alone. -/
def readUnsigned (negative : Bool) (text : Bytes) : Option (Literal × Bytes) :=
  let (whole, rest) := takeDigits text
  match whole with
  | [] => none
  | 0x30 :: _ :: _ => none
  | _ => do
    let (fraction, rest) ← readFraction rest
    let (exponent, rest) ← readExponent rest
    return (⟨negative, whole, fraction, exponent⟩, rest)

/-- Reads the parts of a number. -/
def readLiteral : Bytes → Option (Literal × Bytes)
  | 0x2D :: rest => readUnsigned true rest
  | text => readUnsigned false text

/-- The value of a row of digits behind a value. -/
def digitsValue (value : Nat) (digits : Bytes) : Nat :=
  digits.foldl (fun n b => n * 10 + (b.toNat - 48)) value

/-- The leading digits that fit into 64 bits, as a number, and how many digits follow them. -/
def takeSignificand (value : Nat) : Bytes → Nat × Nat
  | [] => (value, 0)
  | b :: rest =>
    let next := value * 10 + (b.toNat - 48)
    if next < UInt64.size then takeSignificand next rest else (value, rest.length + 1)

/-- A power of ten, rounded. -/
def powerOfTen (n : Nat) : Option Binary64 :=
  Binary64.ofRatio false (Nat.pow 10 n) 1

/-- A number times a power of ten. Powers beyond `10 ^ 308` are taken in steps, and three steps
down leave nothing of any number. -/
def scaleByTen : Nat → Binary64 → Int → Option Binary64
  | 0, x, _ => some (.zero x.negative)
  | steps + 1, x, exponent =>
    if exponent.natAbs ≤ 308 then do
      let power ← powerOfTen exponent.natAbs
      if exponent < 0 then x.div power else x.mul power
    else if x.significand = 0 then some x
    else if 0 ≤ exponent then none
    else do
      let power ← powerOfTen 308
      scaleByTen steps (← x.div power) (exponent + 308)

namespace Literal

/-- The number that the leading digits and a power of ten make, rounded at each step. -/
def toReal (l : Literal) : Number :=
  let (whole, skipped) := takeSignificand 0 l.whole
  let fraction := l.fraction.getD []
  let (significand, dropped) := takeSignificand whole fraction
  let start : Int := skipped - (fraction.length - dropped : Nat)
  let scaled (exponent : Int) : Number :=
    match (Binary64.ofRatio l.negative significand 1).bind (scaleByTen 4 · exponent) with
    | some x => .real x
    | none => .outOfRange
  match l.exponent with
  | none => scaled start
  | some (negative, digits) =>
    let size := digitsValue 0 digits
    if size < 0x80000000 then scaled (if negative then start - size else start + size)
    else if significand = 0 || negative then .real (.zero l.negative)
    else .outOfRange

/-- The number that is written. -/
def toNumber (l : Literal) : Number :=
  match l.fraction, l.exponent with
  | none, none =>
    let n := digitsValue 0 l.whole
    if l.negative then
      if 0 < n ∧ n ≤ Numeral.halfWord then .integer (-n) else l.toReal
    else if n < UInt64.size then .integer n else l.toReal
  | _, _ => l.toReal

end Literal

/-! ## Values -/

/-- Reads the text of a literal name. -/
def readName (name : String) (value : Value) (text : Bytes) : Value × Option Bytes :=
  let bytes := Bytes.ofString name
  if bytes.isPrefixOf text then (value, some (text.drop bytes.length)) else (.malformed, none)

mutual

/-- Reads a value; the text behind it is missing when the value is at fault. -/
def readValue : Nat → Bytes → Value × Option Bytes
  | 0, _ => (.malformed, none)
  | fuel + 1, text =>
    match skipBlanks text with
    | [] => (.malformed, none)
    | b :: rest =>
      if b = 0x7B then
        let (members, rest) := readObject fuel rest
        (.object members, rest)
      else if b = 0x5B then
        let (items, rest) := readArray fuel rest
        (.array items, rest)
      else if b = 0x22 then
        match readText none .plain rest with
        | some piece => (.string piece.text?, some piece.rest)
        | none => (.malformed, none)
      else if b = 0x2D || isDigit b then
        match readLiteral (b :: rest) with
        | some (l, rest) => (.number l.toNumber, some rest)
        | none => (.malformed, none)
      else if b = 0x74 then readName "true" (.bool true) (b :: rest)
      else if b = 0x66 then readName "false" (.bool false) (b :: rest)
      else if b = 0x6E then readName "null" .null (b :: rest)
      else (.malformed, none)

/-- Reads an array from behind its bracket. -/
def readArray : Nat → Bytes → Items × Option Bytes
  | 0, _ => (.malformed, none)
  | fuel + 1, text =>
    match skipBlanks text with
    | 0x5D :: rest => (.done, some rest)
    | text => readItems fuel text

/-- Reads one item and all that follow it. -/
def readItems : Nat → Bytes → Items × Option Bytes
  | 0, _ => (.malformed, none)
  | fuel + 1, text =>
    match readValue fuel text with
    | (first, none) => (.more first .malformed, none)
    | (first, some rest) =>
      match skipBlanks rest with
      | 0x5D :: rest => (.more first .done, some rest)
      | 0x2C :: rest =>
        match skipBlanks rest with
        | 0x5D :: _ => (.more first .malformed, none)
        | rest =>
          let (items, rest) := readItems fuel rest
          (.more first items, rest)
      | _ => (.more first .malformed, none)

/-- Reads an object from behind its brace. -/
def readObject : Nat → Bytes → Members × Option Bytes
  | 0, _ => (.malformed, none)
  | fuel + 1, text =>
    match skipBlanks text with
    | 0x7D :: rest => (.done, some rest)
    | text => readMembers fuel text

/-- Reads one member and all that follow it. -/
def readMembers : Nat → Bytes → Members × Option Bytes
  | 0, _ => (.malformed, none)
  | fuel + 1, text =>
    match skipBlanks text with
    | 0x22 :: rest =>
      match readText none .plain rest with
      | none => (.malformed, none)
      | some key =>
        match skipBlanks key.rest with
        | 0x3A :: rest =>
          match readValue fuel rest with
          | (value, none) => (.more key.text? value .malformed, none)
          | (value, some rest) =>
            match skipBlanks rest with
            | 0x7D :: rest => (.more key.text? value .done, some rest)
            | 0x2C :: rest =>
              let (members, rest) := readMembers fuel rest
              (.more key.text? value members, rest)
            | _ => (.more key.text? value .malformed, none)
        | _ => (.more key.text? .malformed .malformed, none)
    | _ => (.malformed, none)

end

/-- Reads a document. Every two calls of the reader take a byte, which bounds their number. -/
def Document.read (text : Bytes) : Document :=
  match readValue (2 * text.length + 2) text with
  | (value, none) => ⟨value, false⟩
  | (value, some rest) => ⟨value, (skipBlanks rest).isEmpty⟩

end ObjectTransfer.Json
