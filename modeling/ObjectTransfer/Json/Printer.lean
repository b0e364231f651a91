import ObjectTransfer.Json.Value
import ObjectTransfer.Text.Numeral

/-!
# Writing JSON

Two layouts of a value: compact, without a blank, and pretty, with one member or item to a line
and two spaces more for each level. In a string the quote, the backslash and the control
characters are escaped, and nothing else is.
-/

namespace ObjectTransfer.Json

/-- One byte of a text as it stands in a string. -/
def escapeByte (b : UInt8) : Bytes :=
  if b = 0x22 then [0x5C, 0x22]
  else if b = 0x5C then [0x5C, 0x5C]
  else if b = 0x08 then [0x5C, 0x62]
  else if b = 0x09 then [0x5C, 0x74]
  else if b = 0x0A then [0x5C, 0x6E]
  else if b = 0x0C then [0x5C, 0x66]
  else if b = 0x0D then [0x5C, 0x72]
  else if b < 0x20 then Bytes.ofString ("\\u" ++ Numeral.hex 4 b.toNat)
  else [b]

/-- A text between quotes. -/
def printText (s : String) : Bytes :=
  0x22 :: ((Bytes.ofString s).flatMap escapeByte ++ [0x22])

/-- An integer in decimal. -/
def printInt : Int → Bytes
  | .ofNat n => Numeral.decimal n
  | .negSucc n => 0x2D :: Numeral.decimal (n + 1)

/-- A number. Only integers are ever written. -/
def Number.print : Number → Bytes
  | integer n => printInt n
  | real _ | outOfRange => []

/-- A leaf of a document. -/
def printBool (b : Bool) : Bytes :=
  Bytes.ofString (if b then "true" else "false")

mutual

/-- The compact layout of a value. -/
def Value.compact : Value → Bytes
  | .null => Bytes.ofString "null"
  | .bool b => printBool b
  | .number n => n.print
  | .string s => printText (s.getD "")
  | .array .done => [0x5B, 0x5D]
  | .array (.more first rest) => 0x5B :: (first.compact ++ rest.compact)
  | .object .done => [0x7B, 0x7D]
  | .object (.more key value rest) =>
    0x7B :: (printText (key.getD "") ++ 0x3A :: (value.compact ++ rest.compact))
  | .array .malformed | .object .malformed | .malformed => []

/-- The items behind the first one, and the bracket that ends them. -/
def Items.compact : Items → Bytes
  | .done => [0x5D]
  | .more first rest => 0x2C :: (first.compact ++ rest.compact)
  | .malformed => []

/-- The members behind the first one, and the brace that ends them. -/
def Members.compact : Members → Bytes
  | .done => [0x7D]
  | .more key value rest =>
    0x2C :: (printText (key.getD "") ++ 0x3A :: (value.compact ++ rest.compact))
  | .malformed => []

end

/-- A line end and the indentation of a level. -/
def newLine (level : Nat) : Bytes :=
  0x0A :: List.replicate (2 * level) 0x20

mutual

/-- The pretty layout of a value that stands at a level. -/
def Value.prettyAt (level : Nat) : Value → Bytes
  | .null => Bytes.ofString "null"
  | .bool b => printBool b
  | .number n => n.print
  | .string s => printText (s.getD "")
  | .array .done => [0x5B, 0x5D]
  | .array (.more first rest) =>
    0x5B :: (newLine (level + 1) ++ first.prettyAt (level + 1) ++ rest.prettyAt level)
  | .object .done => [0x7B, 0x7D]
  | .object (.more key value rest) =>
    0x7B :: (newLine (level + 1) ++ printText (key.getD "") ++
      0x3A :: 0x20 :: (value.prettyAt (level + 1) ++ rest.prettyAt level))
  | .array .malformed | .object .malformed | .malformed => []

/-- The items behind the first one, and the bracket that ends them at a level. -/
def Items.prettyAt (level : Nat) : Items → Bytes
  | .done => newLine level ++ [0x5D]
  | .more first rest =>
    0x2C :: (newLine (level + 1) ++ first.prettyAt (level + 1) ++ rest.prettyAt level)
  | .malformed => []

/-- The members behind the first one, and the brace that ends them at a level. -/
def Members.prettyAt (level : Nat) : Members → Bytes
  | .done => newLine level ++ [0x7D]
  | .more key value rest =>
    0x2C :: (newLine (level + 1) ++ printText (key.getD "") ++
      0x3A :: 0x20 :: (value.prettyAt (level + 1) ++ rest.prettyAt level))
  | .malformed => []

end

/-- The pretty layout of a document. -/
def Value.pretty (v : Value) : Bytes :=
  v.prettyAt 0

end ObjectTransfer.Json
