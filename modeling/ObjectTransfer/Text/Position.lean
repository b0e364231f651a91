import ObjectTransfer.Bytes

/-!
# Positions in a text

Where a fault lies: the line, counted from one, and the column, counted in bytes from one within
the line. An offset past the end of the text counts as the end.
-/

namespace ObjectTransfer

/-- A place in a text, for people to find. -/
structure Position where
  /-- One more than the number of line ends before the place. -/
  line : Nat
  /-- One more than the number of bytes between the start of the line and the place. -/
  column : Nat
  deriving Repr, DecidableEq

namespace Position

/-- The offset of the last line end in a text, if there is one. -/
def lastLineEnd? (text : Bytes) : Option Nat :=
  (text.zipIdx.reverse.find? (·.1 == 0x0A)).map (·.2)

/-- The offset at which the last line of a text starts. -/
def lastLineStart (text : Bytes) : Nat :=
  match lastLineEnd? text with
  | none => 0
  | some lineEnd => lineEnd + 1

/-- The place behind `before`. -/
def after (before : Bytes) : Position where
  line := before.count 0x0A + 1
  column := before.length - lastLineStart before + 1

/-- The place at a byte offset of a text. -/
def ofOffset (text : Bytes) (offset : Nat) : Position :=
  after (text.take offset)

end Position

end ObjectTransfer
