import ObjectTransfer.Text.Numeral

/-!
# TOML strings

The four ways of writing a string, and which one is chosen for a text: the first of basic,
literal, multi-line basic and multi-line literal that shows the text without an escape, a tab
apart; and when there is none, basic or multi-line basic with escapes.
-/

namespace ObjectTransfer.Toml

/-- The longest run of a byte. -/
def longestRun (b : UInt8) (text : Bytes) : Nat :=
  (text.foldl (fun (longest, run) c =>
    if c = b then (max longest (run + 1), run + 1) else (longest, 0)) (0, 0)).1

/-- Whether a byte can only be written as an escape: a control character other than the tab and
the line end. -/
def needsEscape (b : UInt8) : Bool :=
  (b < 0x20 && b != 0x09 && b != 0x0A) || b = 0x7F

/-- The ways of writing a string. -/
inductive StringStyle where
  | basic
  | literal
  | multilineBasic
  | multilineLiteral
  deriving Repr, DecidableEq

/-- The style in which a text is written. -/
def StringStyle.choose (text : Bytes) : StringStyle :=
  let doubles := longestRun 0x22 text
  let singles := longestRun 0x27 text
  let escapes := text.any needsEscape
  let backslash := text.contains 0x5C
  let lines := text.contains 0x0A
  if !escapes && !backslash && doubles = 0 && !lines then basic
  else if !escapes && singles = 0 && !lines then literal
  else if !escapes && !backslash && doubles ≤ 2 then multilineBasic
  else if !escapes && singles ≤ 2 then multilineLiteral
  else if lines then multilineBasic
  else basic

/-- One byte other than a quote, as it stands in a basic string. -/
def escapeByte (multiline : Bool) (b : UInt8) : Bytes :=
  if b = 0x08 then [0x5C, 0x62]
  else if b = 0x09 then [0x5C, 0x74]
  else if b = 0x0A then (if multiline then [0x0A] else [0x5C, 0x6E])
  else if b = 0x0C then [0x5C, 0x66]
  else if b = 0x0D then [0x5C, 0x72]
  else if b = 0x5C then [0x5C, 0x5C]
  else if b < 0x20 || b = 0x7F then
    [0x5C, 0x75] ++ Bytes.ofString ((Numeral.hex 4 b.toNat).toUpper)
  else [b]

/-- The content of a basic string. Of a run of quotes only so many may stand as they are that the
run does not end the string: two in a multi-line string, none in another. -/
def escapeText (multiline : Bool) : Nat → Bytes → Bytes
  | _, [] => []
  | run, b :: rest =>
    if b = 0x22 then
      if run < (if multiline then 2 else 0) then 0x22 :: escapeText multiline (run + 1) rest
      else 0x5C :: 0x22 :: escapeText multiline 0 rest
    else
      escapeByte multiline b ++ escapeText multiline 0 rest

/-- A string in a style. In front of a text of several lines stands a line end that does not
belong to it. -/
def writeString (text : Bytes) : StringStyle → Bytes
  | .basic => 0x22 :: (escapeText false 0 text ++ [0x22])
  | .literal => 0x27 :: (text ++ [0x27])
  | .multilineBasic =>
    [0x22, 0x22, 0x22] ++ opening ++ escapeText true 0 text ++ [0x22, 0x22, 0x22]
  | .multilineLiteral => [0x27, 0x27, 0x27] ++ opening ++ text ++ [0x27, 0x27, 0x27]
where
  /-- The line end behind the opening quotes. -/
  opening : Bytes := if text.contains 0x0A then [0x0A] else []

/-- A string in the style that is chosen for it. -/
def printString (text : Bytes) : Bytes :=
  writeString text (.choose text)

end ObjectTransfer.Toml
