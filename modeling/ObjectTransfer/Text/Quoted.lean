import ObjectTransfer.Text.Numeral
import ObjectTransfer.Text.Printable

/-!
# Quoted text

How an error message shows a text that it found: between quotes, with escapes for the quote, the
backslash, the usual controls and every character that would not show.
-/

namespace ObjectTransfer.Quoted

/-- One character as it stands between quotes. -/
def showChar (c : Char) : String :=
  match c with
  | '\x00' => "\\0"
  | '\t' => "\\t"
  | '\r' => "\\r"
  | '\n' => "\\n"
  | '\\' => "\\\\"
  | '"' => "\\\""
  | c =>
    if Printable.isPrintable c then c.toString
    else "\\u\x7b" ++ Numeral.hex 1 c.toNat ++ "\x7d"

/-- A text between quotes. -/
def quote (s : String) : String :=
  "\"" ++ String.join (s.toList.map showChar) ++ "\""

end ObjectTransfer.Quoted
