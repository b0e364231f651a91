import ObjectTransfer.Text.Numeral
import ObjectTransfer.Text.Position
import ObjectTransfer.Toml.Value

/-!
# Reading TOML

From bytes to a document. Every reader takes a text and returns what it has read together with
the text behind it, or the text at which it could not go on. Since what is left is always an end
of the whole, its length says where the reader stands. Main definition: `readDocument`.
-/

namespace ObjectTransfer.Toml

/-- A reader: the text behind what it has read, or the text that it could not read. -/
abbrev Reader (α : Type) := Bytes → Except Bytes (α × Bytes)

/-! ## Characters -/

/-- A space or a tab. -/
def isBlank (b : UInt8) : Bool :=
  b = 0x20 || b = 0x09

/-- A decimal digit. -/
def isDigit (b : UInt8) : Bool :=
  0x30 ≤ b && b ≤ 0x39

/-- A byte that may stand in a comment: no control character but the tab. -/
def isPlain (b : UInt8) : Bool :=
  b = 0x09 || (0x20 ≤ b && b != 0x7F)

/-- A byte that may stand in a key without quotes. -/
def isBareKey (b : UInt8) : Bool :=
  (0x41 ≤ b && b ≤ 0x5A) || (0x61 ≤ b && b ≤ 0x7A) || isDigit b || b = 0x2D || b = 0x5F

/-- The text behind the blanks in front. -/
def skipBlanks (text : Bytes) : Bytes :=
  text.dropWhile isBlank

/-- The text behind the line end in front, if there is one. -/
def newline? : Bytes → Option Bytes
  | 0x0A :: rest => some rest
  | 0x0D :: 0x0A :: rest => some rest
  | _ => none

/-- The text behind the comment in front, if there is one. -/
def skipComment : Bytes → Bytes
  | 0x23 :: rest => rest.dropWhile isPlain
  | text => text

/-- Reads the end of a line behind a statement. -/
def readLineEnd : Reader Unit := fun text =>
  let text := skipComment (skipBlanks text)
  match newline? text with
  | some rest => .ok ((), rest)
  | none => if text.isEmpty then .ok ((), []) else .error text

/-- Reads one given byte. -/
def expect (b : UInt8) : Reader Unit
  | c :: rest => if c = b then .ok ((), rest) else .error (c :: rest)
  | [] => .error []

/-- The text behind blanks, line ends and comments, taken in so many steps. -/
def skipSpace : Nat → Bytes → Bytes
  | 0, text => text
  | steps + 1, text =>
    match skipBlanks text with
    | 0x23 :: rest => skipSpace steps (rest.dropWhile isPlain)
    | text =>
      match newline? text with
      | some rest => skipSpace steps rest
      | none => text

/-! ## Strings -/

/-- Adds bytes in front of a content. -/
def prepend (bytes : Bytes) : Except Bytes (Bytes × Bytes) → Except Bytes (Bytes × Bytes)
  | .ok (content, rest) => .ok (bytes ++ content, rest)
  | .error e => .error e

/-- Reads hexadecimal digits, exactly so many. -/
def readHex : Nat → Nat → Reader Nat
  | 0, value, text => .ok (value, text)
  | _ + 1, _, [] => .error []
  | digits + 1, value, b :: rest =>
    match Numeral.digit? 16 b with
    | some d => readHex digits (value * 16 + d) rest
    | none => .error (b :: rest)

/-- Reads a character by its number. -/
def readScalar (digits : Nat) : Reader Bytes := fun text => do
  let (code, rest) ← readHex digits 0 text
  if code < 0x110000 ∧ ¬(0xD800 ≤ code ∧ code ≤ 0xDFFF) then
    return (String.utf8EncodeChar (Char.ofNat code), rest)
  else throw text

/-- Reads an escape from behind its backslash. -/
def readEscape : Reader Bytes
  | [] => .error []
  | b :: rest =>
    if b = 0x62 then .ok ([0x08], rest)
    else if b = 0x66 then .ok ([0x0C], rest)
    else if b = 0x6E then .ok ([0x0A], rest)
    else if b = 0x72 then .ok ([0x0D], rest)
    else if b = 0x74 then .ok ([0x09], rest)
    else if b = 0x22 || b = 0x5C then .ok ([b], rest)
    else if b = 0x75 then readScalar 4 rest
    else if b = 0x55 then readScalar 8 rest
    else .error (b :: rest)

/-- Reads a basic string from behind its quote, in so many steps. -/
def readBasic : Nat → Reader Bytes
  | 0, text => .error text
  | _, [] => .error []
  | steps + 1, b :: rest =>
    if b = 0x22 then .ok ([], rest)
    else if b = 0x5C then
      match readEscape rest with
      | .ok (bytes, rest) => prepend bytes (readBasic steps rest)
      | .error e => .error e
    else if isPlain b then prepend [b] (readBasic steps rest)
    else .error (b :: rest)

/-- Reads a literal string from behind its quote. -/
def readLiteral : Reader Bytes
  | [] => .error []
  | b :: rest =>
    if b = 0x27 then .ok ([], rest)
    else if isPlain b then prepend [b] (readLiteral rest)
    else .error (b :: rest)

/-- The text behind a backslash, if the line ends there: blanks and line ends do not count up to
the next character. -/
def joinLines? (text : Bytes) : Option Bytes :=
  (newline? (skipBlanks text)).map fun rest =>
    rest.dropWhile fun b => isBlank b || b = 0x0A || b = 0x0D

/-- Reads quotes in a multi-line string: two at most belong to the text, and three end it. -/
def quotes (quote : UInt8) (text : Bytes) : Nat × Option Bytes :=
  let run := (text.takeWhile (· = quote)).length
  if run < 3 then (run, none)
  else
    let content := min (run - 3) 2
    (content, some (text.drop (content + 3)))

/-- Reads a multi-line string from behind its quotes, in so many steps. -/
def readMultiline (literal : Bool) : Nat → Reader Bytes
  | 0, text => .error text
  | _, [] => .error []
  | steps + 1, b :: rest =>
    let quote : UInt8 := if literal then 0x27 else 0x22
    if b = quote then
      match quotes quote (b :: rest) with
      | (count, some rest) => .ok (List.replicate count quote, rest)
      | (count, none) =>
        prepend (List.replicate count quote)
          (readMultiline literal steps ((b :: rest).drop count))
    else if b = 0x5C && !literal then
      match joinLines? rest with
      | some rest => readMultiline literal steps rest
      | none =>
        match readEscape rest with
        | .ok (bytes, rest) => prepend bytes (readMultiline literal steps rest)
        | .error e => .error e
    else
      match newline? (b :: rest) with
      | some rest => prepend [0x0A] (readMultiline literal steps rest)
      | none =>
        if isPlain b then prepend [b] (readMultiline literal steps rest)
        else .error (b :: rest)

/-- The text behind a line end that does not belong to a multi-line string. -/
def skipFirstLineEnd (text : Bytes) : Bytes :=
  (newline? text).getD text

/-- The content of a string as text. -/
def asText (whole : Bytes) : Except Bytes (Bytes × Bytes) → Except Bytes (String × Bytes)
  | .error e => .error e
  | .ok (content, rest) =>
    match Bytes.toString? content with
    | some s => .ok (s, rest)
    | none => .error whole

/-- Reads a string in one line. -/
def readQuoted : Reader String
  | 0x22 :: rest => asText rest (readBasic (rest.length + 1) rest)
  | 0x27 :: rest => asText rest (readLiteral rest)
  | text => .error text

/-- Reads a string. -/
def readString : Reader String
  | 0x22 :: 0x22 :: 0x22 :: rest =>
    let rest := skipFirstLineEnd rest
    asText rest (readMultiline false (rest.length + 1) rest)
  | 0x27 :: 0x27 :: 0x27 :: rest =>
    let rest := skipFirstLineEnd rest
    asText rest (readMultiline true (rest.length + 1) rest)
  | text => readQuoted text

/-! ## Keys -/

/-- The largest depth of keys and values, which none reaches. -/
def depthLimit : Nat := 80

/-- Reads a key without dots. -/
def readSimpleKey (total : Nat) : Reader Key := fun text => do
  let start := total - text.length
  match text with
  | 0x22 :: _ | 0x27 :: _ =>
    let (name, rest) ← readQuoted text
    return (⟨name, start⟩, rest)
  | _ =>
    let (bare, rest) := text.span isBareKey
    if bare.isEmpty then throw text
    return (⟨Bytes.lossy bare, start⟩, rest)

/-- Reads the keys behind the first one, each behind a dot, so many at most. -/
def readDottedKeys (total : Nat) : Nat → Reader (List Key)
  | 0, text => .error text
  | keys + 1, text =>
    match skipBlanks text with
    | 0x2E :: rest => do
      let (key, rest) ← readSimpleKey total (skipBlanks rest)
      let (more, rest) ← readDottedKeys total keys rest
      return (key :: more, rest)
    | text => .ok ([], text)

/-- Reads a dotted key as a path and its last key. -/
def readKey (total : Nat) : Reader (List Key × Key) := fun text => do
  let (first, rest) ← readSimpleKey total (skipBlanks text)
  let (more, rest) ← readDottedKeys total (depthLimit - 1) rest
  return (splitLast first more, rest)

/-! ## Numbers and dates -/

/-- Reads digits among which single underscores may stand: the digits, and the text behind. -/
def readDigits (isDigit : UInt8 → Bool) : Reader Bytes
  | [] => .error []
  | b :: rest =>
    if isDigit b then more [b] rest else .error (b :: rest)
where
  /-- Reads on behind digits, which come last first. -/
  more (digits : Bytes) : Reader Bytes
    | [] => .ok (digits.reverse, [])
    | 0x5F :: b :: rest =>
      if isDigit b then more (b :: digits) rest else .error (0x5F :: b :: rest)
    | b :: rest =>
      if isDigit b then more (b :: digits) rest
      else if b = 0x5F then .error (b :: rest)
      else .ok (digits.reverse, b :: rest)

/-- The value of digits of a radix. -/
def digitsValue (radix : Nat) (digits : Bytes) : Nat :=
  digits.foldl (fun n b => n * radix + (Numeral.digit? radix b).getD 0) 0

/-- Reads an integer of another radix from behind its two letters. -/
def readRadix (radix : Nat) : Reader Value := fun text => do
  let (digits, rest) ← readDigits (fun b => (Numeral.digit? radix b).isSome) text
  let value := digitsValue radix digits
  if value < Numeral.halfWord then return (.integer value, rest) else throw text

/-- Reads the digits in front of a point; a leading zero stands alone. -/
def readWhole : Reader Bytes
  | 0x30 :: rest => .ok ([0x30], rest)
  | text => readDigits isDigit text

/-- The number nearest to a decimal, unless it is too large. A number that is too large is
infinite, and only the negative infinity may be written that way. -/
def real? (negative : Bool) (digits : Bytes) (exponent : Int) : Option Real :=
  let significand := digitsValue 10 digits
  -- Beyond these powers every number but zero is infinite, or vanishes.
  let bound : Int := digits.length + 400
  let exponent := max (-bound) (min exponent bound)
  let rounded := match exponent with
    | .ofNat e => Binary64.ofRatio negative (significand * Nat.pow 10 e) 1
    | .negSucc e => Binary64.ofRatio negative significand (Nat.pow 10 (e + 1))
  match rounded with
  | some x => some (.finite x)
  | none => if negative then some .negativeInfinity else none

/-- Reads the exponent of a number, if there is one. -/
def readExponent : Reader (Option Int)
  | b :: rest =>
    if b = 0x65 || b = 0x45 then do
      let (negative, rest) := match rest with
        | 0x2B :: rest => (false, rest)
        | 0x2D :: rest => (true, rest)
        | rest => (false, rest)
      let (digits, rest) ← readDigits isDigit rest
      let size : Int := digitsValue 10 digits
      return (some (if negative then -size else size), rest)
    else .ok (none, b :: rest)
  | [] => .ok (none, [])

/-- Reads the digits behind the point of a number, if there is one. -/
def readFraction : Reader (Option Bytes)
  | 0x2E :: rest => do
    let (digits, rest) ← readDigits isDigit rest
    return (some digits, rest)
  | text => .ok (none, text)

/-- Reads a number from behind its sign. -/
def readUnsigned (negative : Bool) : Reader Value := fun text => do
  match text with
  | 0x69 :: 0x6E :: 0x66 :: rest =>
    return (.real (if negative then .negativeInfinity else .infinity), rest)
  | 0x6E :: 0x61 :: 0x6E :: rest => return (.real .notANumber, rest)
  | _ =>
    let (whole, rest) ← readWhole text
    let (fraction, rest) ← readFraction rest
    let (exponent, rest) ← readExponent rest
    match fraction, exponent with
    | none, none =>
      let value := digitsValue 10 whole
      if value < Numeral.halfWord || (negative && value = Numeral.halfWord) then
        return (.integer (if negative then -value else value), rest)
      else throw text
    | _, _ =>
      let fraction := fraction.getD []
      match real? negative (whole ++ fraction) (exponent.getD 0 - fraction.length) with
      | some x => return (.real x, rest)
      | none => throw text

/-- Reads a number of so many digits between two bounds. -/
def readField (digits low high : Nat) : Reader Nat := fun text =>
  let field := text.take digits
  let value := digitsValue 10 field
  if field.length = digits && field.all isDigit && low ≤ value && value ≤ high then
    .ok (value, text.drop digits)
  else .error text

/-- The number of days of a month. -/
def daysOf (year month : Nat) : Nat :=
  if month = 2 then
    if year % 4 = 0 && (year % 100 != 0 || year % 400 = 0) then 29 else 28
  else if month = 4 || month = 6 || month = 9 || month = 11 then 30
  else 31

/-- Reads a date. -/
def readDate : Reader Unit := fun text => do
  let (year, rest) ← readField 4 0 9999 text
  let ((), rest) ← expect 0x2D rest
  let (month, rest) ← readField 2 1 12 rest
  let ((), rest) ← expect 0x2D rest
  let (_, rest) ← readField 2 1 (daysOf year month) rest
  return ((), rest)

/-- Reads a time of day. -/
def readTime : Reader Unit := fun text => do
  let (_, rest) ← readField 2 0 23 text
  let ((), rest) ← expect 0x3A rest
  let (_, rest) ← readField 2 0 59 rest
  let ((), rest) ← expect 0x3A rest
  let (_, rest) ← readField 2 0 60 rest
  match rest with
  | 0x2E :: rest =>
    let (digits, rest) := rest.span isDigit
    if digits.isEmpty then throw rest
    return ((), rest)
  | _ => return ((), rest)

/-- Reads the distance of a time from the reference time, if it is there. -/
def readOffset : Reader Unit := fun text => do
  match text with
  | 0x5A :: rest | 0x7A :: rest => return ((), rest)
  | 0x2B :: rest | 0x2D :: rest =>
    let (_, rest) ← readField 2 0 23 rest
    let ((), rest) ← expect 0x3A rest
    let (_, rest) ← readField 2 0 59 rest
    return ((), rest)
  | _ => return ((), text)

/-- Reads a date, and the time behind it if there is one. A blank belongs to the date only when
a time follows it. -/
def readDateTime : Reader Value := fun text => do
  let ((), rest) ← readDate text
  match rest with
  | 0x54 :: time | 0x74 :: time =>
    let ((), rest) ← readTime time
    let ((), rest) ← readOffset rest
    return (.datetime, rest)
  | 0x20 :: time =>
    match readTime time with
    | .ok ((), rest) =>
      let ((), rest) ← readOffset rest
      return (.datetime, rest)
    | .error _ => return (.datetime, rest)
  | _ => return (.datetime, rest)

/-- Reads a number or a date. -/
def readNumber : Reader Value := fun text =>
  match text with
  | 0x30 :: 0x78 :: rest => readRadix 16 rest
  | 0x30 :: 0x6F :: rest => readRadix 8 rest
  | 0x30 :: 0x62 :: rest => readRadix 2 rest
  | 0x2B :: rest => readUnsigned false rest
  | 0x2D :: rest => readUnsigned true rest
  | _ =>
    let digits := (text.takeWhile isDigit).length
    match digits, text.drop digits with
    | 4, 0x2D :: _ => readDateTime text
    | 2, 0x3A :: _ => do
      let ((), rest) ← readTime text
      return (.datetime, rest)
    | _, _ => readUnsigned false text

/-! ## Values -/

/-- Reads a literal name. -/
def readName (name : String) (value : Value) : Reader Value := fun text =>
  let bytes := Bytes.ofString name
  if bytes.isPrefixOf text then .ok (value, text.drop bytes.length) else .error text

mutual

/-- Reads a value below so many arrays and inline tables. -/
def readValue (total : Nat) : Nat → Nat → Reader Value
  | 0, _, text => .error text
  | fuel + 1, depth, text =>
    match text with
    | [] => .error []
    | b :: rest =>
      if b = 0x22 || b = 0x27 then (readString text).map fun (s, rest) => (.string s, rest)
      else if b = 0x5B then
        if depth + 1 < depthLimit then do
          let (items, rest) ← readItems total fuel (depth + 1) rest
          return (.array items, rest)
        else .error rest
      else if b = 0x7B then
        if depth + 1 < depthLimit then do
          match skipBlanks rest with
          | 0x7D :: rest => return (.inline .empty, rest)
          | inside =>
            let (table, rest) ← readMembers total fuel (depth + 1) rest .empty inside
            return (.inline table, rest)
        else .error rest
      else if b = 0x2B || b = 0x2D || isDigit b then readNumber text
      else if b = 0x74 then readName "true" (.bool true) text
      else if b = 0x66 then readName "false" (.bool false) text
      else if b = 0x69 || b = 0x6E then readUnsigned false text
      else .error text

/-- Reads the items of an array up to its bracket. -/
def readItems (total : Nat) : Nat → Nat → Reader (List (Nat × Value))
  | 0, _, text => .error text
  | fuel + 1, depth, text =>
    match skipSpace (text.length + 1) text with
    | 0x5D :: rest => .ok ([], rest)
    | text => do
      let (value, rest) ← readValue total fuel depth text
      let item := (total - text.length, value)
      match skipSpace (rest.length + 1) rest with
      | 0x2C :: rest =>
        let (items, rest) ← readItems total fuel depth rest
        return (item :: items, rest)
      | 0x5D :: rest => return ([item], rest)
      | rest => throw rest

/-- Reads the members of an inline table up to its brace; `opening` is the text behind the other
brace. -/
def readMembers (total : Nat) : Nat → Nat → Bytes → Table → Reader Table
  | 0, _, _, _, text => .error text
  | fuel + 1, depth, opening, table, text => do
    let ((path, key), rest) ← readKey total text
    let ((), rest) ← expect 0x3D (skipBlanks rest)
    let rest := skipBlanks rest
    let (value, after) ← readValue total fuel depth rest
    match table.insert path key (total - rest.length) value with
    | none => throw opening
    | some table =>
      match skipBlanks after with
      | 0x2C :: rest => readMembers total fuel depth opening table rest
      | 0x7D :: rest => return (table, rest)
      | rest => throw rest

end

/-! ## Statements -/

/-- Reads a key and its value into the table that is being filled. -/
def readPair (total : Nat) (draft : Draft) : Reader Draft := fun text => do
  let ((path, key), rest) ← readKey total text
  let ((), rest) ← expect 0x3D (skipBlanks rest)
  let rest := skipBlanks rest
  let (value, after) ← readValue total (2 * rest.length + 2) 0 rest
  let ((), after) ← readLineEnd after
  match draft.current.insert path key (total - rest.length) value with
  | some current => return ({ draft with current }, after)
  | none => throw text

/-- Reads the header of a table. -/
def readHeader (total : Nat) (draft : Draft) : Reader Draft := fun text => do
  let start := total - text.length
  match text with
  | 0x5B :: 0x5B :: rest =>
    let ((path, key), rest) ← readKey total rest
    let ((), rest) ← expect 0x5D (skipBlanks rest)
    let ((), rest) ← expect 0x5D rest
    let ((), rest) ← readLineEnd rest
    match draft.openRepeated path key start with
    | some draft => return (draft, rest)
    | none => throw text
  | _ =>
    let ((), rest) ← expect 0x5B text
    let ((path, key), rest) ← readKey total rest
    let ((), rest) ← expect 0x5D (skipBlanks rest)
    let ((), rest) ← readLineEnd rest
    match draft.openTable path key start with
    | some draft => return (draft, rest)
    | none => throw text

/-- Reads statements to the end of the text, so many at most. -/
def readStatements (total : Nat) : Nat → Draft → Reader Draft
  | 0, _, text => .error text
  | statements + 1, draft, text =>
    match skipBlanks text with
    | [] => .ok (draft, [])
    | b :: rest =>
      if b = 0x23 || b = 0x0A || b = 0x0D then do
        let ((), rest) ← readLineEnd (b :: rest)
        readStatements total statements draft rest
      else if b = 0x5B then do
        let (draft, rest) ← readHeader total draft (b :: rest)
        readStatements total statements draft rest
      else do
        let (draft, rest) ← readPair total draft (b :: rest)
        readStatements total statements draft rest

/-- The text behind a byte order mark. -/
def skipMark : Bytes → Bytes
  | 0xEF :: 0xBB :: 0xBF :: rest => rest
  | text => text

/-- Reads a document. A text that is none is refused with the offset at which the reader has come
to stand. -/
def readDocument (text : Bytes) : Except Nat Table :=
  match readStatements text.length (text.length + 1) {} (skipMark text) with
  | .error rest => .error (text.length - rest.length)
  | .ok (draft, _) =>
    match draft.finish with
    | some table => .ok table
    | none => .error text.length

end ObjectTransfer.Toml
