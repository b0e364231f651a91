import Mathlib.Data.List.TakeDrop
import ObjectTransfer.Json.Printer
import ObjectTransfer.Json.Reader
import ObjectTransfer.Proofs.Text.Numerals

/-!
# Strings and numbers as they are written

A string is a row of parts, each a byte or an escape, and two code units may stand for one
character. A number is written in parts as well. Reading takes just the parts that were written,
whatever follows, and gives what they stand for.

The module introduces:

* `Json.TextPart`, with `TextPart.string? parts`: the text that a string of these parts stands for;
* `Json.Literal.Spells l t`: a text is that of a number in these parts.

Main statements: `Json.readText_parts`, `Json.Literal.Spells.read`; `Json.exists_printText` and
`Json.spells_printInt`, what is written for texts and integers is of that kind.
-/

namespace ObjectTransfer

namespace Json

/-! ## Strings -/

/-- The byte of a hexadecimal digit. -/
private def hexByte (d : Nat) : UInt8 :=
  if d < 10 then UInt8.ofNat (48 + d) else UInt8.ofNat (87 + d)

private theorem digit?_hexByte : ∀ d < 16, Numeral.digit? 16 (hexByte d) = some d := by
  decide

/-- A control character is escaped by the digits of its code. -/
private theorem ofString_hex : ∀ n < 32, Bytes.ofString ("\\u" ++ Numeral.hex 4 n) =
    [0x5C, 0x75, 0x30, 0x30, hexByte (n / 16), hexByte (n % 16)] := by
  decide +kernel

/-- A small code unit stands for the byte of its number. -/
private theorem codeUnit_of_lt : ∀ n < 32, isLowSurrogate n = false ∧ isHighSurrogate n = false ∧
    String.utf8EncodeChar (Char.ofNat n) = [UInt8.ofNat n] := by
  decide +kernel

@[simp]
theorem TextPiece.afterSurrogate_false (piece : TextPiece) :
    piece.afterSurrogate false = piece := by
  simp [afterSurrogate]

/-- The code unit of four hexadecimal digits. -/
def codeUnit? : Bytes → Option Nat
  | [a, b, c, d] => do
    let a ← Numeral.digit? 16 a
    let b ← Numeral.digit? 16 b
    let c ← Numeral.digit? 16 c
    let d ← Numeral.digit? 16 d
    return ((a * 16 + b) * 16 + c) * 16 + d
  | _ => none

/-- A part of a string. -/
inductive TextPart where
  /-- A byte that stands for itself. -/
  | byte (b : UInt8) (plain : b ≠ 0x22 ∧ b ≠ 0x5C ∧ 0x20 ≤ b)
  /-- An escape of one letter, with the byte that it stands for. -/
  | letter (e b : UInt8) (escape : unescape? e = some b)
  /-- A code unit in hexadecimal digits. -/
  | unit (digits : Bytes) (n : Nat) (code : codeUnit? digits = some n)

namespace TextPart

/-- The part as it is written. -/
def text : TextPart → Bytes
  | byte b _ => [b]
  | letter e _ _ => [0x5C, e]
  | unit digits _ _ => 0x5C :: 0x75 :: digits

/-- The bytes that parts stand for, behind the first half of a surrogate pair if there is one. Both
halves of a pair have to be there. -/
def content? : Option Nat → List TextPart → Option Bytes
  | none, [] => some []
  | some _, [] => none
  | none, byte b _ :: rest | none, letter _ b _ :: rest => (content? none rest).map (b :: ·)
  | none, unit _ n _ :: rest =>
    if isLowSurrogate n then none
    else if isHighSurrogate n then content? (some n) rest
    else (content? none rest).map (String.utf8EncodeChar (Char.ofNat n) ++ ·)
  | some high, unit _ n _ :: rest =>
    if isLowSurrogate n then
      (content? none rest).map
        (String.utf8EncodeChar (Char.ofNat (0x10000 + (high - 0xD800) * 0x400 + (n - 0xDC00))) ++ ·)
    else none
  | some _, byte _ _ :: _ | some _, letter _ _ _ :: _ => none

/-- The text that a string of these parts stands for, if it stands for one. -/
def string? (parts : List TextPart) : Option String :=
  (content? none parts).bind Bytes.toString?

/-- A string of these parts. -/
def quoted (parts : List TextPart) : Bytes :=
  0x22 :: (parts.flatMap text ++ [0x22])

end TextPart

/-- What is read in front of a quote is what the parts stand for, if no half of a pair stays
alone. -/
def TextPiece.Holds (piece : TextPiece) (content : Option Bytes) (rest : Bytes) : Prop :=
  piece.rest = rest ∧ content = if piece.paired then some piece.content else none

theorem TextPiece.Holds.prepend {piece : TextPiece} {content : Option Bytes} {rest : Bytes}
    (h : piece.Holds content rest) (bytes : Bytes) :
    (piece.prepend bytes).Holds (content.map (bytes ++ ·)) rest := by
  obtain ⟨hrest, rfl⟩ := h
  refine ⟨hrest, ?_⟩
  cases hpaired : piece.paired <;> simp [TextPiece.prepend, hpaired]

theorem TextPiece.Holds.unpaired {piece : TextPiece} {content : Option Bytes} {rest : Bytes}
    (h : piece.Holds content rest) (bytes : Bytes) :
    ((piece.prepend bytes).afterSurrogate true).Holds none rest :=
  ⟨h.1, by simp [TextPiece.afterSurrogate]⟩

/-- What a code unit adds is what it stands for behind the half of a pair that may be there. -/
private theorem TextPiece.Holds.acceptUnit {piece : TextPiece} {parts : List TextPart}
    {rest digits : Bytes} (pending : Option Nat) (n : Nat) (code : codeUnit? digits = some n)
    (h : piece.Holds (TextPart.content? (Json.acceptUnit pending n).2.1 parts) rest) :
    ((piece.prepend (Json.acceptUnit pending n).1).afterSurrogate
      (Json.acceptUnit pending n).2.2).Holds
      (TextPart.content? pending (.unit digits n code :: parts)) rest := by
  -- a low half belongs to the high half in front of it, and is refused without one
  by_cases hlow : isLowSurrogate n = true
  · cases pending with
    | none =>
      simp only [Json.acceptUnit, hlow, if_true, TextPart.content?] at h ⊢
      exact h.unpaired []
    | some high =>
      simp only [Json.acceptUnit, hlow, if_true, TextPart.content?, afterSurrogate_false] at h ⊢
      exact h.prepend _
  -- a high half waits for the low one; any other unit stands for itself
  · by_cases hhigh : isHighSurrogate n = true
    · cases pending with
      | none =>
        simp only [Json.acceptUnit, hlow, hhigh, if_true, Bool.false_eq_true, if_false,
          TextPart.content?, afterSurrogate_false] at h ⊢
        simpa using h.prepend []
      | some high =>
        simp only [Json.acceptUnit, hlow, hhigh, if_true, Bool.false_eq_true, if_false,
          TextPart.content?] at h ⊢
        exact h.unpaired []
    · cases pending with
      | none =>
        simp only [Json.acceptUnit, hlow, hhigh, Bool.false_eq_true, if_false, TextPart.content?,
          afterSurrogate_false] at h ⊢
        exact h.prepend _
      | some high =>
        simp only [Json.acceptUnit, hlow, hhigh, Bool.false_eq_true, if_false, TextPart.content?]
          at h ⊢
        exact h.unpaired _

/-- A code unit is read up to its last digit. -/
private theorem readText_codeUnit {digits : Bytes} {n : Nat} (code : codeUnit? digits = some n)
    (pending : Option Nat) (rest : Bytes) :
    readText pending .plain (0x5C :: 0x75 :: (digits ++ rest)) =
      (readText (acceptUnit pending n).2.1 .plain rest).map fun piece =>
        (piece.prepend (acceptUnit pending n).1).afterSurrogate (acceptUnit pending n).2.2 := by
  unfold codeUnit? at code
  split at code
  · next a b c d =>
    rcases ha : Numeral.digit? 16 a with _ | va <;> simp only [ha] at code
    · cases code
    rcases hb : Numeral.digit? 16 b with _ | vb <;> simp only [hb] at code
    · cases code
    rcases hc : Numeral.digit? 16 c with _ | vc <;> simp only [hc] at code
    · cases code
    rcases hd : Numeral.digit? 16 d with _ | vd <;> simp only [hd] at code
    · cases code
    obtain rfl : ((va * 16 + vb) * 16 + vc) * 16 + vd = n := by simpa using code
    simp [readText, ha, hb, hc, hd]
  · cases code

/-- The parts of a string are read up to the quote that ends it. -/
theorem readText_parts (pending : Option Nat) (parts : List TextPart) (rest : Bytes) :
    ∃ piece, readText pending .plain (parts.flatMap TextPart.text ++ 0x22 :: rest) = some piece ∧
      piece.Holds (TextPart.content? pending parts) rest := by
  induction parts generalizing pending with
  | nil =>
    refine ⟨⟨[], pending.isNone, rest⟩, by simp [readText], rfl, ?_⟩
    cases pending <;> rfl
  | cons part parts ih =>
    -- what stands behind the part is read with no half of a pair in front, or with one
    cases part with
    | byte b plain =>
      obtain ⟨hquote, hslash, hcontrol⟩ := plain
      obtain ⟨piece, hread, holds⟩ := ih none
      refine ⟨(piece.prepend [b]).afterSurrogate pending.isSome, ?_, ?_⟩
      · simp [TextPart.text, readText, hquote, hslash, UInt8.not_lt.2 hcontrol, hread]
      · cases pending with
        | none => simpa [TextPart.content?] using holds.prepend [b]
        | some high => exact holds.unpaired [b]
    | letter e b escape =>
      have hunit : e ≠ 0x75 := by
        rintro rfl
        cases escape
      obtain ⟨piece, hread, holds⟩ := ih none
      refine ⟨(piece.prepend [b]).afterSurrogate pending.isSome, ?_, ?_⟩
      · simp [TextPart.text, readText, hunit, escape, hread]
      · cases pending with
        | none => simpa [TextPart.content?] using holds.prepend [b]
        | some high => exact holds.unpaired [b]
    | unit digits n code =>
      have htext : (TextPart.unit digits n code :: parts).flatMap TextPart.text ++ 0x22 :: rest =
          0x5C :: 0x75 :: (digits ++ (parts.flatMap TextPart.text ++ 0x22 :: rest)) := by
        simp [TextPart.text]
      obtain ⟨piece, hread, holds⟩ := ih (acceptUnit pending n).2.1
      refine ⟨(piece.prepend (acceptUnit pending n).1).afterSurrogate (acceptUnit pending n).2.2,
        ?_, ?_⟩
      · rw [htext, readText_codeUnit code, hread]
        rfl
      · exact holds.acceptUnit pending n code

/-- A byte of a text is written as a part that stands for it. -/
private theorem exists_part (b : UInt8) : ∃ part : TextPart, part.text = escapeByte b ∧
    ∀ rest, TextPart.content? none (part :: rest) = (TextPart.content? none rest).map (b :: ·) := by
  unfold escapeByte
  -- two characters and five control characters have an escape of one letter
  iterate 7
    split
    · next h => subst h; exact ⟨.letter _ _ rfl, rfl, fun _ => rfl⟩
  split
  · next hcontrol =>
    have hlt : b.toNat < 32 := by simpa using UInt8.lt_iff_toNat_lt.1 hcontrol
    have hx := digit?_hexByte (b.toNat / 16) (by omega)
    have hy := digit?_hexByte (b.toNat % 16) (by omega)
    have h0 : Numeral.digit? 16 0x30 = some 0 := by decide
    have hn : b.toNat / 16 * 16 + b.toNat % 16 = b.toNat := by omega
    obtain ⟨hlow, hhigh, hencode⟩ := codeUnit_of_lt b.toNat hlt
    refine ⟨.unit [0x30, 0x30, hexByte (b.toNat / 16), hexByte (b.toNat % 16)] b.toNat ?_, ?_, ?_⟩
    · simp [codeUnit?, h0, hx, hy, hn]
    · rw [ofString_hex _ hlt]
      rfl
    · intro rest
      simp [TextPart.content?, hlow, hhigh, hencode]
  · next hplain =>
    have hquote : b ≠ 0x22 := by assumption
    have hslash : b ≠ 0x5C := by assumption
    exact ⟨.byte b ⟨hquote, hslash, UInt8.not_lt.1 hplain⟩, rfl, fun _ => rfl⟩

/-- What is written for a text is a string whose parts stand for it. -/
theorem exists_printText (s : String) :
    ∃ parts, printText s = TextPart.quoted parts ∧ TextPart.string? parts = some s := by
  have hparts (content : Bytes) : ∃ parts,
      content.flatMap escapeByte = parts.flatMap TextPart.text ∧
      TextPart.content? none parts = some content := by
    induction content with
    | nil => exact ⟨[], rfl, rfl⟩
    | cons b content ih =>
      obtain ⟨part, htext, hpart⟩ := exists_part b
      obtain ⟨parts, hrest, hcontent⟩ := ih
      refine ⟨part :: parts, ?_, ?_⟩
      · rw [List.flatMap_cons, List.flatMap_cons, htext, hrest]
      · rw [hpart, hcontent]
        rfl
  obtain ⟨parts, htext, hcontent⟩ := hparts (Bytes.ofString s)
  refine ⟨parts, ?_, ?_⟩
  · rw [printText, TextPart.quoted, htext]
  · simp [TextPart.string?, hcontent]

/-- A string is read as what its parts stand for. -/
theorem readText_quoted (parts : List TextPart) (rest : Bytes) :
    ∃ piece, readText none .plain (parts.flatMap TextPart.text ++ 0x22 :: rest) = some piece ∧
      piece.rest = rest ∧ piece.text? = TextPart.string? parts := by
  obtain ⟨piece, hread, hrest, hcontent⟩ := readText_parts none parts rest
  refine ⟨piece, hread, hrest, ?_⟩
  rw [TextPiece.text?, TextPart.string?, hcontent]
  cases piece.paired <;> rfl

/-! ## Numbers -/

/-- Whether a text does not go on with what a number could go on with. -/
def EndsNumber (rest : Bytes) : Prop :=
  ∀ b ∈ rest.head?, isDigit b = false ∧ b ≠ 0x2E ∧ b ≠ 0x65 ∧ b ≠ 0x45

/-- Whether a text is made of digits, and not empty. -/
def IsDigits (text : Bytes) : Prop :=
  text ≠ [] ∧ ∀ b ∈ text, isDigit b = true

/-- Whether a text is that of an exponent, or empty if there is none. -/
inductive SpellsExponent : Option (Bool × Bytes) → Bytes → Prop
  | none : SpellsExponent none []
  | unsigned {mark : UInt8} {digits : Bytes} (hmark : mark = 0x65 ∨ mark = 0x45)
      (hdigits : IsDigits digits) : SpellsExponent (some (false, digits)) (mark :: digits)
  | positive {mark : UInt8} {digits : Bytes} (hmark : mark = 0x65 ∨ mark = 0x45)
      (hdigits : IsDigits digits) : SpellsExponent (some (false, digits)) (mark :: 0x2B :: digits)
  | negative {mark : UInt8} {digits : Bytes} (hmark : mark = 0x65 ∨ mark = 0x45)
      (hdigits : IsDigits digits) : SpellsExponent (some (true, digits)) (mark :: 0x2D :: digits)

/-- Whether a text is that of a number in these parts: a minus sign if it is negative, digits of
which a zero in front stands alone, a point and digits if there is a fraction, and an exponent. -/
structure Literal.Spells (l : Literal) (text : Bytes) : Prop where
  whole : IsDigits l.whole
  leading : ∀ b more, l.whole ≠ 0x30 :: b :: more
  fraction : ∀ digits ∈ l.fraction, IsDigits digits
  parts : ∃ exponent, SpellsExponent l.exponent exponent ∧
    text = (if l.negative then [0x2D] else []) ++
      (l.whole ++ (l.fraction.elim [] (0x2E :: ·) ++ exponent))

theorem isDigit_iff {b : UInt8} : isDigit b = true ↔ Numeral.IsDigit b := by
  simp [isDigit, Numeral.IsDigit, UInt8.le_iff_toNat_le]

theorem isDigits_decimal (n : Nat) : IsDigits (Numeral.decimal n) :=
  ⟨Numeral.decimal_ne_nil n, fun _ hb => isDigit_iff.2 (Numeral.isDigit_of_mem_decimal hb)⟩

/-- The digits in front of a text that does not go on with one are all that were written. -/
theorem takeDigits_append {digits rest : Bytes} (h : IsDigits digits)
    (ends : ∀ b ∈ rest.head?, isDigit b = false) :
    takeDigits (digits ++ rest) = (digits, rest) := by
  have hrest : rest.takeWhile isDigit = [] ∧ rest.dropWhile isDigit = rest := by
    rcases rest with _ | ⟨b, rest⟩
    · exact ⟨rfl, rfl⟩
    · simp [ends b (by simp)]
  simp [takeDigits, List.span_eq_takeWhile_dropWhile, List.takeWhile_append_of_pos h.2,
    List.dropWhile_append_of_pos h.2, hrest]

/-- An exponent is read, or seen not to be there. -/
theorem SpellsExponent.read {exponent : Option (Bool × Bytes)} {text rest : Bytes}
    (h : SpellsExponent exponent text) (ends : EndsNumber rest) :
    readExponent (text ++ rest) = some (exponent, rest) := by
  have hdigits (negative : Bool) {digits : Bytes} (h : IsDigits digits) :
      readExponentDigits negative (digits ++ rest) = some (some (negative, digits), rest) := by
    rw [readExponentDigits, takeDigits_append h fun b hb => (ends b hb).1]
    split
    · next heq =>
      cases heq
      exact absurd rfl h.1
    · next heq =>
      cases heq
      rfl
  cases h with
  | none =>
    rcases rest with _ | ⟨b, rest⟩
    · rfl
    · have := (ends b (by simp)).2.2
      simp [readExponent, this]
  | @unsigned mark digits hmark h =>
    -- a digit is no sign
    have sign (c : UInt8) (more : Bytes) (hc : isDigit c = false) : digits ++ rest ≠ c :: more := by
      intro heq
      rcases digits with _ | ⟨d, digits⟩
      · exact h.1 rfl
      · obtain ⟨rfl, -⟩ := List.cons.inj heq
        rw [h.2 d (by simp)] at hc
        cases hc
    rw [List.cons_append, readExponent, if_pos (by simpa using hmark), hdigits false h]
    · exact fun more => sign 0x2B more (by decide)
    · exact fun more => sign 0x2D more (by decide)
  | positive hmark h => simp [readExponent, hmark, hdigits false h]
  | negative hmark h => simp [readExponent, hmark, hdigits true h]

/-- Behind the digits of a number there is its exponent, or what ends it. -/
private theorem SpellsExponent.head {exponent : Option (Bool × Bytes)} {text rest : Bytes}
    (h : SpellsExponent exponent text) (ends : EndsNumber rest) :
    ∀ b ∈ (text ++ rest).head?, isDigit b = false ∧ b ≠ 0x2E := by
  have mark {b : UInt8} (hmark : b = 0x65 ∨ b = 0x45) : isDigit b = false ∧ b ≠ 0x2E := by
    rcases hmark with rfl | rfl <;> decide
  cases h with
  | none => exact fun b hb => ⟨(ends b hb).1, (ends b hb).2.1⟩
  | unsigned hmark | positive hmark | negative hmark => simpa using mark hmark

/-- The digits of a number, its fraction and its exponent are read in front of a text that ends
it. -/
private theorem Literal.Spells.readUnsigned {l : Literal} {text exponent rest : Bytes}
    (h : l.Spells text) (hexponent : SpellsExponent l.exponent exponent) (ends : EndsNumber rest) :
    readUnsigned l.negative (l.whole ++ (l.fraction.elim [] (0x2E :: ·) ++ exponent) ++ rest) =
      some (l, rest) := by
  obtain ⟨negative, whole, fraction, exponent'⟩ := l
  have behind := hexponent.head ends
  -- the digits end at the point, at the mark of the exponent, or at what follows
  have hfraction : readFraction (fraction.elim [] (0x2E :: ·) ++ (exponent ++ rest)) =
      some (fraction, exponent ++ rest) := by
    cases fraction with
    | none =>
      rw [Option.elim_none, List.nil_append, readFraction]
      exact fun more heq => (behind 0x2E (by simp [heq])).2 rfl
    | some digits =>
      have hdigits : IsDigits digits := h.fraction digits rfl
      rw [Option.elim_some, List.cons_append, readFraction,
        takeDigits_append hdigits fun b hb => (behind b hb).1]
      split
      · next heq =>
        cases heq
        exact absurd rfl hdigits.1
      · next heq =>
        cases heq
        rfl
  have hwhole : takeDigits (whole ++ (fraction.elim [] (0x2E :: ·) ++ (exponent ++ rest))) =
      (whole, fraction.elim [] (0x2E :: ·) ++ (exponent ++ rest)) := by
    refine takeDigits_append h.whole ?_
    cases fraction with
    | none => exact fun b hb => (behind b hb).1
    | some digits => simp [isDigit]
  rw [List.append_assoc, List.append_assoc, Json.readUnsigned, hwhole]
  dsimp only
  split
  · exact absurd rfl h.whole.1
  · exact absurd rfl (h.leading _ _)
  · simp [hfraction, hexponent.read ends]

/-- A number is written with a sign or a digit in front. -/
theorem Literal.Spells.eq_cons {l : Literal} {text : Bytes} (h : l.Spells text) :
    ∃ b rest, text = b :: rest ∧ (b = 0x2D ∨ isDigit b = true) := by
  obtain ⟨exponent, -, rfl⟩ := h.parts
  cases l.negative with
  | true => exact ⟨0x2D, _, rfl, .inl rfl⟩
  | false =>
    obtain ⟨b, digits, hwhole⟩ := List.exists_cons_of_ne_nil h.whole.1
    exact ⟨b, _, by rw [hwhole]; rfl, .inr (h.whole.2 b (by simp [hwhole]))⟩

/-- The parts of a number are read in front of a text that ends it. -/
theorem Literal.Spells.read {l : Literal} {text rest : Bytes} (h : l.Spells text)
    (ends : EndsNumber rest) : readLiteral (text ++ rest) = some (l, rest) := by
  obtain ⟨exponent, hexponent, rfl⟩ := h.parts
  have hread := h.readUnsigned hexponent ends
  rcases hsign : l.negative with _ | _ <;> rw [hsign] at hread
  -- a digit is no minus sign
  · have nosign (more : Bytes) :
        l.whole ++ (l.fraction.elim [] (0x2E :: ·) ++ exponent) ++ rest ≠ 0x2D :: more := by
      obtain ⟨b, digits, hwhole⟩ := List.exists_cons_of_ne_nil h.whole.1
      have hb : isDigit b = true := h.whole.2 b (by simp [hwhole])
      rw [hwhole]
      rintro heq
      obtain ⟨rfl, -⟩ := List.cons.inj heq
      cases hb
    rw [if_neg (by simp), List.nil_append, readLiteral.eq_2 _ nosign, hread]
  · exact hread

/-! ## Integers -/

/-- The digits of a number have its value. -/
theorem digitsValue_decimal (n : Nat) : digitsValue 0 (Numeral.decimal n) = n := by
  have hfold (cs : List Char) (value : Nat) (digits : ∀ c ∈ cs, c.isDigit = true) :
      digitsValue value (cs.map Bytes.ascii) = Nat.ofDigitChars 10 cs value := by
    induction cs generalizing value with
    | nil => simp [digitsValue]
    | cons c cs ih =>
      have hc := Numeral.toNat_ascii_of_isDigit (digits c (by simp))
      rw [Nat.ofDigitChars_cons, Nat.mul_comm, ← ih _ fun c' hc' => digits c' (by simp [hc'])]
      simp [digitsValue, hc]
  rw [Numeral.decimal, hfold _ _ fun c hc => Nat.isDigit_of_mem_toDigits (by decide) (by decide) hc]
  simp

/-- The parts of an integer. -/
def Literal.ofInt (n : Int) : Literal where
  negative := n < 0
  whole := Numeral.decimal n.natAbs
  fraction := none
  exponent := none

/-- An integer is written in its parts. -/
theorem spells_printInt (n : Int) : (Literal.ofInt n).Spells (printInt n) where
  whole := isDigits_decimal n.natAbs
  leading b more := Numeral.decimal_ne_cons_cons n.natAbs b more
  fraction _ h := by cases h
  parts := by
    refine ⟨[], .none, ?_⟩
    rcases n with n | n
    · simp [printInt, Literal.ofInt]
    · simp [printInt, Literal.ofInt, Int.negSucc_lt_zero]

/-- The parts of an integer stand for it, unless it is too large for 64 bits: then it is rounded. -/
theorem Literal.toNumber_ofInt (n : Int) : (ofInt n).toNumber =
    if -Numeral.halfWord ≤ n ∧ n < UInt64.size then .integer n else (ofInt n).toReal := by
  have hnumber : (ofInt n).toNumber = if n < 0 then
        if 0 < n.natAbs ∧ n.natAbs ≤ Numeral.halfWord then .integer (-n.natAbs) else
        (ofInt n).toReal
      else if n.natAbs < UInt64.size then .integer n.natAbs else (ofInt n).toReal := by
    by_cases hneg : n < 0 <;> simp [toNumber, ofInt, digitsValue_decimal, hneg]
  rw [hnumber]
  by_cases hneg : n < 0
  · have habs : -(n.natAbs : Int) = n := by omega
    rw [if_pos hneg, habs]
    exact if_congr (by simp only [UInt64.size]; omega) rfl rfl
  · have habs : (n.natAbs : Int) = n := by omega
    rw [if_neg hneg, habs]
    exact if_congr (by simp only [Numeral.halfWord]; omega) rfl rfl

/-- What is rounded is no integer. -/
private theorem Literal.toReal_ne_integer (l : Literal) (n : Int) : l.toReal ≠ .integer n := by
  unfold toReal
  dsimp only
  split
  · split <;> simp
  · split
    · split <;> simp
    · split <;> simp

/-- The parts of an integer stand for no other integer. -/
theorem Literal.eq_of_toNumber_ofInt {n m : Int} (h : (ofInt n).toNumber = .integer m) : m = n := by
  rw [toNumber_ofInt] at h
  split at h
  · exact (Number.integer.inj h).symm
  · exact absurd h ((ofInt n).toReal_ne_integer m)

end Json

end ObjectTransfer
