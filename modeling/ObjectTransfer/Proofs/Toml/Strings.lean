import ObjectTransfer.Proofs.Text.Utf8
import ObjectTransfer.Toml.Reader
import ObjectTransfer.Toml.Text

/-!
# TOML strings are read back

A string is written in the first of four styles that suits it. Whatever the style, the reader takes
just the bytes that were written and gives back the text.

The module introduces:

* `Toml.RunsWithin b limit run text`: no run of a byte is longer than the limit, if a run of that
  length comes before the text;
* `StringStyle.Suits`: what a text must be like to be written in a style.

Main statements: `Toml.suits_choose`, the style that is chosen suits the text;
`Toml.readString_printString`; and `Toml.isText_printString`, what is written is UTF-8.
-/

namespace ObjectTransfer

namespace Toml

/-! ## Escapes -/

/-- The byte of an upper-case hexadecimal digit. -/
private def upperByte (d : Nat) : UInt8 :=
  if d < 10 then UInt8.ofNat (48 + d) else UInt8.ofNat (55 + d)

private theorem digit?_upperByte : ∀ d < 16, Numeral.digit? 16 (upperByte d) = some d := by
  decide

/-- A control character is escaped by the digits of its code. -/
private theorem ofString_upperHex : ∀ n < 128, Bytes.ofString ((Numeral.hex 4 n).toUpper) =
    [0x30, 0x30, upperByte (n / 16), upperByte (n % 16)] := by
  decide +kernel

/-- The code of a control character is read back as the character. -/
private theorem readEscape_code {n : Nat} (h : n < 128) (rest : Bytes) :
    readEscape (0x75 :: (Bytes.ofString ((Numeral.hex 4 n).toUpper) ++ rest)) =
      .ok ([UInt8.ofNat n], rest) := by
  have h0 : Numeral.digit? 16 0x30 = some 0 := by decide
  have hx := digit?_upperByte (n / 16) (by omega)
  have hy := digit?_upperByte (n % 16) (by omega)
  have hn : n / 16 * 16 + n % 16 = n := by omega
  have hhex : readHex 4 0 ([0x30, 0x30, upperByte (n / 16), upperByte (n % 16)] ++ rest) =
      .ok (n, rest) := by
    simp [readHex, h0, hx, hy, hn]
  have hscalar : n < 0x110000 ∧ ¬(0xD800 ≤ n ∧ n ≤ 0xDFFF) := by omega
  have hread : readScalar 4 ([0x30, 0x30, upperByte (n / 16), upperByte (n % 16)] ++ rest) =
      .ok ([UInt8.ofNat n], rest) := by
    rw [readScalar, hhex]
    simp only [bind, Except.bind, if_pos hscalar, Bytes.utf8EncodeChar_ofNat n h]
    rfl
  rw [ofString_upperHex n h, readEscape, hread]
  simp

/-- Whether a text behind a backslash is an escape of a byte, and does not join lines. -/
structure IsEscape (code : Bytes) (b : UInt8) : Prop where
  read : ∀ rest, readEscape (code ++ rest) = .ok ([b], rest)
  joins : ∀ rest, joinLines? (code ++ rest) = none

/-- The escapes of a single letter. -/
private theorem isEscape_letter {c b : UInt8} (h : (c, b) ∈ [((0x62 : UInt8), (0x08 : UInt8)),
    (0x74, 0x09), (0x6E, 0x0A), (0x66, 0x0C), (0x72, 0x0D), (0x5C, 0x5C)]) :
    IsEscape [c] b := by
  simp only [List.mem_cons, Prod.mk.injEq, List.not_mem_nil, or_false] at h
  rcases h with ⟨rfl, rfl⟩ | ⟨rfl, rfl⟩ | ⟨rfl, rfl⟩ | ⟨rfl, rfl⟩ | ⟨rfl, rfl⟩ | ⟨rfl, rfl⟩ <;>
    exact ⟨fun _ => by simp [readEscape], fun _ => by
      simp [joinLines?, skipBlanks, isBlank, newline?]⟩

/-- The escape of a control character by its code. -/
private theorem isEscape_code {b : UInt8} (low : b.toNat < 128) :
    IsEscape (0x75 :: Bytes.ofString ((Numeral.hex 4 b.toNat).toUpper)) b where
  read rest := by
    have hcode := readEscape_code low rest
    rwa [UInt8.ofNat_toNat] at hcode
  joins rest := by simp [joinLines?, skipBlanks, isBlank, newline?]

/-- How a byte other than a quote stands in a basic string: as it is, or as an escape that is read
back. -/
theorem escapeByte_cases (multiline : Bool) {b : UInt8} (hb : b ≠ 0x22) :
    escapeByte multiline b = [b] ∧ b ≠ 0x5C ∧
        (isPlain b = true ∧ b ≠ 0x0A ∨ multiline = true ∧ b = 0x0A) ∨
      ∃ code, escapeByte multiline b = 0x5C :: code ∧ IsEscape code b := by
  unfold escapeByte
  split
  · next h => exact .inr ⟨_, rfl, isEscape_letter (by simp [h])⟩
  split
  · next h => exact .inr ⟨_, rfl, isEscape_letter (by simp [h])⟩
  split
  -- a line end needs no escape where there may be several lines
  · next h =>
    cases multiline
    · exact .inr ⟨_, rfl, isEscape_letter (by simp [h])⟩
    · exact .inl ⟨by simp [h], by simp [h], .inr ⟨rfl, h⟩⟩
  split
  · next h => exact .inr ⟨_, rfl, isEscape_letter (by simp [h])⟩
  split
  · next h => exact .inr ⟨_, rfl, isEscape_letter (by simp [h])⟩
  split
  · next h => exact .inr ⟨_, rfl, isEscape_letter (by simp [h])⟩
  split
  · next hcontrol =>
    refine .inr ⟨_, rfl, isEscape_code ?_⟩
    simp only [Bool.or_eq_true, decide_eq_true_eq, UInt8.lt_iff_toNat_lt] at hcontrol
    rcases hcontrol with hlow | rfl
    · exact Nat.lt_trans hlow (by decide)
    · decide
  · next hline _ _ hslash hplain =>
    refine .inl ⟨rfl, hslash, .inl ⟨?_, hline⟩⟩
    simp only [Bool.or_eq_true, decide_eq_true_eq, not_or, UInt8.not_lt] at hplain
    simp [isPlain, hplain]

/-- No byte other than a quote begins with one. -/
theorem head?_escapeByte (multiline : Bool) {b : UInt8} (hb : b ≠ 0x22) (rest : Bytes) :
    (escapeByte multiline b ++ rest).head? ≠ some 0x22 := by
  rcases escapeByte_cases multiline hb with ⟨heq, -⟩ | ⟨code, heq, -⟩
  · simp [heq, hb]
  · simp [heq]

/-- A byte that needs no escape may stand in a comment or is a line end. -/
theorem plain_or_line {b : UInt8} (h : needsEscape b = false) :
    isPlain b = true ∧ b ≠ 0x0A ∨ b = 0x0A := by
  by_cases hline : b = 0x0A
  · exact .inr hline
  · refine .inl ⟨?_, hline⟩
    by_cases htab : b = 0x09
    · simp [isPlain, htab]
    · simp [needsEscape, hline, htab] at h
      simp [isPlain, h]

/-- What is more than something is a successor. -/
private theorem exists_eq_succ {m n : Nat} (h : m < n) : ∃ k, n = k + 1 :=
  ⟨n - 1, by omega⟩

/-! ## Strings in one line -/

/-- A basic string is read back up to the quote that ends it. -/
theorem readBasic_escapeText (content rest : Bytes) {n : Nat}
    (enough : (escapeText false 0 content).length < n) :
    readBasic n (escapeText false 0 content ++ 0x22 :: rest) = .ok (content, rest) := by
  induction content generalizing n with
  | nil =>
    obtain ⟨n, rfl⟩ := exists_eq_succ enough
    simp [escapeText, readBasic]
  | cons b content ih =>
    obtain ⟨n, rfl⟩ := exists_eq_succ enough
    rw [escapeText] at enough ⊢
    by_cases hb : b = 0x22
    · simp only [hb, if_true, Bool.false_eq_true, if_false, Nat.lt_irrefl, List.length_cons,
        List.cons_append] at enough ⊢
      have hread : readEscape (0x22 :: (escapeText false 0 content ++ 0x22 :: rest)) =
          .ok ([0x22], escapeText false 0 content ++ 0x22 :: rest) := by simp [readEscape]
      simp [readBasic, hread, ih (n := n) (by omega), prepend]
    · simp only [hb, if_false, List.length_append, List.append_assoc] at enough ⊢
      rcases escapeByte_cases false hb with ⟨heq, hslash, ⟨hplain, -⟩ | ⟨hfalse, -⟩⟩ |
        ⟨code, heq, hread, -⟩
      · rw [heq] at enough ⊢
        simp only [List.length_singleton] at enough
        simp [readBasic, hb, hslash, hplain, ih (n := n) (by omega), prepend]
      -- a line end is escaped in a string of one line
      · cases hfalse
      · rw [heq] at enough ⊢
        simp only [List.length_cons] at enough
        simp [readBasic, hread, ih (n := n) (by omega), prepend]

/-- A literal string is read back up to the quote that ends it. -/
theorem readLiteral_append {content : Bytes} (rest : Bytes)
    (h : ∀ b ∈ content, b ≠ 0x27 ∧ isPlain b = true) :
    readLiteral (content ++ 0x27 :: rest) = .ok (content, rest) := by
  induction content with
  | nil => simp [readLiteral]
  | cons b content ih =>
    obtain ⟨hquote, hplain⟩ := h b (by simp)
    rw [List.cons_append, readLiteral, ih fun c hc => h c (by simp [hc])]
    simp [hquote, hplain, prepend]

/-! ## Strings of several lines -/

/-- Whether no run of a byte in a text is longer than a limit, if a run of that length comes before
the text. -/
def RunsWithin (b : UInt8) (limit : Nat) : Nat → Bytes → Prop
  | _, [] => True
  | k, c :: rest =>
    if c = b then k + 1 ≤ limit ∧ RunsWithin b limit (k + 1) rest else RunsWithin b limit 0 rest

/-- No run is longer than the longest. -/
theorem runsWithin_of_longestRun {b : UInt8} {limit : Nat} {text : Bytes}
    (h : longestRun b text ≤ limit) : RunsWithin b limit 0 text := by
  let next : Nat × Nat → UInt8 → Nat × Nat := fun runs c =>
    if c = b then (max runs.1 (runs.2 + 1), runs.2 + 1) else (runs.1, 0)
  -- the longest run so far only grows
  have grows (text : Bytes) (longest k : Nat) : longest ≤ (text.foldl next (longest, k)).1 := by
    induction text generalizing longest k with
    | nil => exact Nat.le_refl longest
    | cons c rest ih =>
      rw [List.foldl_cons]
      by_cases hc : c = b
      · simp only [next, hc, if_true]
        exact Nat.le_trans (Nat.le_max_left _ _) (ih _ _)
      · simp only [next, hc, if_false]
        exact ih _ _
  suffices within : ∀ (text : Bytes) (longest k : Nat),
      (text.foldl next (longest, k)).1 ≤ limit → RunsWithin b limit k text from within text 0 0 h
  intro text
  induction text with
  | nil => exact fun _ _ _ => trivial
  | cons c rest ih =>
    intro longest k hle
    rw [List.foldl_cons] at hle
    rw [RunsWithin]
    by_cases hc : c = b
    · simp only [next, hc, if_true] at hle ⊢
      exact ⟨Nat.le_trans (Nat.le_trans (Nat.le_max_right _ _) (grows rest _ _)) hle, ih _ _ hle⟩
    · simp only [next, hc, if_false] at hle ⊢
      exact ih _ _ hle

/-- The quote of a multi-line string. -/
def quoteOf (l : Bool) : UInt8 :=
  if l then 0x27 else 0x22

section Multiline

variable {l : Bool} {k n : Nat} {content rest text : Bytes}

/-- Quotes in front of something else are as many as they are. -/
private theorem takeWhile_run (quote : UInt8) (k : Nat) (h : text.head? ≠ some quote) :
    (List.replicate k quote ++ text).takeWhile (· = quote) = List.replicate k quote := by
  rw [List.takeWhile_append_of_pos (by simp)]
  rcases text with _ | ⟨b, text⟩
  · simp
  · have hb : b ≠ quote := by simpa using h
    simp [hb]

/-- Whether an ending ends a multi-line string in front of the rest, also behind up to two quotes
that belong to the string. -/
def Closes (l : Bool) (ending rest : Bytes) : Prop :=
  ∀ k ≤ 2, ∀ n, readMultiline l (n + 1)
    (List.replicate k (quoteOf l) ++ ending) = .ok (List.replicate k (quoteOf l), rest)

/-- Three quotes end a string, and up to two in front of them belong to it. -/
theorem closes_quotes (ends : rest.head? ≠ some (quoteOf l)) :
    Closes l (List.replicate 3 (quoteOf l) ++ rest) rest := by
  intro k small n
  have hall : List.replicate k (quoteOf l) ++ (List.replicate 3 (quoteOf l) ++ rest) =
      List.replicate (k + 3) (quoteOf l) ++ rest := by
    rw [← List.append_assoc, List.replicate_append_replicate]
  have hquotes : quotes (quoteOf l) (List.replicate (k + 3) (quoteOf l) ++ rest) =
      (k, some rest) := by
    have hlength : (List.replicate (k + 3) (quoteOf l)).length = k + 3 := by simp
    have hmin : min k 2 = k := Nat.min_eq_left small
    simp only [quotes, takeWhile_run _ _ ends, hlength]
    rw [if_neg (by omega), Nat.add_sub_cancel, hmin, List.drop_left' hlength]
  rw [hall, List.replicate_succ, List.cons_append, readMultiline, ← List.cons_append,
    ← List.replicate_succ]
  simp only [show (if l then (0x27 : UInt8) else 0x22) = quoteOf l from rfl, if_true,
    hquotes]

/-- One or two quotes in front of something else belong to a string. -/
theorem readMultiline_run (small : k + 1 ≤ 2) (other : text.head? ≠ some (quoteOf l)) :
    readMultiline l (n + 1) (List.replicate (k + 1) (quoteOf l) ++ text) =
      prepend (List.replicate (k + 1) (quoteOf l)) (readMultiline l n text) := by
  have hlength : (List.replicate (k + 1) (quoteOf l)).length = k + 1 := by simp
  have hquotes : quotes (quoteOf l) (List.replicate (k + 1) (quoteOf l) ++ text) =
      (k + 1, none) := by
    simp only [quotes, takeWhile_run _ _ other, hlength]
    rw [if_pos (by omega)]
  rw [List.replicate_succ, List.cons_append, readMultiline, ← List.cons_append,
    ← List.replicate_succ]
  simp only [show (if l then (0x27 : UInt8) else 0x22) = quoteOf l from rfl, if_true,
    hquotes, List.drop_left' hlength]

/-- What is read from something on is read behind quotes as well. -/
theorem readMultiline_afterRun (small : k ≤ 2) (other : text.head? ≠ some (quoteOf l))
    (h : ∀ n, text.length < n → readMultiline l n text = .ok (content, rest))
    (enough : k + text.length < n) :
    readMultiline l n (List.replicate k (quoteOf l) ++ text) =
      .ok (List.replicate k (quoteOf l) ++ content, rest) := by
  rcases k with _ | k
  · exact h n (by omega)
  · obtain ⟨n, rfl⟩ := exists_eq_succ enough
    rw [readMultiline_run small other, h n (by omega)]
    rfl

end Multiline

/-- A byte that stands as it is in a multi-line string, or is a line end, is read as it is. -/
private theorem readMultiline_byte (l : Bool) {b : UInt8} (hquote : b ≠ quoteOf l)
    (hslash : l = true ∨ b ≠ 0x5C) (hplain : isPlain b = true ∧ b ≠ 0x0A ∨ b = 0x0A)
    (n : Nat) (text : Bytes) :
    readMultiline l (n + 1) (b :: text) =
      prepend [b] (readMultiline l n text) := by
  have hslash' : (b = 0x5C && !l) = false := by
    rcases hslash with rfl | hne
    · simp
    · simp [hne]
  rw [readMultiline]
  simp only [show (if l then (0x27 : UInt8) else 0x22) = quoteOf l from rfl,
    if_neg hquote]
  rw [hslash']
  simp only [Bool.false_eq_true, if_false]
  rcases hplain with ⟨hplain, hline⟩ | rfl
  -- neither a line end nor the first byte of one
  · have hreturn : b ≠ 0x0D := by rintro rfl; simp [isPlain] at hplain
    have hnone : newline? (b :: text) = none := by
      unfold newline?
      split <;> simp_all
    rw [hnone, if_pos hplain]
  · rfl

/-- A multi-line basic string is read back, quotes in front of it included. -/
theorem readMultiline_escapeText (content : Bytes) {ending rest : Bytes} {k n : Nat}
    (closes : Closes false ending rest) (small : k ≤ 2)
    (enough : k + (escapeText true k content ++ ending).length < n) :
    readMultiline false n (List.replicate k 0x22 ++ (escapeText true k content ++ ending)) =
      .ok (List.replicate k 0x22 ++ content, rest) := by
  induction content generalizing k n with
  | nil =>
    obtain ⟨n, rfl⟩ := exists_eq_succ enough
    rw [List.append_nil]
    exact closes k small n
  | cons b content ih =>
    rw [escapeText] at enough ⊢
    by_cases hb : b = 0x22
    · simp only [hb, if_true] at enough ⊢
      by_cases hrun : k < 2
      -- the quote is one more in front of what follows
      · simp only [hrun, if_true, List.length_cons, List.cons_append] at enough ⊢
        have hmore := ih (k := k + 1) (n := n) (by omega) (by omega)
        rw [List.replicate_succ'] at hmore
        simpa using hmore
      -- the quote is escaped
      · simp only [hrun, if_false, List.cons_append] at enough ⊢
        apply readMultiline_afterRun (l := false) small (by simp [quoteOf]) ?_ enough
        intro n enough
        obtain ⟨n, rfl⟩ := exists_eq_succ enough
        have hread := ih (k := 0) (n := n) (by omega) (by simp at enough ⊢; omega)
        have hescape (text : Bytes) : readEscape (0x22 :: text) = .ok ([0x22], text) := by
          simp [readEscape]
        have hjoin (text : Bytes) : joinLines? (0x22 :: text) = none := by
          simp [joinLines?, skipBlanks, isBlank, newline?]
        simp only [List.replicate_zero, List.nil_append] at hread
        simp [readMultiline, hjoin, hescape, hread, prepend]
    -- any other byte ends the run of quotes
    · simp only [hb, if_false, List.append_assoc] at enough ⊢
      apply readMultiline_afterRun (l := false) small (head?_escapeByte true hb _) ?_ enough
      intro n enough
      obtain ⟨n, rfl⟩ := exists_eq_succ enough
      rcases escapeByte_cases true hb with ⟨heq, hslash, hplain⟩ | ⟨code, heq, hescape, hjoin⟩
      · rw [heq] at enough ⊢
        have hread := ih (k := 0) (n := n) (by omega) (by simp at enough ⊢; omega)
        simp only [List.replicate_zero, List.nil_append] at hread
        rw [List.cons_append, readMultiline_byte false hb (.inr hslash) (hplain.imp id And.right),
          List.nil_append, hread]
        rfl
      · rw [heq] at enough ⊢
        have hread := ih (k := 0) (n := n) (by omega) (by simp at enough ⊢; omega)
        simp only [List.replicate_zero, List.nil_append] at hread
        simp [readMultiline, hjoin, hescape, hread, prepend]

/-- A multi-line literal string is read back, quotes in front of it included, if no run of quotes
is longer than two. -/
theorem readMultiline_literal {content ending rest : Bytes} {k n : Nat}
    (closes : Closes true ending rest) (small : k ≤ 2) (within : RunsWithin 0x27 2 k content)
    (plain : ∀ b ∈ content, needsEscape b = false)
    (enough : k + (content ++ ending).length < n) :
    readMultiline true n (List.replicate k 0x27 ++ (content ++ ending)) =
      .ok (List.replicate k 0x27 ++ content, rest) := by
  induction content generalizing k n with
  | nil =>
    obtain ⟨n, rfl⟩ := exists_eq_succ enough
    rw [List.append_nil]
    exact closes k small n
  | cons b content ih =>
    have plain' : ∀ c ∈ content, needsEscape c = false := fun c hc => plain c (by simp [hc])
    rw [RunsWithin] at within
    -- a quote makes the run longer, and any other byte ends it
    by_cases hb : b = 0x27
    · simp only [hb, if_true] at within enough ⊢
      have hmore := ih (k := k + 1) (n := n) within.1 within.2 plain'
        (by simp at enough ⊢; omega)
      rw [List.replicate_succ'] at hmore
      simpa using hmore
    · simp only [hb, if_false] at within
      apply readMultiline_afterRun (l := true) small (by simp [quoteOf, hb]) ?_ enough
      intro n enough
      obtain ⟨n, rfl⟩ := exists_eq_succ enough
      have hread := ih (k := 0) (n := n) (by omega) within plain'
        (by simp at enough ⊢; omega)
      simp only [List.replicate_zero, List.nil_append] at hread
      rw [List.cons_append, readMultiline_byte true hb (.inl rfl)
        (plain_or_line (plain b (by simp))),
        hread]
      rfl

/-! ## Styles -/

/-- What a text must be like to be read back when it is written in a style. -/
def StringStyle.Suits : StringStyle → Bytes → Prop
  | .basic, _ | .multilineBasic, _ => True
  | .literal, text => ∀ b ∈ text, b ≠ 0x27 ∧ isPlain b = true
  | .multilineLiteral, text => (∀ b ∈ text, needsEscape b = false) ∧ RunsWithin 0x27 2 0 text

/-- A text without runs of a byte is without the byte. -/
private theorem ne_of_runsWithin_zero {b : UInt8} {text : Bytes} (h : RunsWithin b 0 0 text) :
    ∀ c ∈ text, c ≠ b := by
  induction text with
  | nil => simp
  | cons c rest ih =>
    rw [RunsWithin] at h
    split at h
    · exact absurd h.1 (by omega)
    · next hc => simpa [hc] using ih h

/-- The style that is chosen for a text suits it. -/
theorem suits_choose (text : Bytes) : (StringStyle.choose text).Suits text := by
  have hplain (h : (text.any needsEscape) = false) : ∀ b ∈ text, needsEscape b = false := by
    simpa using h
  simp only [StringStyle.choose]
  split
  · trivial
  split
  -- a literal string of one line has no quote of its own, nothing to escape and no line end
  · next h =>
    simp only [Bool.and_eq_true, Bool.not_eq_true', decide_eq_true_eq] at h
    obtain ⟨⟨hescapes, hsingles⟩, hlines⟩ := h
    intro b hb
    refine ⟨ne_of_runsWithin_zero (runsWithin_of_longestRun (Nat.le_of_eq hsingles)) b hb, ?_⟩
    have hline : b ≠ 0x0A := by
      rintro rfl
      simp [hb] at hlines
    exact ((plain_or_line (hplain hescapes b hb)).resolve_right hline).1
  split
  · trivial
  split
  · next h =>
    simp only [Bool.and_eq_true, Bool.not_eq_true', decide_eq_true_eq] at h
    exact ⟨hplain h.1, runsWithin_of_longestRun h.2⟩
  split <;> trivial

/-- The line end behind the opening quotes is passed over, and nothing else. -/
theorem skipFirstLineEnd_opening {text body : Bytes}
    (h : 0x0A ∉ text → ∀ b ∈ body.head?, b ≠ 0x0A ∧ b ≠ 0x0D) :
    skipFirstLineEnd (writeString.opening text ++ body) = body := by
  rw [writeString.opening, skipFirstLineEnd]
  split
  · rfl
  · next hline =>
    have hhead := h (by simpa using hline)
    rw [List.nil_append]
    rcases body with _ | ⟨b, body⟩
    · rfl
    · have hb := hhead b rfl
      have hnone : newline? (b :: body) = none := by
        unfold newline?
        split <;> simp_all
      rw [hnone]
      rfl

/-- What stands in a multi-line string for a text of one line does not begin with a line end. -/
private theorem head?_escapeText {text : Bytes} (h : 0x0A ∉ text) (rest : Bytes) :
    ∀ b ∈ (escapeText true 0 text ++ 0x22 :: rest).head?, b ≠ 0x0A ∧ b ≠ 0x0D := by
  intro b hb
  rcases text with _ | ⟨c, text⟩
  · obtain rfl : b = 0x22 := by simpa [escapeText] using hb.symm
    decide
  · rw [escapeText] at hb
    by_cases hc : c = 0x22
    · simp [hc] at hb
      subst hb
      decide
    · simp only [hc, if_false] at hb
      rcases escapeByte_cases true hc with ⟨heq, -, ⟨hplain, hline⟩ | ⟨-, rfl⟩⟩ | ⟨code, heq, -⟩
      · obtain rfl : c = b := by simpa [heq] using hb
        refine ⟨hline, ?_⟩
        rintro rfl
        simp [isPlain] at hplain
      · simp at h
      · obtain rfl : 0x5C = b := by simpa [heq] using hb
        decide

/-- What does not begin with three quotes is a string in one line. -/
private theorem readString_of_single {quote b : UInt8} {text : Bytes} (h : b ≠ quote) :
    readString (quote :: b :: text) = readQuoted (quote :: b :: text) := by
  unfold readString
  split <;> simp_all

private theorem readString_of_empty {quote : UInt8} {rest : Bytes} (h : rest.head? ≠ some quote) :
    readString (quote :: quote :: rest) = readQuoted (quote :: quote :: rest) := by
  unfold readString
  split <;> simp_all

/-- Whether a text does not go on with a quote. -/
def EndsString (rest : Bytes) : Prop :=
  rest.head? ≠ some 0x22 ∧ rest.head? ≠ some 0x27

/-- What has been read is given back as the text that it is. -/
private theorem asText_ofString (s : String) (whole rest : Bytes) :
    asText whole (.ok (Bytes.ofString s, rest)) = .ok (s, rest) := by
  simp [asText]

section Styles

variable {s : String} {rest : Bytes} (ends : EndsString rest)
include ends

/-- A basic string is read back. -/
theorem readString_basic : readString (writeString (.ofString s) .basic ++ rest) =
    .ok (s, rest) := by
  have hasText := asText_ofString s
  generalize Bytes.ofString s = text at hasText ⊢
  have hread : readQuoted (0x22 :: (escapeText false 0 text ++ 0x22 :: rest)) = .ok (s, rest) := by
    rw [readQuoted, readBasic_escapeText text rest (by rw [List.length_append]; omega), hasText]
  have hwritten : writeString text .basic ++ rest =
      0x22 :: (escapeText false 0 text ++ 0x22 :: rest) := by simp [writeString]
  rw [hwritten, ← hread]
  -- no second quote makes it a string of several lines: the text is empty, or begins otherwise
  rcases text with _ | ⟨b, text⟩
  · exact readString_of_empty ends.1
  rw [escapeText]
  by_cases hb : b = 0x22
  · simpa [hb] using readString_of_single (by decide)
  · have hhead := head?_escapeByte false hb (escapeText false 0 text ++ 0x22 :: rest)
    simp only [hb, if_false, List.append_assoc]
    rcases heq : escapeByte false b ++ (escapeText false 0 text ++ 0x22 :: rest) with _ | ⟨c, _⟩
    · simp at heq
    · exact readString_of_single (by simpa [heq] using hhead)

/-- A literal string is read back. -/
theorem readString_literal (suits : StringStyle.literal.Suits (.ofString s)) :
    readString (writeString (.ofString s) .literal ++ rest) = .ok (s, rest) := by
  have hasText := asText_ofString s
  generalize Bytes.ofString s = text at suits hasText ⊢
  have hread : readQuoted (0x27 :: (text ++ 0x27 :: rest)) = .ok (s, rest) := by
    rw [readQuoted, readLiteral_append rest suits, hasText]
  have hwritten : writeString text .literal ++ rest = 0x27 :: (text ++ 0x27 :: rest) := by
    simp [writeString]
  rw [hwritten, ← hread]
  rcases text with _ | ⟨b, text⟩
  · exact readString_of_empty ends.2
  · exact readString_of_single (suits b (by simp)).1

/-- A multi-line basic string is read back. -/
theorem readString_multilineBasic :
    readString (writeString (.ofString s) .multilineBasic ++ rest) = .ok (s, rest) := by
  have hasText := asText_ofString s
  generalize Bytes.ofString s = text at hasText ⊢
  have hwritten : writeString text .multilineBasic ++ rest = 0x22 :: 0x22 :: 0x22 ::
      (writeString.opening text ++ (escapeText true 0 text ++
        (List.replicate 3 0x22 ++ rest))) := by
    simp [writeString]
  have hskip : skipFirstLineEnd (writeString.opening text ++
      (escapeText true 0 text ++ (List.replicate 3 0x22 ++ rest))) =
        escapeText true 0 text ++ (List.replicate 3 0x22 ++ rest) :=
    skipFirstLineEnd_opening fun hline => head?_escapeText hline _
  have hread := readMultiline_escapeText text (k := 0) (closes_quotes (l := false) ends.1)
    (by omega) (by rw [Nat.zero_add]; exact Nat.lt_succ_self _)
  rw [hwritten, readString]
  simp only [hskip]
  rw [← hasText]
  exact congrArg _ hread

/-- A multi-line literal string is read back. -/
theorem readString_multilineLiteral (suits : StringStyle.multilineLiteral.Suits (.ofString s)) :
    readString (writeString (.ofString s) .multilineLiteral ++ rest) = .ok (s, rest) := by
  have hasText := asText_ofString s
  generalize Bytes.ofString s = text at suits hasText ⊢
  have hwritten : writeString text .multilineLiteral ++ rest = 0x27 :: 0x27 :: 0x27 ::
      (writeString.opening text ++ (text ++ (List.replicate 3 0x27 ++ rest))) := by
    simp [writeString]
  -- nothing of the text is passed over: if it has a line end, another stands in front of it
  have hskip : skipFirstLineEnd (writeString.opening text ++
      (text ++ (List.replicate 3 0x27 ++ rest))) = text ++ (List.replicate 3 0x27 ++ rest) := by
    apply skipFirstLineEnd_opening
    intro hline b hb
    rcases text with _ | ⟨c, text⟩
    · obtain rfl : 0x27 = b := by simpa using hb
      decide
    · obtain rfl : c = b := by simpa using hb
      refine ⟨fun h => hline (by simp [h]), ?_⟩
      rintro rfl
      have := suits.1 0x0D (by simp)
      simp [needsEscape] at this
  have hread := readMultiline_literal (k := 0) (closes_quotes (l := true) ends.2)
    (by omega) suits.2 suits.1 (by rw [Nat.zero_add]; exact Nat.lt_succ_self _)
  rw [hwritten, readString]
  simp only [hskip]
  rw [← hasText]
  exact congrArg _ hread

/-- A string is read back in any style that suits it. -/
theorem readString_writeString {style : StringStyle} (suits : style.Suits (.ofString s)) :
    readString (writeString (.ofString s) style ++ rest) = .ok (s, rest) := by
  cases style with
  | basic => exact readString_basic ends
  | literal => exact readString_literal ends suits
  | multilineBasic => exact readString_multilineBasic ends
  | multilineLiteral => exact readString_multilineLiteral ends suits

end Styles

/-- Every text is read back from the string that is written for it. -/
theorem readString_printString (s : String) {rest : Bytes} (ends : EndsString rest) :
    readString (printString (.ofString s) ++ rest) = .ok (s, rest) :=
  readString_writeString ends (suits_choose _)

/-! ## What is written is text -/

/-- An escape is a text, and so is a byte below 128 that needs none. -/
private theorem isText_escapeByte (multiline : Bool) {b : UInt8} (h : b < 0x80) :
    Bytes.IsText (escapeByte multiline b) := by
  have hall : ∀ n < 128, ∀ multiline, ∀ c ∈ escapeByte multiline (UInt8.ofNat n), c < 0x80 := by
    decide +kernel
  have hbytes := hall b.toNat (UInt8.lt_iff_toNat_lt.1 h) multiline
  rw [UInt8.ofNat_toNat] at hbytes
  exact Bytes.isText_of_forall_lt hbytes

/-- Bytes from 128 on stand as they are in a basic string. -/
private theorem escapeText_high (multiline : Bool) {bytes rest : Bytes} (h : ∀ b ∈ bytes, 0x80 ≤ b)
    (hne : bytes ≠ []) (k : Nat) :
    escapeText multiline k (bytes ++ rest) = bytes ++ escapeText multiline 0 rest := by
  have hall : ∀ n < 256, 128 ≤ n → ∀ multiline,
      UInt8.ofNat n ≠ 0x22 ∧ escapeByte multiline (UInt8.ofNat n) = [UInt8.ofNat n] := by
    decide +kernel
  induction bytes generalizing k with
  | nil => exact absurd rfl hne
  | cons b bytes ih =>
    obtain ⟨hquote, hescape⟩ := hall b.toNat b.toNat_lt
      (UInt8.le_iff_toNat_le.1 (h b (by simp))) multiline
    rw [UInt8.ofNat_toNat] at hquote hescape
    rw [List.cons_append, escapeText, if_neg hquote, hescape]
    rcases bytes with _ | ⟨c, bytes⟩
    · rfl
    · rw [ih (fun d hd => h d (by simp [hd])) (by simp)]
      rfl

/-- The content of a basic string is a text. -/
theorem isText_escapeText (multiline : Bool) (s : String) (k : Nat) :
    Bytes.IsText (escapeText multiline k (.ofString s)) := by
  rw [Bytes.ofString_eq_flatMap]
  generalize s.toList = cs
  -- one character after another, since no other piece of the bytes need be a text
  induction cs generalizing k with
  | nil => exact Bytes.isText_nil
  | cons c cs ih =>
    rw [List.flatMap_cons]
    rcases Bytes.utf8EncodeChar_cases c with ⟨b, heq, hb⟩ | hhigh
    · rw [heq, List.singleton_append, escapeText]
      generalize (if multiline then 2 else 0) = most
      by_cases hquote : b = 0x22
      · rw [if_pos hquote]
        split
        · exact Bytes.IsText.cons (b := 0x22) (by decide) (ih _)
        · exact Bytes.IsText.cons (b := 0x5C) (by decide) (.cons (b := 0x22) (by decide) (ih _))
      · rw [if_neg hquote]
        exact (isText_escapeByte multiline hb).append (ih 0)
    · rw [escapeText_high multiline hhigh (by simp) k]
      exact (Bytes.isText_char c).append (ih 0)

/-- What is written for a text is a text. -/
theorem isText_printString (s : String) : Bytes.IsText (printString (.ofString s)) := by
  have hopening : Bytes.IsText (writeString.opening (.ofString s)) := by
    rw [writeString.opening]
    split
    · exact Bytes.isText_of_lt (by decide)
    · exact Bytes.isText_nil
  have hquotes {quote : UInt8} (h : quote < 0x80) : Bytes.IsText [quote, quote, quote] :=
    ((Bytes.isText_of_lt h).cons h).cons h
  have hquote {quote : UInt8} (h : quote < 0x80) : Bytes.IsText [quote] := Bytes.isText_of_lt h
  rw [printString]
  cases StringStyle.choose (.ofString s) with
  | basic => exact ((isText_escapeText false s 0).append (hquote (by decide))).cons (by decide)
  | literal => exact ((Bytes.isText_ofString s).append (hquote (by decide))).cons (by decide)
  | multilineBasic =>
    exact (((hquotes (by decide)).append hopening).append (isText_escapeText true s 0)).append
      (hquotes (by decide))
  | multilineLiteral =>
    exact (((hquotes (by decide)).append hopening).append (Bytes.isText_ofString s)).append
      (hquotes (by decide))

end Toml

end ObjectTransfer
