import Mathlib.Data.List.Forall2
import Mathlib.Data.List.TakeDrop
import ObjectTransfer.Proofs.Toml.Strings
import ObjectTransfer.Toml.Decode

/-!
# TOML documents are read back

A document of pairs and of sections of pairs, one to a line and with empty lines between them, is
read as a table with the same names and values in the same order. Only the offsets are the reader's.

The module introduces:

* `Toml.Pair`: a key and its value as it is written, and `Toml.Section`: a header with pairs;
* `Pair.Reads`: the line of a pair can be read back;
* `Part.Shown part e`: an entry of a table is the pair, or the section.

Main statements: `Toml.writes_decimal`, `Toml.writes_printString`, `Toml.readDocument_layout`.
-/

namespace ObjectTransfer

namespace Toml

/-! ## Numbers -/

/-- Digits are read up to a line end. -/
private theorem more_digits {digits : Bytes} (read rest : Bytes)
    (h : ∀ b ∈ digits, isDigit b = true) :
    readDigits.more isDigit read (digits ++ 0x0A :: rest) =
      .ok (read.reverse ++ digits, 0x0A :: rest) := by
  induction digits generalizing read with
  | nil =>
    rw [List.nil_append, readDigits.more.eq_def]
    simp [isDigit]
  | cons b digits ih =>
    have hb : isDigit b = true := h b (by simp)
    have hne : b ≠ 0x5F := by
      rintro rfl
      simp [isDigit] at hb
    rw [List.cons_append, readDigits.more.eq_def]
    split
    · simp_all
    · simp_all
    · next heq =>
      obtain ⟨rfl, rfl⟩ := List.cons.inj heq
      rw [if_pos hb, ih _ fun c hc => h c (by simp [hc])]
      simp

private theorem isDigit_of_mem_decimal {n : Nat} {b : UInt8} (h : b ∈ Numeral.decimal n) :
    isDigit b = true := by
  have := Numeral.isDigit_of_mem_decimal h
  simpa [isDigit, Numeral.IsDigit, UInt8.le_iff_toNat_le] using this

/-- The digits of a number have its value. -/
theorem digitsValue_decimal (n : Nat) : digitsValue 10 (Numeral.decimal n) = n := by
  have hfold (cs : List Char) (value : Nat) (digits : ∀ c ∈ cs, c.isDigit = true) :
      (cs.map Bytes.ascii).foldl (fun n b => n * 10 + (Numeral.digit? 10 b).getD 0) value =
        Nat.ofDigitChars 10 cs value := by
    induction cs generalizing value with
    | nil => simp
    | cons c cs ih =>
      rw [Nat.ofDigitChars_cons, Nat.mul_comm, ← ih _ fun c' hc' => digits c' (by simp [hc']),
        List.map_cons, List.foldl_cons, Numeral.digit?_ascii (digits c (by simp))]
      rfl
  rw [digitsValue, Numeral.decimal, hfold _ _ fun c hc =>
    Nat.isDigit_of_mem_toDigits (by decide) (by decide) hc]
  simp

/-- What begins with the digits of a number begins with a digit. -/
private theorem isDigit_of_decimal_append {n : Nat} {rest text : Bytes} {b : UInt8}
    (h : Numeral.decimal n ++ rest = b :: text) : isDigit b = true := by
  rcases hd : Numeral.decimal n with _ | ⟨c, digits⟩
  · exact absurd hd (Numeral.decimal_ne_nil n)
  · rw [hd] at h
    obtain ⟨rfl, -⟩ := List.cons.inj h
    exact isDigit_of_mem_decimal (n := n) (by simp [hd])

/-- The digits of a number are read as its whole part. -/
private theorem readWhole_decimal (n : Nat) (rest : Bytes) :
    readWhole (Numeral.decimal n ++ 0x0A :: rest) = .ok (Numeral.decimal n, 0x0A :: rest) := by
  rcases hd : Numeral.decimal n with _ | ⟨b, digits⟩
  · exact absurd hd (Numeral.decimal_ne_nil n)
  have hall : ∀ c ∈ b :: digits, isDigit c = true := fun c hc => isDigit_of_mem_decimal (hd ▸ hc)
  by_cases hzero : b = 0x30
  -- a zero in front stands alone
  · subst hzero
    rcases digits with _ | ⟨c, digits⟩
    · rfl
    · exact absurd hd (Numeral.decimal_ne_cons_cons n c digits)
  · have hdigits : readWhole (b :: digits ++ 0x0A :: rest) =
        readDigits isDigit (b :: digits ++ 0x0A :: rest) := by
      rw [List.cons_append, readWhole.eq_2]
      simpa using hzero
    rw [hdigits, List.cons_append, readDigits, if_pos (hall b (by simp)),
      more_digits [b] rest fun c hc => hall c (by simp [hc])]
    rfl

/-- A number that documents can hold is read up to a line end. -/
private theorem readUnsigned_decimal {n : Nat} (h : n < Numeral.halfWord) (rest : Bytes) :
    readUnsigned false (Numeral.decimal n ++ 0x0A :: rest) = .ok (.integer n, 0x0A :: rest) := by
  unfold readUnsigned
  split
  · next heq => exact absurd (isDigit_of_decimal_append heq) (by decide)
  · next heq => exact absurd (isDigit_of_decimal_append heq) (by decide)
  · have hfraction : readFraction (0x0A :: rest) = .ok (none, 0x0A :: rest) := rfl
    have hexponent : readExponent (0x0A :: rest) = .ok (none, 0x0A :: rest) := rfl
    rw [readWhole_decimal]
    simp only [bind, Except.bind, hfraction, hexponent, digitsValue_decimal, h, decide_true,
      Bool.true_or, if_true]
    rfl

/-- A number is neither a date nor a time, and has no sign and no other radix. -/
private theorem readNumber_decimal {n : Nat} (h : n < Numeral.halfWord) (rest : Bytes) :
    readNumber (Numeral.decimal n ++ 0x0A :: rest) = .ok (.integer n, 0x0A :: rest) := by
  have hall : ∀ b ∈ Numeral.decimal n, isDigit b = true := fun b => isDigit_of_mem_decimal
  have hdrop : (Numeral.decimal n ++ 0x0A :: rest).drop
      ((Numeral.decimal n ++ 0x0A :: rest).takeWhile isDigit).length = 0x0A :: rest := by
    have htake : (Numeral.decimal n ++ 0x0A :: rest).takeWhile isDigit = Numeral.decimal n := by
      rw [List.takeWhile_append_of_pos hall]
      simp [isDigit]
    rw [htake, List.drop_left]
  rw [← readUnsigned_decimal h rest]
  unfold readNumber
  -- a zero in front is followed by the line end
  have hzero (b : UInt8) (text : Bytes)
      (heq : Numeral.decimal n ++ 0x0A :: rest = 0x30 :: b :: text) :
      b = 0x0A := by
    rcases hd : Numeral.decimal n with _ | ⟨c, _ | ⟨c', digits⟩⟩
    · exact absurd hd (Numeral.decimal_ne_nil n)
    · rw [hd] at heq
      exact (List.cons.inj (List.cons.inj heq).2).1.symm
    · rw [hd] at heq
      obtain ⟨rfl, -⟩ := List.cons.inj heq
      exact absurd hd (Numeral.decimal_ne_cons_cons n c' digits)
  split
  · next heq => exact absurd (hzero _ _ heq) (by decide)
  · next heq => exact absurd (hzero _ _ heq) (by decide)
  · next heq => exact absurd (hzero _ _ heq) (by decide)
  · next heq => exact absurd (isDigit_of_decimal_append heq) (by decide)
  · next heq => exact absurd (isDigit_of_decimal_append heq) (by decide)
  -- what is left is a number in decimals, behind whose digits no date or time goes on
  · dsimp only
    rw [hdrop]
    split
    · next heq => cases heq
    · next heq => cases heq
    · rfl

/-! ## Pairs -/

/-- A key, and its value as it is written and as it is. -/
structure Pair where
  key : String
  text : Bytes
  value : Value

/-- The line of the pair. -/
def Pair.line (p : Pair) : Bytes :=
  Bytes.ofString p.key ++ Bytes.ofString " = " ++ p.text ++ [0x0A]

/-- Whether a key may stand without quotes. -/
def IsBare (key : String) : Prop :=
  Bytes.ofString key ≠ [] ∧ ∀ b ∈ Bytes.ofString key, isBareKey b = true

instance (key : String) : Decidable (IsBare key) :=
  inferInstanceAs (Decidable (_ ∧ _))

/-- Whether a value is read back from a text that stands in front of a line end. -/
def Writes (text : Bytes) (value : Value) : Prop :=
  (∃ b rest, text = b :: rest ∧ isBlank b = false) ∧ ∀ total fuel depth rest,
    readValue total (fuel + 1) depth (text ++ 0x0A :: rest) = .ok (value, 0x0A :: rest)

/-- Whether the line of a pair is read back. -/
structure Pair.Reads (p : Pair) : Prop where
  bare : IsBare p.key
  writes : Writes p.text p.value

/-- A number that documents can hold is read back. -/
theorem writes_decimal {n : Nat} (h : n < Numeral.halfWord) :
    Writes (Numeral.decimal n) (.integer n) := by
  rcases hd : Numeral.decimal n with _ | ⟨b, digits⟩
  · exact absurd hd (Numeral.decimal_ne_nil n)
  have hb : isDigit b = true := isDigit_of_mem_decimal (n := n) (by simp [hd])
  refine ⟨⟨b, digits, rfl, ?_⟩, fun total fuel depth rest => ?_⟩
  · rw [Bool.eq_false_iff]
    intro hblank
    simp only [isBlank, Bool.or_eq_true, decide_eq_true_eq] at hblank
    rcases hblank with rfl | rfl <;> simp [isDigit] at hb
  · have hne (c : UInt8) (hc : isDigit c = false) : b ≠ c :=
      ne_of_apply_ne isDigit (by rw [hb, hc]; decide)
    have hread := readNumber_decimal h rest
    rw [hd, List.cons_append] at hread
    rw [List.cons_append, readValue]
    simp only [hne 0x22 (by decide), hne 0x27 (by decide), hne 0x5B (by decide),
      hne 0x7B (by decide), hb, decide_false, Bool.or_false, Bool.or_true, Bool.false_eq_true,
      if_false, if_true, hread]

/-- Every text is read back from the string that is written for it. -/
theorem writes_printString (s : String) : Writes (printString (.ofString s)) (.string s) := by
  obtain ⟨b, rest, heq, hb⟩ : ∃ b rest, printString (.ofString s) = b :: rest ∧
      (b = 0x22 ∨ b = 0x27) := by
    rw [printString]
    cases StringStyle.choose (.ofString s)
    · exact ⟨_, _, rfl, .inl rfl⟩
    · exact ⟨_, _, rfl, .inr rfl⟩
    · exact ⟨_, _, rfl, .inl rfl⟩
    · exact ⟨_, _, rfl, .inr rfl⟩
  refine ⟨⟨b, rest, heq, ?_⟩, fun total fuel depth behind => ?_⟩
  · rcases hb with rfl | rfl <;> decide
  · have ends : EndsString (0x0A :: behind) := ⟨by simp, by simp⟩
    have hread := readString_printString s ends
    rw [heq, List.cons_append] at hread
    rw [heq, List.cons_append, readValue, hread]
    simp [hb, Except.map]

namespace Pair

/-- A number behind its key. -/
def number (key : String) (n : Nat) : Pair :=
  ⟨key, Numeral.decimal n, .integer n⟩

/-- A text behind its key. -/
def string (key s : String) : Pair :=
  ⟨key, printString (.ofString s), .string s⟩

theorem reads_number {key : String} (bare : IsBare key) {n : Nat} (h : n < Numeral.halfWord) :
    (number key n).Reads :=
  ⟨bare, writes_decimal h⟩

theorem reads_string {key : String} (bare : IsBare key) (s : String) : (string key s).Reads :=
  ⟨bare, writes_printString s⟩

end Pair

/-! ## Lines -/

section Lines

variable {total n : Nat} {d : Draft} {rest : Bytes}

private theorem skipBlanks_of_head {b : UInt8} (h : isBlank b = false) (text : Bytes) :
    skipBlanks (b :: text) = b :: text := by
  simp [skipBlanks, h]

private theorem isBlank_of_isBareKey {b : UInt8} (h : isBareKey b = true) : isBlank b = false := by
  rw [Bool.eq_false_iff]
  intro hblank
  simp only [isBlank, Bool.or_eq_true, decide_eq_true_eq] at hblank
  rcases hblank with rfl | rfl <;> simp [isBareKey, isDigit] at h

/-- A key without quotes begins with a byte of its own. -/
theorem IsBare.eq_cons {key : String} (bare : IsBare key) :
    ∃ b text, Bytes.ofString key = b :: text ∧ isBareKey b = true := by
  rcases hkey : Bytes.ofString key with _ | ⟨b, text⟩
  · exact absurd hkey bare.1
  · exact ⟨b, text, rfl, bare.2 b (by simp [hkey])⟩

/-- A key is read up to a byte that can stand in none, and the blanks behind it. -/
private theorem readKey_bare {key : String} (bare : IsBare key) {c : UInt8}
    (hc : isBareKey c = false) (hdot : (skipBlanks (c :: rest)).head? ≠ some 0x2E) :
    ∃ start, readKey total (Bytes.ofString key ++ c :: rest) =
      .ok (([], ⟨key, start⟩), skipBlanks (c :: rest)) := by
  obtain ⟨b, text, hkey, hb⟩ := bare.eq_cons
  have hskip : skipBlanks (Bytes.ofString key ++ c :: rest) = Bytes.ofString key ++ c :: rest := by
    rw [hkey]
    exact skipBlanks_of_head (isBlank_of_isBareKey hb) _
  have hspan : (Bytes.ofString key ++ c :: rest).span isBareKey =
      (Bytes.ofString key, c :: rest) := by
    simp [List.span_eq_takeWhile_dropWhile, List.takeWhile_append_of_pos bare.2,
      List.dropWhile_append_of_pos bare.2, hc]
  -- a first byte that may stand in a key is no quote
  have hsimple : ∃ start, readSimpleKey total (Bytes.ofString key ++ c :: rest) =
      .ok (⟨key, start⟩, c :: rest) := by
    refine ⟨total - (Bytes.ofString key ++ c :: rest).length, ?_⟩
    have hempty : (Bytes.ofString key).isEmpty = false := by simp [bare.1]
    have hlossy : Bytes.lossy (Bytes.ofString key) = key := by simp [Bytes.lossy]
    unfold readSimpleKey
    split
    · next heq =>
      rw [hkey] at heq
      obtain ⟨rfl, -⟩ := List.cons.inj heq
      simp [isBareKey, isDigit] at hb
    · next heq =>
      rw [hkey] at heq
      obtain ⟨rfl, -⟩ := List.cons.inj heq
      simp [isBareKey, isDigit] at hb
    · rw [hspan]
      simp only [hempty, hlossy, Bool.false_eq_true, if_false]
      rfl
  obtain ⟨start, hsimple⟩ := hsimple
  -- no dot follows
  have hdotted : readDottedKeys total (depthLimit - 1) (c :: rest) =
      .ok ([], skipBlanks (c :: rest)) := by
    rw [show depthLimit - 1 = 78 + 1 from rfl, readDottedKeys]
    split
    · next heq => simp [heq] at hdot
    · rfl
  refine ⟨start, ?_⟩
  rw [readKey, hskip, hsimple]
  simp only [bind, Except.bind, hdotted]
  rfl

/-- An empty line is passed over. -/
theorem readStatements_empty :
    readStatements total (n + 1) d (0x0A :: rest) = readStatements total n d rest := by
  rw [readStatements]
  rfl

/-- What a key begins with begins a pair. -/
private theorem readStatements_cons {b : UInt8} (hb : isBareKey b = true) (text : Bytes) :
    readStatements total (n + 1) d (b :: text) =
      (readPair total d (b :: text) >>= fun r => readStatements total n r.1 r.2) := by
  have hne (c : UInt8) (hc : isBareKey c = false) : b ≠ c :=
    ne_of_apply_ne isBareKey (by rw [hb, hc]; decide)
  rw [readStatements, skipBlanks_of_head (isBlank_of_isBareKey hb)]
  simp [hne 0x23 (by decide), hne 0x0A (by decide), hne 0x0D (by decide), hne 0x5B (by decide)]

private theorem skipBlanks_space (text : Bytes) : skipBlanks (0x20 :: text) = skipBlanks text := by
  simp [skipBlanks, isBlank]

/-- The line of a pair is read into the table that is being filled. -/
theorem readStatements_pair (total n : Nat) (rest : Bytes) {p : Pair} (reads : p.Reads)
    (plain : d.current.dotted = false) (fresh : d.current.get? p.key = none) :
    ∃ key start, key.name = p.key ∧ readStatements total (n + 1) d (p.line ++ rest) =
      readStatements total n
        { d with current := d.current.append key (.value start p.value) } rest := by
  obtain ⟨b, text, hkey, hb⟩ := reads.bare.eq_cons
  obtain ⟨⟨v, value, htext, hv⟩, hread⟩ := reads.writes
  generalize hbehind : p.text ++ 0x0A :: rest = behind
  have hline : p.line ++ rest = Bytes.ofString p.key ++ 0x20 :: 0x3D :: 0x20 :: behind := by
    have hequals : Bytes.ofString " = " = [0x20, 0x3D, 0x20] := by decide +kernel
    simp [Pair.line, hequals, ← hbehind]
  -- the key with its blank, the equals sign with its blank, the value, the line end
  have hequals : skipBlanks (0x20 :: 0x3D :: 0x20 :: behind) = 0x3D :: 0x20 :: behind := by
    rw [skipBlanks_space, skipBlanks_of_head (by decide)]
  obtain ⟨start, hkeyread⟩ : ∃ start, readKey total
      (Bytes.ofString p.key ++ 0x20 :: 0x3D :: 0x20 :: behind) =
        .ok (([], ⟨p.key, start⟩), skipBlanks (0x20 :: 0x3D :: 0x20 :: behind)) :=
    readKey_bare reads.bare (by decide) (by simp [hequals])
  have hskip : skipBlanks (0x20 :: behind) = behind := by
    rw [skipBlanks_space, ← hbehind, htext, List.cons_append, skipBlanks_of_head hv]
  have hvalue : readValue total (2 * behind.length + 2) 0 behind = .ok (p.value, 0x0A :: rest) := by
    rw [← hbehind]
    exact hread total _ 0 rest
  have hpair : readPair total d (p.line ++ rest) =
      .ok ({ d with
        current := d.current.append ⟨p.key, start⟩ (.value (total - behind.length) p.value) },
        rest) := by
    rw [readPair, hline, hkeyread, hequals]
    simp only [bind, Except.bind, skipBlanks_of_head (show isBlank 0x3D = false by decide), expect,
      if_true, hskip, hvalue, Table.insert, Table.descend, plain, List.isEmpty_nil, fresh,
      Bool.false_eq_true, if_false]
    rfl
  refine ⟨⟨p.key, start⟩, total - behind.length, rfl, ?_⟩
  rw [hline, hkey, List.cons_append, readStatements_cons hb, ← List.cons_append, ← hkey, ← hline,
    hpair]
  rfl

/-! ## Tables -/

/-- Whether an entry of a table is a pair. -/
def Pair.Shown (p : Pair) (e : Key × Node) : Prop :=
  e.1.name = p.key ∧ ∃ start, e.2 = .value start p.value

/-- Whether the entries of a table are pairs, one by one. -/
structure Table.Shows (t : Table) (pairs : List Pair) : Prop where
  plain : t.dotted = false
  entries : List.Forall₂ Pair.Shown pairs t.entries

/-- Entries that are shown one by one have no other names. -/
private theorem get?_eq_none {α : Type} {shown : α → Key × Node → Prop} {name : α → String}
    (named : ∀ a e, shown a e → e.1.name = name a) {t : Table} {parts : List α}
    (h : List.Forall₂ shown parts t.entries) {key : String} (fresh : key ∉ parts.map name) :
    t.get? key = none := by
  rw [Table.get?]
  generalize t.entries = entries at h
  induction h with
  | nil => rfl
  | @cons a e parts entries first rest ih =>
    simp only [List.map_cons, List.mem_cons, not_or] at fresh
    have hne : ¬e.1.name = key := fun heq => fresh.1 (heq.symm.trans (named a e first))
    rw [List.find?_cons_of_neg (by simpa using hne)]
    exact ih fresh.2

/-- A table shows one more pair. -/
theorem Table.Shows.append {t : Table} {pairs : List Pair} (shows : t.Shows pairs) {p : Pair}
    {key : Key} (named : key.name = p.key) (start : Nat) :
    (t.append key (.value start p.value)).Shows (pairs ++ [p]) :=
  ⟨shows.plain, List.rel_append shows.entries (.cons ⟨named, start, rfl⟩ .nil)⟩

/-- Lines of pairs are read into the table that is being filled. -/
theorem readStatements_pairs (total n : Nat) (rest : Bytes) {pairs before : List Pair}
    (reads : ∀ p ∈ pairs, p.Reads) (shows : d.current.Shows before)
    (distinct : ((before ++ pairs).map Pair.key).Nodup) :
    ∃ current : Table, current.Shows (before ++ pairs) ∧
      readStatements total (n + pairs.length) d (pairs.flatMap Pair.line ++ rest) =
        readStatements total n { d with current } rest := by
  induction pairs generalizing before d with
  | nil => exact ⟨d.current, by simpa using shows, rfl⟩
  | cons p pairs ih =>
    -- a key that is there already would be refused
    have fresh : d.current.get? p.key = none := by
      refine get?_eq_none (fun _ _ h => h.1) shows.entries fun hmem => ?_
      rw [List.map_append, List.nodup_append] at distinct
      exact distinct.2.2 _ hmem _ (by simp) rfl
    obtain ⟨key, start, named, hread⟩ := readStatements_pair total (n + pairs.length)
      (pairs.flatMap Pair.line ++ rest) (reads p (by simp)) shows.plain fresh
    obtain ⟨current, hshows, hrest⟩ := ih
      (d := { d with current := d.current.append key (.value start p.value) })
      (fun q hq => reads q (by simp [hq])) (shows.append named start) (by simpa using distinct)
    refine ⟨current, by simpa using hshows, ?_⟩
    rw [List.flatMap_cons, List.append_assoc, List.length_cons, ← Nat.add_assoc, hread, hrest]

/-! ## Sections -/

/-- The header of a section and its pairs, with so many empty lines above. -/
structure Section where
  gap : Nat := 0
  name : String
  pairs : List Pair

namespace Section

/-- The line of the header. -/
def header (s : Section) : Bytes :=
  0x5B :: (Bytes.ofString s.name ++ [0x5D, 0x0A])

/-- The lines of the section. -/
def text (s : Section) : Bytes :=
  List.replicate s.gap 0x0A ++ s.header ++ s.pairs.flatMap Pair.line

/-- How many lines the section has. -/
def lines (s : Section) : Nat :=
  s.gap + 1 + s.pairs.length

/-- Whether the section is read back. -/
structure Reads (s : Section) : Prop where
  bare : IsBare s.name
  pairs : ∀ p ∈ s.pairs, p.Reads
  distinct : (s.pairs.map Pair.key).Nodup

/-- Whether an entry of a table is the section. -/
def Shown (s : Section) (e : Key × Node) : Prop :=
  e.1.name = s.name ∧ ∃ t : Table, e.2 = .table t ∧ t.Shows s.pairs

end Section

/-- A part of a document. -/
inductive Part where
  | pair (p : Pair)
  | table (s : Section)

namespace Part

/-- The name of the part. -/
def name : Part → String
  | pair p => p.key
  | table s => s.name

/-- Whether an entry of a table is the part. -/
def Shown : Part → Key × Node → Prop
  | pair p => p.Shown
  | table s => s.Shown

theorem Shown.name_eq {part : Part} {e : Key × Node} (h : part.Shown e) : e.1.name = part.name := by
  cases part <;> exact h.1

end Part

/-- Empty lines are passed over. -/
private theorem readStatements_gap (gap : Nat) :
    readStatements total (n + gap) d (List.replicate gap 0x0A ++ rest) =
      readStatements total n d rest := by
  induction gap with
  | zero => rfl
  | succ gap ih =>
    rw [List.replicate_succ, List.cons_append, ← Nat.add_assoc, readStatements_empty, ih]

/-- A header with a new name begins an empty table. -/
theorem readStatements_header (total n : Nat) (rest : Bytes) {s : Section} (bare : IsBare s.name)
    {root : Table} (finish : d.finish = some root) (fresh : root.get? s.name = none) :
    ∃ key start, key.name = s.name ∧ readStatements total (n + 1) d (s.header ++ rest) =
      readStatements total n
        { root, current := .mk false false (some start) [], header := some ([], key) } rest := by
  obtain ⟨b, text, hname, hb⟩ := bare.eq_cons
  have hskip : skipBlanks (0x5D :: 0x0A :: rest) = 0x5D :: 0x0A :: rest :=
    skipBlanks_of_head (by decide) _
  obtain ⟨start, hkey⟩ : ∃ start, readKey total (Bytes.ofString s.name ++ 0x5D :: 0x0A :: rest) =
      .ok (([], ⟨s.name, start⟩), skipBlanks (0x5D :: 0x0A :: rest)) :=
    readKey_bare bare (by decide) (by simp [hskip])
  have hheader : s.header ++ rest = 0x5B :: (Bytes.ofString s.name ++ 0x5D :: 0x0A :: rest) := by
    simp [Section.header]
  have hopen : d.openTable [] ⟨s.name, start⟩ (total - (s.header ++ rest).length) =
      some { root, current := .mk false false (some (total - (s.header ++ rest).length)) []
             header := some ([], ⟨s.name, start⟩) } := by
    simp only [Draft.openTable, finish, bind, Option.bind, Draft.openTable.find, fresh,
      Table.descend]
    rfl
  have hread : readHeader total d (s.header ++ rest) = .ok
      ({ root, current := .mk false false (some (total - (s.header ++ rest).length)) []
         header := some ([], ⟨s.name, start⟩) }, rest) := by
    have hfirst : ∀ text, s.header ++ rest ≠ 0x5B :: 0x5B :: text := by
      intro text heq
      -- a second bracket cannot begin a name
      rw [hheader, hname, List.cons_append] at heq
      obtain ⟨rfl, -⟩ := List.cons.inj (List.cons.inj heq).2
      simp [isBareKey, isDigit] at hb
    have hbracket : expect 0x5B (s.header ++ rest) =
        .ok ((), Bytes.ofString s.name ++ 0x5D :: 0x0A :: rest) := by
      rw [hheader]
      rfl
    have hend : readLineEnd (0x0A :: rest) = .ok ((), rest) := rfl
    rw [readHeader.eq_2 total d _ hfirst, hbracket]
    simp only [bind, Except.bind, hkey, hskip, expect, if_true, hend, hopen]
    rfl
  refine ⟨⟨s.name, start⟩, total - (s.header ++ rest).length, rfl, ?_⟩
  have hstep : readStatements total (n + 1) d (s.header ++ rest) =
      (readHeader total d (s.header ++ rest) >>= fun r => readStatements total n r.1 r.2) := by
    rw [hheader, readStatements, skipBlanks_of_head (by decide)]
    rfl
  rw [hstep, hread]
  rfl

/-- Whether a document that is being read has such parts so far. -/
def Draft.Shows (d : Draft) (parts : List Part) : Prop :=
  ∃ table, d.finish = some table ∧ List.Forall₂ Part.Shown parts table.entries

/-- A section with a new name is read behind the parts that there are. -/
theorem readStatements_section (total n : Nat) (rest : Bytes) {s : Section} (reads : s.Reads)
    {parts : List Part} (shows : d.Shows parts) (fresh : s.name ∉ parts.map Part.name) :
    ∃ d' : Draft, d'.Shows (parts ++ [.table s]) ∧
      readStatements total (n + s.lines) d (s.text ++ rest) = readStatements total n d' rest := by
  obtain ⟨root, finish, shown⟩ := shows
  have hnone : root.get? s.name = none :=
    get?_eq_none (fun _ _ h => h.name_eq) shown fresh
  -- the header begins an empty table, and the pairs fill it
  obtain ⟨key, start, named, hheader⟩ := readStatements_header total (n + s.pairs.length)
    (s.pairs.flatMap Pair.line ++ rest) reads.bare finish hnone
  have unfilled : Table.Shows (.mk false false (some start) []) [] := ⟨rfl, .nil⟩
  obtain ⟨current, filled, hpairs⟩ := readStatements_pairs total n rest
    (d := { root, current := .mk false false (some start) [], header := some ([], key) })
    reads.pairs unfilled reads.distinct
  refine ⟨{ root, current, header := some ([], key) }, ?_, ?_⟩
  · refine ⟨root.append key (.table current), ?_, ?_⟩
    · rw [← named] at hnone
      simp [Draft.finish, Table.descend, hnone]
    · exact List.rel_append shown (.cons ⟨named, current, rfl, filled⟩ .nil)
  · have hlines : n + s.lines = n + s.pairs.length + 1 + s.gap := by
      simp only [Section.lines]
      omega
    rw [hlines, Section.text, List.append_assoc, List.append_assoc, readStatements_gap, hheader,
      hpairs]

/-- There is at least one byte in each line. -/
private theorem length_le_lines (pairs : List Pair) :
    pairs.length ≤ (pairs.flatMap Pair.line).length := by
  induction pairs with
  | nil => exact Nat.le_refl 0
  | cons p pairs ih =>
    simp only [List.flatMap_cons, List.length_append, List.length_cons, Pair.line]
    omega

private theorem lines_le (s : Section) : s.lines ≤ s.text.length := by
  have := length_le_lines s.pairs
  simp only [Section.lines, Section.text, Section.header, List.length_append, List.length_cons,
    List.length_replicate, List.length_nil]
  omega

/-- How many lines sections have. -/
private def linesOf : List Section → Nat
  | [] => 0
  | s :: sections => s.lines + linesOf sections

private theorem linesOf_le (sections : List Section) :
    linesOf sections ≤ (sections.flatMap Section.text).length := by
  induction sections with
  | nil => exact Nat.le_refl 0
  | cons s sections ih =>
    have := lines_le s
    simp only [linesOf, List.flatMap_cons, List.length_append]
    omega

/-- Sections are read one behind the other. -/
private theorem readStatements_sections (total n : Nat) {d : Draft} {sections : List Section}
    (reads : ∀ s ∈ sections, s.Reads) {parts : List Part} (shows : d.Shows parts)
    (distinct : (parts.map Part.name ++ sections.map Section.name).Nodup) :
    ∃ d' : Draft, d'.Shows (parts ++ sections.map .table) ∧
      readStatements total (n + linesOf sections) d (sections.flatMap Section.text) =
        readStatements total n d' [] := by
  induction sections generalizing d parts with
  | nil => exact ⟨d, by simpa using shows, rfl⟩
  | cons s sections ih =>
    have fresh : s.name ∉ parts.map Part.name := fun hmem =>
      (List.nodup_append.mp distinct).2.2 _ hmem s.name (by simp) rfl
    obtain ⟨d₁, shows₁, hfirst⟩ := readStatements_section total (n + linesOf sections)
      (sections.flatMap Section.text) (reads s (by simp)) shows fresh
    obtain ⟨d₂, shows₂, hrest⟩ := ih (fun s' hs' => reads s' (by simp [hs'])) shows₁
      (by simpa [Part.name] using distinct)
    refine ⟨d₂, by simpa using shows₂, ?_⟩
    rw [List.flatMap_cons, linesOf, Nat.add_comm s.lines, ← Nat.add_assoc, hfirst, hrest]

end Lines

/-- A text that begins with no byte order mark is read from its start. -/
private theorem skipMark_of_head {text : Bytes} (h : ∀ b ∈ text.head?, b < 0x80) :
    skipMark text = text := by
  unfold skipMark
  split
  · exact absurd (h _ rfl) (by decide)
  · rfl

private theorem lt_of_isBareKey {b : UInt8} (h : isBareKey b = true) : b < 0x80 := by
  simp only [isBareKey, isDigit, Bool.or_eq_true, Bool.and_eq_true, decide_eq_true_eq,
    UInt8.le_iff_toNat_le] at h
  rw [UInt8.lt_iff_toNat_lt]
  rcases h with (((h | h) | h) | rfl) | rfl
  · exact Nat.lt_of_le_of_lt h.2 (by decide)
  · exact Nat.lt_of_le_of_lt h.2 (by decide)
  · exact Nat.lt_of_le_of_lt h.2 (by decide)
  · decide
  · decide

/-- A document begins with a key, with a bracket or with an empty line. -/
private theorem head_lt {pairs : List Pair} (reads : ∀ p ∈ pairs, p.Reads)
    (sections : List Section) :
    ∀ b ∈ (pairs.flatMap Pair.line ++ sections.flatMap Section.text).head?, b < 0x80 := by
  intro b hb
  rcases pairs with _ | ⟨p, pairs⟩
  · rcases sections with _ | ⟨s, sections⟩
    · cases hb
    · rcases hgap : s.gap with _ | gap
      · simp [Section.text, Section.header, hgap] at hb
        subst hb
        decide
      · simp [Section.text, hgap, List.replicate_succ] at hb
        subst hb
        decide
  · obtain ⟨c, text, hkey, hc⟩ := (reads p (by simp)).bare.eq_cons
    simp [Pair.line, hkey] at hb
    subst hb
    exact lt_of_isBareKey hc

/-- A document of pairs and of sections with distinct names is read as a table that has these parts
in this order. -/
theorem readDocument_layout {pairs : List Pair} {sections : List Section}
    (reads : ∀ p ∈ pairs, p.Reads) (readsSections : ∀ s ∈ sections, s.Reads)
    (distinct : (pairs.map Pair.key ++ sections.map Section.name).Nodup) :
    ∃ table, readDocument (pairs.flatMap Pair.line ++ sections.flatMap Section.text) = .ok table ∧
      List.Forall₂ Part.Shown (pairs.map .pair ++ sections.map .table) table.entries := by
  generalize htext : pairs.flatMap Pair.line ++ sections.flatMap Section.text = text
  -- there are steps for every line and one for the end
  obtain ⟨spare, hsteps⟩ : ∃ spare,
      text.length + 1 = spare + 1 + linesOf sections + pairs.length := by
    refine ⟨text.length - linesOf sections - pairs.length, ?_⟩
    have := linesOf_le sections
    have := length_le_lines pairs
    have : text.length = (pairs.flatMap Pair.line).length +
        (sections.flatMap Section.text).length := by rw [← htext, List.length_append]
    omega
  have unfilled : Table.Shows .empty [] := ⟨rfl, .nil⟩
  obtain ⟨current, filled, hpairs⟩ := readStatements_pairs text.length
    (spare + 1 + linesOf sections) (sections.flatMap Section.text) (d := {}) reads unfilled
    (List.nodup_append.mp distinct).1
  have shows : Draft.Shows { current } (pairs.map .pair) := by
    refine ⟨current, rfl, ?_⟩
    simpa [Part.Shown] using filled.entries
  obtain ⟨d, ⟨table, finish, shown⟩, hsections⟩ := readStatements_sections text.length (spare + 1)
    readsSections shows (by simpa [Part.name, Function.comp_def] using distinct)
  refine ⟨table, ?_, shown⟩
  have hread : readStatements text.length (text.length + 1) {} (skipMark text) = .ok (d, []) := by
    rw [htext] at hpairs
    rw [skipMark_of_head (htext ▸ head_lt reads sections), hsteps, hpairs, hsections]
    rfl
  rw [readDocument, hread]
  simp [finish]

/-! ## Texts -/

/-- The digits of a number are a text. -/
theorem isText_decimal (n : Nat) : Bytes.IsText (Numeral.decimal n) := by
  apply Bytes.isText_of_forall_lt
  intro b hb
  exact lt_of_isBareKey (by simp [isBareKey, isDigit_of_mem_decimal hb])

/-- A section whose values are texts is a text. -/
theorem Section.isText_text {s : Section} (h : ∀ p ∈ s.pairs, Bytes.IsText p.text) :
    Bytes.IsText s.text := by
  have hgap : Bytes.IsText (List.replicate s.gap 0x0A) := by
    apply Bytes.isText_of_forall_lt
    intro b hb
    rw [List.eq_of_mem_replicate hb]
    decide
  have hpairs (pairs : List Pair) (hpairs : ∀ p ∈ pairs, Bytes.IsText p.text) :
      Bytes.IsText (pairs.flatMap Pair.line) := by
    induction pairs with
    | nil => exact Bytes.isText_nil
    | cons p pairs ih =>
      have hline : Bytes.IsText p.line :=
        ((((Bytes.isText_ofString _).append (Bytes.isText_ofString _)).append
          (hpairs p (by simp))).append (Bytes.isText_of_lt (by decide)))
      exact hline.append (ih fun q hq => hpairs q (by simp [hq]))
  have hheader : Bytes.IsText s.header :=
    .cons (by decide) ((Bytes.isText_ofString _).append
      (.cons (by decide) (Bytes.isText_of_lt (by decide))))
  exact (hgap.append hheader).append (hpairs s.pairs h)

/-! ## Decoding -/

section Decode

variable {α : Type} {fields : List (Field α)} {record : α}

/-- Whether a record is changed in this way by every such entry. -/
def Takes (fields : List (Field α)) (shown : Key × Node → Prop) (change : α → α) : Prop :=
  ∀ e, shown e → ∀ record rest,
    decodeEntries fields record (e :: rest) = decodeEntries fields (change record) rest

/-- An entry is taken by the field of its name. -/
private theorem takes_of_find {shown : Key × Node → Prop} {change : α → α} {name : String}
    {f : Field α} (find : fields.find? (fun f => f.name = name) = some f)
    (named : ∀ e, shown e → e.1.name = name)
    (put : ∀ e, shown e → ∀ record, f.put record (e.2.located e.1) = .ok (change record)) :
    Takes fields shown change := by
  intro e h record rest
  rw [decodeEntries, named e h, find]
  simp only [put e h, bind, Except.bind]

/-- A pair is taken by the field of its key. -/
theorem takes_pair {p : Pair} {f : Field α} {change : α → α}
    (find : fields.find? (fun f => f.name = p.key) = some f)
    (put : ∀ record start, f.put record ⟨start, p.value⟩ = .ok (change record)) :
    Takes fields p.Shown change := by
  refine takes_of_find find (fun e h => h.1) ?_
  rintro e ⟨-, start, hnode⟩ record
  rw [hnode]
  exact put record start

/-- What entries change one after the other. -/
theorem decodeEntries_eq_ok {shown : List (Key × Node → Prop)} {changes : List (α → α)}
    {entries : List (Key × Node)} (h : List.Forall₂ (fun shows e => shows e) shown entries)
    (takes : List.Forall₂ (Takes fields) shown changes) :
    decodeEntries fields record entries =
      .ok (changes.foldl (fun record change => change record) record) := by
  induction h generalizing changes record with
  | nil =>
    cases takes
    rfl
  | cons first _ ih =>
    obtain _ | ⟨take, takes⟩ := takes
    rw [take _ first, ih takes]
    rfl

/-- A section is taken pair by pair by the record of its name. -/
theorem takes_section {s : Section} {name : String} {inner : List (Field α)}
    {changes : List (α → α)}
    (find : fields.find? (fun f => f.name = s.name) = some ⟨s.name, decodeRecord name inner⟩)
    (takes : List.Forall₂ (Takes inner) (s.pairs.map Pair.Shown) changes) :
    Takes fields s.Shown fun record =>
      changes.foldl (fun record change => change record) record := by
  refine takes_of_find find (fun e h => h.1) ?_
  rintro e ⟨-, t, hnode, shows⟩ record
  rw [hnode]
  exact decodeEntries_eq_ok (List.forall₂_map_left_iff.2 shows.entries) takes

end Decode

end Toml

end ObjectTransfer
