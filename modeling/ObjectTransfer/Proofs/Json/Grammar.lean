import ObjectTransfer.Proofs.Json.Tokens

/-!
# Texts of a value

A value can be written in many ways: blanks may stand between any two tokens, characters may be
escaped, and a number may have a fraction or an exponent. `Json.Value.Spells v t` says that `t` is
one of the texts of `v`, and reading any of them gives the value back. The texts that the program
writes itself are among them: `Json.Value.Writes v t` leaves nothing but the blanks open.

The module introduces:

* `Json.Value.Spells v t`: the text is one of the value;
* `Json.Value.Writes v t`: it is one in which texts and integers stand as they are printed;
* `Json.Value.IsWritable v`: the value has such a text, since nothing in it has gone wrong.

Main statements: `Json.Value.Spells.read`, a value is read from each of its texts;
`Json.Value.writes_prettyAt` and `Json.Value.writes_compact`, the two layouts are texts of it.
-/

namespace ObjectTransfer

namespace Json

/-- Whether a text is made of blanks. -/
def IsBlanks (text : Bytes) : Prop :=
  ∀ b ∈ text, isBlank b = true

mutual

/-- Whether a text is one of a value. -/
def Value.Spells : Value → Bytes → Prop
  | .null, t => t = Bytes.ofString "null"
  | .bool b, t => t = printBool b
  | .number n, t => ∃ l : Literal, l.Spells t ∧ l.toNumber = n
  | .string s, t => ∃ parts, TextPart.string? parts = s ∧ t = TextPart.quoted parts
  | .array .done, t => ∃ gap, IsBlanks gap ∧ t = 0x5B :: (gap ++ [0x5D])
  | .array (.more first rest), t => ∃ gap u w, IsBlanks gap ∧ first.Spells u ∧ rest.Spells w ∧
      t = 0x5B :: (gap ++ (u ++ w))
  | .object .done, t => ∃ gap, IsBlanks gap ∧ t = 0x7B :: (gap ++ [0x7D])
  | .object (.more key value rest), t => ∃ parts gap before after u w,
      TextPart.string? parts = key ∧
      IsBlanks gap ∧ IsBlanks before ∧ IsBlanks after ∧ value.Spells u ∧ rest.Spells w ∧
      t = 0x7B :: (gap ++ (TextPart.quoted parts ++ (before ++ 0x3A :: (after ++ (u ++ w)))))
  | .array .malformed, _ | .object .malformed, _ | .malformed, _ => False

/-- Whether a text is one of the items behind the first one, with the bracket that ends them. -/
def Items.Spells : Items → Bytes → Prop
  | .done, t => ∃ gap, IsBlanks gap ∧ t = gap ++ [0x5D]
  | .more first rest, t => ∃ gap after u w, IsBlanks gap ∧ IsBlanks after ∧ first.Spells u ∧
      rest.Spells w ∧ t = gap ++ 0x2C :: (after ++ (u ++ w))
  | .malformed, _ => False

/-- Whether a text is one of the members behind the first one, with the brace that ends them. -/
def Members.Spells : Members → Bytes → Prop
  | .done, t => ∃ gap, IsBlanks gap ∧ t = gap ++ [0x7D]
  | .more key value rest, t => ∃ parts gap front before after u w, TextPart.string? parts = key ∧
      IsBlanks gap ∧ IsBlanks front ∧ IsBlanks before ∧ IsBlanks after ∧ value.Spells u ∧
      rest.Spells w ∧ t = gap ++ 0x2C :: (front ++ (TextPart.quoted parts ++
        (before ++ 0x3A :: (after ++ (u ++ w)))))
  | .malformed, _ => False

end

mutual

/-- Whether a text is one of a value with its texts and integers as they are printed. -/
def Value.Writes : Value → Bytes → Prop
  | .null, t => t = Bytes.ofString "null"
  | .bool b, t => t = printBool b
  | .number (.integer n), t => -Numeral.halfWord ≤ n ∧ n < UInt64.size ∧ t = printInt n
  | .string (some s), t => t = printText s
  | .array .done, t => ∃ gap, IsBlanks gap ∧ t = 0x5B :: (gap ++ [0x5D])
  | .array (.more first rest), t => ∃ gap u w, IsBlanks gap ∧ first.Writes u ∧ rest.Writes w ∧
      t = 0x5B :: (gap ++ (u ++ w))
  | .object .done, t => ∃ gap, IsBlanks gap ∧ t = 0x7B :: (gap ++ [0x7D])
  | .object (.more (some key) value rest), t => ∃ gap before after u w, IsBlanks gap ∧
      IsBlanks before ∧ IsBlanks after ∧ value.Writes u ∧ rest.Writes w ∧
      t = 0x7B :: (gap ++ (printText key ++ (before ++ 0x3A :: (after ++ (u ++ w)))))
  | _, _ => False

/-- The same of the items behind the first one, with the bracket that ends them. -/
def Items.Writes : Items → Bytes → Prop
  | .done, t => ∃ gap, IsBlanks gap ∧ t = gap ++ [0x5D]
  | .more first rest, t => ∃ gap after u w, IsBlanks gap ∧ IsBlanks after ∧ first.Writes u ∧
      rest.Writes w ∧ t = gap ++ 0x2C :: (after ++ (u ++ w))
  | .malformed, _ => False

/-- The same of the members behind the first one, with the brace that ends them. -/
def Members.Writes : Members → Bytes → Prop
  | .done, t => ∃ gap, IsBlanks gap ∧ t = gap ++ [0x7D]
  | .more (some key) value rest, t => ∃ gap front before after u w, IsBlanks gap ∧
      IsBlanks front ∧ IsBlanks before ∧ IsBlanks after ∧ value.Writes u ∧ rest.Writes w ∧
      t = gap ++ 0x2C :: (front ++ (printText key ++ (before ++ 0x3A :: (after ++ (u ++ w)))))
  | _, _ => False

end

/-! ## Blanks -/

theorem isBlanks_nil : IsBlanks [] := nofun

/-- Blanks in front are skipped. -/
theorem skipBlanks_append {gap : Bytes} (blank : IsBlanks gap) (text : Bytes) :
    skipBlanks (gap ++ text) = skipBlanks text :=
  List.dropWhile_append_of_pos blank

/-- A text is skipped to its first token. -/
theorem skipBlanks_cons {b : UInt8} (solid : isBlank b = false) (rest : Bytes) :
    skipBlanks (b :: rest) = b :: rest := by
  simp [skipBlanks, solid]

/-- Behind blanks and a token that begins no number, a number has ended. -/
theorem endsNumber_append {gap : Bytes} (blank : IsBlanks gap) {b : UInt8}
    (other : isDigit b = false ∧ b ≠ 0x2E ∧ b ≠ 0x65 ∧ b ≠ 0x45) (rest : Bytes) :
    EndsNumber (gap ++ b :: rest) := by
  rcases gap with _ | ⟨c, gap⟩
  · simpa [EndsNumber] using other
  · have hc : isBlank c = true := blank c (by simp)
    simp only [isBlank, Bool.or_eq_true, decide_eq_true_eq] at hc
    simp only [List.cons_append, EndsNumber, List.head?_cons, Option.mem_some_iff, forall_eq']
    rcases hc with ((rfl | rfl) | rfl) | rfl <;> decide

/-- A sign or a digit is no token of another kind. -/
private theorem solid_of_number {b : UInt8} (h : b = 0x2D ∨ isDigit b = true) :
    isBlank b = false ∧ b ≠ 0x5D ∧ b ≠ 0x7B ∧ b ≠ 0x5B ∧ b ≠ 0x22 := by
  rcases h with rfl | h
  · decide
  · rw [isDigit_iff, Numeral.IsDigit] at h
    have hne (c : UInt8) (hc : c.toNat < 48 ∨ 57 < c.toNat) : b ≠ c := by
      rintro rfl
      omega
    simp [isBlank, hne 0x20 (by decide), hne 0x09 (by decide), hne 0x0A (by decide),
      hne 0x0D (by decide), hne 0x5D (by decide), hne 0x7B (by decide), hne 0x5B (by decide),
      hne 0x22 (by decide)]

/-- Whether a text begins with a token, and not with the bracket that ends a list. -/
def IsSolid (t : Bytes) : Prop :=
  ∃ b rest, t = b :: rest ∧ isBlank b = false ∧ b ≠ 0x5D

/-- A text of a value begins with a token that is not the end of something. -/
theorem Value.Spells.isSolid {v : Value} {t : Bytes} (h : v.Spells t) : IsSolid t := by
  cases v with
  | null => exact ⟨0x6E, [0x75, 0x6C, 0x6C], h, by decide, by decide⟩
  | bool b =>
    cases b
    · exact ⟨0x66, [0x61, 0x6C, 0x73, 0x65], h, by decide, by decide⟩
    · exact ⟨0x74, [0x72, 0x75, 0x65], h, by decide, by decide⟩
  | number n =>
    obtain ⟨l, hl, -⟩ := h
    obtain ⟨b, rest, rfl, hb⟩ := hl.eq_cons
    obtain ⟨hblank, hend, -⟩ := solid_of_number hb
    exact ⟨b, rest, rfl, hblank, hend⟩
  | string s =>
    obtain ⟨parts, -, rfl⟩ := h
    exact ⟨0x22, _, rfl, by decide, by decide⟩
  | array items =>
    cases items with
    | done =>
      obtain ⟨_, -, rfl⟩ := h
      exact ⟨_, _, rfl, by decide, by decide⟩
    | more =>
      obtain ⟨_, _, _, -, -, -, rfl⟩ := h
      exact ⟨_, _, rfl, by decide, by decide⟩
    | malformed => exact h.elim
  | object members =>
    cases members with
    | done =>
      obtain ⟨_, -, rfl⟩ := h
      exact ⟨_, _, rfl, by decide, by decide⟩
    | more =>
      obtain ⟨_, _, _, _, _, _, -, -, -, -, -, -, rfl⟩ := h
      exact ⟨_, _, rfl, by decide, by decide⟩
    | malformed => exact h.elim
  | malformed => exact h.elim

/-- A text that begins with a token is not empty. -/
theorem IsSolid.length_pos {t : Bytes} (h : IsSolid t) : 0 < t.length := by
  obtain ⟨b, rest, rfl, -⟩ := h
  simp

/-- In front of a token blanks are skipped. -/
theorem IsSolid.skipBlanks_eq {t gap : Bytes} (h : IsSolid t) (blank : IsBlanks gap)
    (rest : Bytes) : skipBlanks (gap ++ (t ++ rest)) = t ++ rest := by
  obtain ⟨b, t, rfl, solid, -⟩ := h
  rw [skipBlanks_append blank, List.cons_append, skipBlanks_cons solid]

/-! ## Reading -/

/-- Whether a value is read from its text, in front of any text that ends a number and with as many
calls of the reader as take two for each byte. -/
def Value.IsRead (v : Value) (t : Bytes) : Prop :=
  ∀ ⦃gap rest : Bytes⦄ ⦃fuel : Nat⦄, IsBlanks gap → EndsNumber rest → 2 * t.length ≤ fuel →
    readValue fuel (gap ++ (t ++ rest)) = (v, some rest)

/-- The name of a leaf is read. -/
theorem readName_append (name : String) (v : Value) (rest : Bytes) :
    readName name v (Bytes.ofString name ++ rest) = (v, some rest) := by
  simp [readName]

/-- A string stands between quotes. -/
theorem quoted_append (parts : List TextPart) (rest : Bytes) : TextPart.quoted parts ++ rest =
    0x22 :: (parts.flatMap TextPart.text ++ 0x22 :: rest) := by
  simp [TextPart.quoted]

theorem Value.isRead_number {l : Literal} {t : Bytes} (h : l.Spells t) :
    (Value.number l.toNumber).IsRead t := by
  intro gap rest fuel blank ends hfuel
  obtain ⟨b, text, rfl, hb⟩ := h.eq_cons
  obtain ⟨hblank, -, hbrace, hbracket, hquote⟩ := solid_of_number hb
  obtain ⟨fuel, rfl⟩ : ∃ k, fuel = k + 1 := ⟨fuel - 1, by simp at hfuel; omega⟩
  have hread := h.read ends
  have hnum : (decide (b = 0x2D) || isDigit b) = true := by simpa using hb
  rw [readValue, skipBlanks_append blank]
  rw [List.cons_append] at hread ⊢
  rw [skipBlanks_cons hblank]
  simp [hbrace, hbracket, hquote, hnum, hread]

theorem Value.isRead_string (parts : List TextPart) :
    (Value.string (TextPart.string? parts)).IsRead (TextPart.quoted parts) := by
  intro gap rest fuel blank _ hfuel
  obtain ⟨fuel, rfl⟩ : ∃ k, fuel = k + 1 := ⟨fuel - 1, by simp [TextPart.quoted] at hfuel; omega⟩
  obtain ⟨piece, hread, rfl, htext⟩ := readText_quoted parts rest
  rw [readValue, quoted_append, skipBlanks_append blank, skipBlanks_cons (by decide)]
  simp [hread, htext]

theorem Value.isRead_null : Value.null.IsRead (Bytes.ofString "null") := by
  intro gap rest fuel blank _ hfuel
  have hspells : Value.null.Spells (Bytes.ofString "null") := rfl
  obtain ⟨fuel, rfl⟩ : ∃ k, fuel = k + 1 := ⟨fuel - 1, by have := hspells.isSolid.length_pos; omega⟩
  rw [readValue, hspells.isSolid.skipBlanks_eq blank]
  exact readName_append "null" .null rest

theorem Value.isRead_bool (b : Bool) : (Value.bool b).IsRead (printBool b) := by
  intro gap rest fuel blank _ hfuel
  have hspells : (Value.bool b).Spells (printBool b) := rfl
  obtain ⟨fuel, rfl⟩ : ∃ k, fuel = k + 1 := ⟨fuel - 1, by have := hspells.isSolid.length_pos; omega⟩
  rw [readValue, hspells.isSolid.skipBlanks_eq blank]
  cases b
  · exact readName_append "false" (.bool false) rest
  · exact readName_append "true" (.bool true) rest

/-- Items are read behind the first one. -/
def Items.IsRead (items : Items) (w : Bytes) : Prop :=
  ∀ ⦃first : Value⦄ ⦃u gap rest : Bytes⦄ ⦃fuel : Nat⦄, IsSolid u → first.IsRead u →
    IsBlanks gap → 2 * (u.length + w.length) ≤ fuel →
      readItems fuel (gap ++ (u ++ (w ++ rest))) = (.more first items, some rest)

/-- Members are read behind the first one. -/
def Members.IsRead (members : Members) (w : Bytes) : Prop :=
  ∀ ⦃parts : List TextPart⦄ ⦃value : Value⦄ ⦃u gap before after rest : Bytes⦄ ⦃fuel : Nat⦄,
    value.IsRead u → IsBlanks gap → IsBlanks before → IsBlanks after →
    2 * (u.length + w.length + 1) ≤ fuel →
      readMembers fuel
          (gap ++ (TextPart.quoted parts ++ (before ++ 0x3A :: (after ++ (u ++ (w ++ rest)))))) =
        (.more (TextPart.string? parts) value members, some rest)

theorem endsNumber_of_gap {gap : Bytes} (blank : IsBlanks gap) (rest : Bytes) :
    EndsNumber (gap ++ 0x5D :: rest) ∧ EndsNumber (gap ++ 0x7D :: rest) ∧
      EndsNumber (gap ++ 0x2C :: rest) :=
  ⟨endsNumber_append blank (by decide) rest, endsNumber_append blank (by decide) rest,
    endsNumber_append blank (by decide) rest⟩

theorem Items.isRead_done {gap : Bytes} (blank : IsBlanks gap) :
    Items.done.IsRead (gap ++ [0x5D]) := by
  intro first u front rest fuel hfirst read hfront hfuel
  obtain ⟨fuel, rfl⟩ : ∃ k, fuel = k + 1 := ⟨fuel - 1, by have := hfirst.length_pos; omega⟩
  simp only [List.append_assoc, List.singleton_append, List.length_append, List.length_singleton]
    at hfuel ⊢
  rw [readItems, read hfront (endsNumber_of_gap blank rest).1 (by omega)]
  simp [skipBlanks_append blank, skipBlanks_cons (b := 0x5D) (by decide)]

theorem Items.isRead_more {first : Value} {items : Items} {u w gap after : Bytes}
    (hfirst : IsSolid u) (readFirst : first.IsRead u) (readRest : items.IsRead w)
    (blank : IsBlanks gap) (hafter : IsBlanks after) :
    (Items.more first items).IsRead (gap ++ 0x2C :: (after ++ (u ++ w))) := by
  intro start v front rest fuel hstart readStart hfront hfuel
  obtain ⟨fuel, rfl⟩ : ∃ k, fuel = k + 1 := ⟨fuel - 1, by have := hstart.length_pos; omega⟩
  simp only [List.append_assoc, List.cons_append, List.length_append, List.length_cons]
    at hfuel ⊢
  have hrec := @readRest _ _ [] rest fuel hfirst readFirst isBlanks_nil (by omega)
  rw [readItems, readStart hfront (endsNumber_of_gap blank _).2.2 (by omega)]
  simp only [skipBlanks_append blank, skipBlanks_cons (b := 0x2C) (by decide),
    hfirst.skipBlanks_eq hafter]
  -- a bracket right behind the comma would be a fault, but no item begins with one
  obtain ⟨b, t, rfl, -, hend⟩ := hfirst
  simp only [List.nil_append, List.cons_append] at hrec ⊢
  split
  · simp_all
  · rw [hrec]

theorem Members.isRead_done {gap : Bytes} (blank : IsBlanks gap) :
    Members.done.IsRead (gap ++ [0x7D]) := by
  intro parts value u front before after rest fuel read hfront hbefore hafter hfuel
  obtain ⟨fuel, rfl⟩ : ∃ k, fuel = k + 1 := ⟨fuel - 1, by omega⟩
  simp only [List.append_assoc, List.singleton_append, List.length_append, List.length_singleton]
    at hfuel ⊢
  obtain ⟨piece, hread, hrest, htext⟩ :=
    readText_quoted parts (before ++ 0x3A :: (after ++ (u ++ (gap ++ 0x7D :: rest))))
  rw [readMembers, skipBlanks_append hfront, quoted_append, skipBlanks_cons (by decide)]
  simp only [hread, hrest, htext, skipBlanks_append hbefore,
    skipBlanks_cons (b := 0x3A) (by decide)]
  rw [read hafter (endsNumber_of_gap blank rest).2.1 (by omega)]
  simp [skipBlanks_append blank, skipBlanks_cons (b := 0x7D) (by decide)]

theorem Members.isRead_more {parts : List TextPart} {value : Value} {members : Members}
    {u w gap front before after : Bytes} (readValue : value.IsRead u)
    (readRest : members.IsRead w) (blank : IsBlanks gap) (hfront : IsBlanks front)
    (hbefore : IsBlanks before) (hafter : IsBlanks after) :
    (Members.more (TextPart.string? parts) value members).IsRead (gap ++ 0x2C :: (front ++
      (TextPart.quoted parts ++ (before ++ 0x3A :: (after ++ (u ++ w)))))) := by
  intro parts' value' v start before' after' rest fuel read hstart hbefore' hafter' hfuel
  obtain ⟨fuel, rfl⟩ : ∃ k, fuel = k + 1 := ⟨fuel - 1, by omega⟩
  simp only [List.append_assoc, List.cons_append, List.length_append, List.length_cons]
    at hfuel ⊢
  have hrec := @readRest parts _ _ _ _ _ rest fuel readValue hfront hbefore hafter (by omega)
  obtain ⟨piece, hread, hrest, htext⟩ := readText_quoted parts' (before' ++ 0x3A :: (after' ++ (v ++
    (gap ++ 0x2C :: (front ++ (TextPart.quoted parts ++ (before ++ 0x3A :: (after ++ (u ++
      (w ++ rest))))))))))
  rw [readMembers, skipBlanks_append hstart, quoted_append, skipBlanks_cons (by decide)]
  simp only [hread, hrest, htext, skipBlanks_append hbefore',
    skipBlanks_cons (b := 0x3A) (by decide)]
  rw [read hafter' (endsNumber_of_gap blank _).2.2 (by omega)]
  simp only [skipBlanks_append blank, skipBlanks_cons (b := 0x2C) (by decide), hrec]

theorem Value.isRead_emptyArray {inner : Bytes} (hinner : IsBlanks inner) :
    (Value.array .done).IsRead (0x5B :: (inner ++ [0x5D])) := by
  intro gap rest fuel blank _ hfuel
  simp only [List.length_cons, List.length_append, List.length_nil] at hfuel
  obtain ⟨fuel, rfl⟩ : ∃ k, fuel = k + 2 := ⟨fuel - 2, by omega⟩
  rw [readValue, skipBlanks_append blank, List.cons_append, skipBlanks_cons (by decide)]
  simp [readArray, skipBlanks_append hinner, skipBlanks_cons (b := 0x5D) (by decide)]

theorem Value.isRead_array {first : Value} {items : Items} {inner u w : Bytes}
    (hinner : IsBlanks inner) (hfirst : IsSolid u) (readFirst : first.IsRead u)
    (readRest : items.IsRead w) :
    (Value.array (.more first items)).IsRead (0x5B :: (inner ++ (u ++ w))) := by
  intro gap rest fuel blank _ hfuel
  simp only [List.length_cons, List.length_append] at hfuel
  obtain ⟨fuel, rfl⟩ : ∃ k, fuel = k + 2 := ⟨fuel - 2, by omega⟩
  have hrec := @readRest _ _ [] rest fuel hfirst readFirst
    isBlanks_nil (by omega)
  rw [readValue, skipBlanks_append blank, List.cons_append, skipBlanks_cons (by decide)]
  simp only [List.append_assoc, readArray, hfirst.skipBlanks_eq hinner]
  -- the array does not end here, since no item begins with a bracket that closes
  obtain ⟨b, t, rfl, -, hend⟩ := hfirst
  simp only [List.nil_append, List.cons_append] at hrec ⊢
  split <;> simp_all

theorem Value.isRead_emptyObject {inner : Bytes} (hinner : IsBlanks inner) :
    (Value.object .done).IsRead (0x7B :: (inner ++ [0x7D])) := by
  intro gap rest fuel blank _ hfuel
  simp only [List.length_cons, List.length_append, List.length_nil] at hfuel
  obtain ⟨fuel, rfl⟩ : ∃ k, fuel = k + 2 := ⟨fuel - 2, by omega⟩
  rw [readValue, skipBlanks_append blank, List.cons_append, skipBlanks_cons (by decide)]
  simp [readObject, skipBlanks_append hinner, skipBlanks_cons (b := 0x7D) (by decide)]

theorem Value.isRead_object {parts : List TextPart} {value : Value} {members : Members}
    {inner before after u w : Bytes} (hinner : IsBlanks inner) (hbefore : IsBlanks before)
    (hafter : IsBlanks after) (read : value.IsRead u) (readRest : members.IsRead w) :
    (Value.object (.more (TextPart.string? parts) value members)).IsRead
      (0x7B :: (inner ++ (TextPart.quoted parts ++ (before ++ 0x3A :: (after ++ (u ++ w)))))) := by
  intro gap rest fuel blank _ hfuel
  simp only [List.length_cons, List.length_append] at hfuel
  obtain ⟨fuel, rfl⟩ : ∃ k, fuel = k + 2 := ⟨fuel - 2, by omega⟩
  have hrec := @readRest parts _ _ [] _ _ rest fuel read
    isBlanks_nil hbefore hafter (by omega)
  rw [readValue, skipBlanks_append blank, List.cons_append, skipBlanks_cons (by decide)]
  simp only [List.append_assoc, readObject, skipBlanks_append hinner]
  rw [quoted_append, skipBlanks_cons (by decide)]
  rw [List.nil_append, quoted_append] at hrec
  simp [hrec]

mutual

/-- Every text of a value is read as the value. -/
theorem Value.Spells.isRead : ∀ {v : Value} {t : Bytes}, v.Spells t → v.IsRead t
  | .null, _, h => by
    obtain rfl := h
    exact Value.isRead_null
  | .bool b, _, h => by
    obtain rfl := h
    exact Value.isRead_bool b
  | .number n, _, h => by
    obtain ⟨l, hl, rfl⟩ := h
    exact Value.isRead_number hl
  | .string s, _, h => by
    obtain ⟨parts, rfl, rfl⟩ := h
    exact Value.isRead_string parts
  | .array .done, _, h => by
    obtain ⟨inner, hinner, rfl⟩ := h
    exact Value.isRead_emptyArray hinner
  | .array (.more first items), _, h => by
    obtain ⟨inner, u, w, hinner, hfirst, hitems, rfl⟩ := h
    exact Value.isRead_array hinner hfirst.isSolid (Value.Spells.isRead hfirst)
      (Items.Spells.isRead hitems)
  | .object .done, _, h => by
    obtain ⟨inner, hinner, rfl⟩ := h
    exact Value.isRead_emptyObject hinner
  | .object (.more key value members), _, h => by
    obtain ⟨parts, inner, before, after, u, w, rfl, hinner, hbefore, hafter, hvalue, hmembers,
      rfl⟩ := h
    exact Value.isRead_object hinner hbefore hafter (Value.Spells.isRead hvalue)
      (Members.Spells.isRead hmembers)
  | .array .malformed, _, h | .object .malformed, _, h | .malformed, _, h => h.elim

/-- Every text of the items behind the first one is read as these items. -/
theorem Items.Spells.isRead : ∀ {items : Items} {w : Bytes}, items.Spells w → items.IsRead w
  | .done, _, h => by
    obtain ⟨gap, blank, rfl⟩ := h
    exact Items.isRead_done blank
  | .more first items, _, h => by
    obtain ⟨gap, after, u, w, blank, hafter, hfirst, hitems, rfl⟩ := h
    exact Items.isRead_more hfirst.isSolid (Value.Spells.isRead hfirst) (Items.Spells.isRead hitems)
      blank hafter
  | .malformed, _, h => h.elim

/-- Every text of the members behind the first one is read as these members. -/
theorem Members.Spells.isRead : ∀ {members : Members} {w : Bytes},
    members.Spells w → members.IsRead w
  | .done, _, h => by
    obtain ⟨gap, blank, rfl⟩ := h
    exact Members.isRead_done blank
  | .more key value members, _, h => by
    obtain ⟨parts, gap, front, before, after, u, w, rfl, blank, hfront, hbefore, hafter, hvalue,
      hmembers, rfl⟩ := h
    exact Members.isRead_more (Value.Spells.isRead hvalue) (Members.Spells.isRead hmembers) blank
      hfront hbefore hafter
  | .malformed, _, h => h.elim

end

/-- Every text of a value, between blanks, is a document with this value. -/
theorem Value.Spells.read {v : Value} {t gap after : Bytes} (h : v.Spells t)
    (blank : IsBlanks gap) (hafter : IsBlanks after) :
    Document.read (gap ++ (t ++ after)) = ⟨v, true⟩ := by
  -- blanks end a number, and so does the end of the text
  have ends : EndsNumber after := by
    have hends := endsNumber_append (b := 0x5D) hafter (by decide) []
    intro b hb
    exact hends b (by
      rcases after with _ | ⟨c, after⟩
      · cases hb
      · exact hb)
  have hread := @Value.Spells.isRead _ _ h _ _ (2 * (gap ++ (t ++ after)).length + 2) blank ends (by
    simp only [List.length_append]
    omega)
  have hskip : skipBlanks after = [] := by
    simpa [skipBlanks] using skipBlanks_append hafter []
  simp only [Document.read, hread, hskip, List.isEmpty_nil]

/-- A text is one of at most one value. -/
theorem Value.Spells.unique {v v' : Value} {t : Bytes} (h : v.Spells t) (h' : v'.Spells t) :
    v = v' := by
  have read := h.read isBlanks_nil isBlanks_nil
  rw [h'.read isBlanks_nil isBlanks_nil] at read
  exact (congrArg Document.value read).symm

mutual

/-- Nothing goes wrong in the text of a value. -/
theorem Value.Spells.isWellFormed : ∀ {v : Value} {t : Bytes}, v.Spells t → v.isWellFormed = true
  | .null, _, _ | .bool _, _, _ | .number _, _, _ | .string _, _, _ => rfl
  | .array .done, _, _ | .object .done, _, _ => rfl
  | .array (.more first items), _, h => by
    obtain ⟨_, _, _, -, hfirst, hitems, -⟩ := h
    simp [Value.isWellFormed, Items.isWellFormed, Value.Spells.isWellFormed hfirst,
      Items.Spells.isWellFormed hitems]
  | .object (.more key value members), _, h => by
    obtain ⟨_, _, _, _, _, _, -, -, -, -, hvalue, hmembers, -⟩ := h
    simp [Value.isWellFormed, Members.isWellFormed, Value.Spells.isWellFormed hvalue,
      Members.Spells.isWellFormed hmembers]
  | .array .malformed, _, h | .object .malformed, _, h | .malformed, _, h => h.elim

theorem Items.Spells.isWellFormed : ∀ {items : Items} {w : Bytes}, items.Spells w →
    items.isWellFormed = true
  | .done, _, _ => rfl
  | .more first items, _, h => by
    obtain ⟨_, _, _, _, -, -, hfirst, hitems, -⟩ := h
    simp [Items.isWellFormed, Value.Spells.isWellFormed hfirst, Items.Spells.isWellFormed hitems]
  | .malformed, _, h => h.elim

theorem Members.Spells.isWellFormed : ∀ {members : Members} {w : Bytes}, members.Spells w →
    members.isWellFormed = true
  | .done, _, _ => rfl
  | .more key value members, _, h => by
    obtain ⟨_, _, _, _, _, _, _, -, -, -, -, -, hvalue, hmembers, -⟩ := h
    simp [Members.isWellFormed, Value.Spells.isWellFormed hvalue,
      Members.Spells.isWellFormed hmembers]
  | .malformed, _, h => h.elim

end

/-! ## Printed texts -/

/-- An integer of 64 bits has what is printed for it as a text. -/
theorem Value.spells_printInt {n : Int} (low : -Numeral.halfWord ≤ n) (high : n < UInt64.size) :
    (Value.number (.integer n)).Spells (printInt n) :=
  ⟨.ofInt n, Json.spells_printInt n, by rw [Literal.toNumber_ofInt, if_pos ⟨low, high⟩]⟩

mutual

/-- A text of printed texts and integers is a text of the value. -/
theorem Value.Writes.spells : ∀ {v : Value} {t : Bytes}, v.Writes t → v.Spells t
  | .null, _, h => h
  | .bool _, _, h => h
  | .number (.integer n), _, h => by
    obtain ⟨low, high, rfl⟩ := h
    exact Value.spells_printInt low high
  | .string (some s), _, h => by
    obtain ⟨parts, hquoted, hparts⟩ := exists_printText s
    obtain rfl := h
    exact ⟨parts, hparts, hquoted⟩
  | .array .done, _, h => h
  | .array (.more first items), _, h => by
    obtain ⟨inner, u, w, hinner, hfirst, hitems, rfl⟩ := h
    exact ⟨inner, u, w, hinner, Value.Writes.spells hfirst, Items.Writes.spells hitems, rfl⟩
  | .object .done, _, h => h
  | .object (.more (some key) value members), _, h => by
    obtain ⟨inner, before, after, u, w, hinner, hbefore, hafter, hvalue, hmembers, rfl⟩ := h
    obtain ⟨parts, hquoted, hparts⟩ := exists_printText key
    exact ⟨parts, inner, before, after, u, w, hparts, hinner, hbefore, hafter,
      Value.Writes.spells hvalue, Members.Writes.spells hmembers, by rw [hquoted]⟩

theorem Items.Writes.spells : ∀ {items : Items} {w : Bytes}, items.Writes w → items.Spells w
  | .done, _, h => h
  | .more first items, _, h => by
    obtain ⟨gap, after, u, w, blank, hafter, hfirst, hitems, rfl⟩ := h
    exact ⟨gap, after, u, w, blank, hafter, Value.Writes.spells hfirst, Items.Writes.spells hitems,
      rfl⟩

theorem Members.Writes.spells : ∀ {members : Members} {w : Bytes},
    members.Writes w → members.Spells w
  | .done, _, h => h
  | .more (some key) value members, _, h => by
    obtain ⟨gap, front, before, after, u, w, blank, hfront, hbefore, hafter, hvalue, hmembers,
      rfl⟩ := h
    obtain ⟨parts, hquoted, hparts⟩ := exists_printText key
    exact ⟨parts, gap, front, before, after, u, w, hparts, blank, hfront, hbefore, hafter,
      Value.Writes.spells hvalue, Members.Writes.spells hmembers, by rw [hquoted]⟩

end

/-! ## Layouts -/

mutual

/-- Whether a value can be written: nothing in it has gone wrong, and its numbers are integers of
64 bits. -/
def Value.IsWritable : Value → Prop
  | .null | .bool _ => True
  | .number (.integer n) => -Numeral.halfWord ≤ n ∧ n < UInt64.size
  | .string (some _) => True
  | .array items => items.IsWritable
  | .object members => members.IsWritable
  | _ => False

def Items.IsWritable : Items → Prop
  | .done => True
  | .more first rest => first.IsWritable ∧ rest.IsWritable
  | .malformed => False

def Members.IsWritable : Members → Prop
  | .done => True
  | .more (some _) value rest => value.IsWritable ∧ rest.IsWritable
  | _ => False

end

/-- A line end and an indentation are blanks. -/
theorem isBlanks_newLine (level : Nat) : IsBlanks (newLine level) := by
  intro b hb
  rcases (by simpa [newLine] using hb : b = 0x0A ∨ 2 * level ≠ 0 ∧ b = 0x20) with rfl | ⟨-, rfl⟩ <;>
    decide

private theorem isBlanks_space : IsBlanks [0x20] := by
  intro b hb
  obtain rfl := List.mem_singleton.1 hb
  decide

mutual

/-- The pretty layout of a value is a text of it. -/
theorem Value.writes_prettyAt : ∀ {v : Value} (level : Nat), v.IsWritable →
    v.Writes (v.prettyAt level)
  | .null, _, _ => rfl
  | .bool _, _, _ => rfl
  | .number (.integer _), _, h => ⟨h.1, h.2, rfl⟩
  | .string (some _), _, _ => rfl
  | .array .done, _, _ => ⟨[], isBlanks_nil, rfl⟩
  | .array (.more first items), level, h =>
    ⟨_, _, _, isBlanks_newLine (level + 1), Value.writes_prettyAt (level + 1) h.1,
      Items.writes_prettyAt level h.2, by simp [Value.prettyAt]⟩
  | .object .done, _, _ => ⟨[], isBlanks_nil, rfl⟩
  | .object (.more (some key) value members), level, h =>
    ⟨_, [], _, _, _, isBlanks_newLine (level + 1), isBlanks_nil, isBlanks_space,
      Value.writes_prettyAt (level + 1) h.1, Members.writes_prettyAt level h.2,
      by simp [Value.prettyAt]⟩

theorem Items.writes_prettyAt : ∀ {items : Items} (level : Nat), items.IsWritable →
    items.Writes (items.prettyAt level)
  | .done, level, _ => ⟨_, isBlanks_newLine level, rfl⟩
  | .more first items, level, h =>
    ⟨[], _, _, _, isBlanks_nil, isBlanks_newLine (level + 1), Value.writes_prettyAt (level + 1) h.1,
      Items.writes_prettyAt level h.2, by simp [Items.prettyAt]⟩

theorem Members.writes_prettyAt : ∀ {members : Members} (level : Nat), members.IsWritable →
    members.Writes (members.prettyAt level)
  | .done, level, _ => ⟨_, isBlanks_newLine level, rfl⟩
  | .more (some key) value members, level, h =>
    ⟨[], _, [], _, _, _, isBlanks_nil, isBlanks_newLine (level + 1), isBlanks_nil, isBlanks_space,
      Value.writes_prettyAt (level + 1) h.1, Members.writes_prettyAt level h.2,
      by simp [Members.prettyAt]⟩

end

mutual

/-- The compact layout of a value is a text of it. -/
theorem Value.writes_compact : ∀ {v : Value}, v.IsWritable → v.Writes v.compact
  | .null, _ => rfl
  | .bool _, _ => rfl
  | .number (.integer _), h => ⟨h.1, h.2, rfl⟩
  | .string (some _), _ => rfl
  | .array .done, _ => ⟨[], isBlanks_nil, rfl⟩
  | .array (.more _ _), h =>
    ⟨[], _, _, isBlanks_nil, Value.writes_compact h.1, Items.writes_compact h.2, rfl⟩
  | .object .done, _ => ⟨[], isBlanks_nil, rfl⟩
  | .object (.more (some _) _ _), h =>
    ⟨[], [], [], _, _, isBlanks_nil, isBlanks_nil, isBlanks_nil, Value.writes_compact h.1,
      Members.writes_compact h.2, rfl⟩

theorem Items.writes_compact : ∀ {items : Items}, items.IsWritable → items.Writes items.compact
  | .done, _ => ⟨[], isBlanks_nil, rfl⟩
  | .more _ _, h =>
    ⟨[], [], _, _, isBlanks_nil, isBlanks_nil, Value.writes_compact h.1, Items.writes_compact h.2,
      rfl⟩

theorem Members.writes_compact : ∀ {members : Members}, members.IsWritable →
    members.Writes members.compact
  | .done, _ => ⟨[], isBlanks_nil, rfl⟩
  | .more (some _) _ _, h =>
    ⟨[], [], [], [], _, _, isBlanks_nil, isBlanks_nil, isBlanks_nil, isBlanks_nil,
      Value.writes_compact h.1, Members.writes_compact h.2, rfl⟩

end

/-- What is written in the pretty layout is read back. -/
theorem Document.read_pretty {v : Value} (h : v.IsWritable) :
    Document.read v.pretty = ⟨v, true⟩ := by
  simpa [Value.pretty] using (Value.writes_prettyAt 0 h).spells.read isBlanks_nil isBlanks_nil

end Json

end ObjectTransfer
