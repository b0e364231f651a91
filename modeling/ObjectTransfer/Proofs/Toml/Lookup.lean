import ObjectTransfer.Proofs.Toml.Layout

/-!
# What a document holds under a name

A value is looked up by the name of its section and by its own. A section may be a table with a
header, a table that dotted keys have made, or an inline table: they are not told apart when a
record is read.

The module introduces:

* `Table.Has t name v`: a table has a value under a name, and `Table.At t part name v`: a section of
  the table has it;
* `Layout`: a document of pairs and of sections, as it is written.

Main statements: `decodeEntries_eq_error`, an entry that no record takes makes reading fail wherever
it stands, and `Layout.readDocument_at`, a document that is written holds what it shows.
-/

namespace ObjectTransfer

namespace Toml

namespace Table

/-- Whether a table has a value under a name. -/
def Has (t : Table) (name : String) (v : Value) : Prop :=
  ∃ e ∈ t.entries, e.1.name = name ∧ (e.2.located e.1).value = v

/-- Whether a section of a table has a value under a name. -/
def At (t : Table) (part name : String) (v : Value) : Prop :=
  ∃ inner, t.Has part (.inline inner) ∧ inner.Has name v

end Table

/-! ## Values of another kind -/

/-- Nothing but a number that is not negative is read as a number. -/
theorem decodeUInt64_eq_error {expected : String} {v : Located}
    (h : ¬∃ n : Nat, v.value = .integer n) : ∃ fault, decodeUInt64 expected v = .error fault := by
  obtain ⟨start, value⟩ := v
  cases value with
  | integer n =>
    have negative : ¬0 ≤ n := fun hn => h ⟨n.toNat, by rw [Int.toNat_of_nonneg hn]⟩
    exact ⟨⟨start, .invalidValue n expected⟩, by simp only [decodeUInt64, negative, if_false]⟩
  | _ => exact ⟨_, rfl⟩

/-- Nothing but a text is read as a text. -/
theorem decodeString_eq_error {expected : String} {v : Located}
    (h : ¬∃ text, v.value = .string text) : ∃ fault, decodeString expected v = .error fault := by
  obtain ⟨start, value⟩ := v
  cases value with
  | string text => exact absurd ⟨text, rfl⟩ h
  | _ => exact ⟨_, rfl⟩

/-! ## Entries one after the other -/

section Entries

variable {α : Type} {fields : List (Field α)} {record : α} {entries : List (Key × Node)}

/-- An entry whose name is that of a field is put there. -/
theorem decodeEntries_cons_of_find {e : Key × Node} {f : Field α}
    (find : fields.find? (fun f => f.name = e.1.name) = some f) (record : α)
    (rest : List (Key × Node)) : decodeEntries fields record (e :: rest) =
      (f.put record (e.2.located e.1) >>= fun record => decodeEntries fields record rest) := by
  rw [decodeEntries, find]

/-- An entry with another name is passed over. -/
theorem decodeEntries_cons_of_unknown {e : Key × Node}
    (find : fields.find? (fun f => f.name = e.1.name) = none) (record : α)
    (rest : List (Key × Node)) :
    decodeEntries fields record (e :: rest) = decodeEntries fields record rest := by
  rw [decodeEntries, find]

/-- An entry that its field refuses, whatever the record is, makes reading fail wherever it
stands. -/
theorem decodeEntries_eq_error {e : Key × Node} (mem : e ∈ entries) {f : Field α}
    (find : fields.find? (fun f => f.name = e.1.name) = some f)
    (refused : ∀ record, ∃ fault, f.put record (e.2.located e.1) = .error fault) :
    ∃ fault, decodeEntries fields record entries = .error fault := by
  induction entries generalizing record with
  | nil => cases mem
  | cons first rest ih =>
    rcases List.mem_cons.1 mem with rfl | mem
    · obtain ⟨fault, hput⟩ := refused record
      exact ⟨fault, by rw [decodeEntries_cons_of_find find, hput]; rfl⟩
    -- an entry in front is refused itself, or it only changes the record
    · rcases hfind : fields.find? (fun f => f.name = first.1.name) with _ | g
      · rw [decodeEntries_cons_of_unknown hfind]
        exact ih mem
      · rw [decodeEntries_cons_of_find hfind]
        rcases g.put record (first.2.located first.1) with fault | record
        · exact ⟨fault, rfl⟩
        · exact ih mem

/-- A field is found by a name that no other one has. -/
theorem find?_field {β : Type} {field : β → Field α} {bs : List β} {b : β} {name : String}
    (mem : b ∈ bs) (named : (field b).name = name)
    (distinct : ∀ b' ∈ bs, (field b').name = name → b' = b) :
    (bs.map field).find? (fun f => f.name = name) = some (field b) := by
  induction bs with
  | nil => cases mem
  | cons first rest ih =>
    by_cases hname : (field first).name = name
    · rw [distinct first (by simp) hname]
      simp [named]
    · rw [List.map_cons, List.find?_cons_of_neg (by simpa using hname)]
      refine ih ((List.mem_cons.1 mem).resolve_left ?_) fun b' hb' => distinct b' (by simp [hb'])
      rintro rfl
      exact hname named

/-- No field is found by a name that none has. -/
theorem find?_field_eq_none {β : Type} {field : β → Field α} {bs : List β} {name : String}
    (fresh : ∀ b ∈ bs, (field b).name ≠ name) :
    (bs.map field).find? (fun f => f.name = name) = none := by
  simpa using fresh

end Entries

/-! ## Documents as they are written -/

/-- A document: pairs, and below them sections. -/
structure Layout where
  pairs : List Pair
  sections : List Section

namespace Layout

/-- The lines of the document. -/
def text (l : Layout) : Bytes :=
  l.pairs.flatMap Pair.line ++ l.sections.flatMap Section.text

/-- Whether the document is read back. -/
structure Reads (l : Layout) : Prop where
  pairs : ∀ p ∈ l.pairs, p.Reads
  sections : ∀ s ∈ l.sections, s.Reads
  distinct : (l.pairs.map Pair.key ++ l.sections.map Section.name).Nodup

/-- Whether a section of the document shows a value under a name. -/
def At (l : Layout) (part name : String) (v : Value) : Prop :=
  ∃ s ∈ l.sections, s.name = part ∧ ∃ p ∈ s.pairs, p.key = name ∧ p.value = v

/-- No pair has the name of a section. -/
theorem Reads.fresh {l : Layout} (reads : l.Reads) {part name : String} {v : Value}
    (shown : l.At part name v) : part ∉ l.pairs.map Pair.key := by
  obtain ⟨s, hs, rfl, -⟩ := shown
  intro mem
  exact (List.nodup_append.1 reads.distinct).2.2 _ mem _ (List.mem_map_of_mem hs) rfl

end Layout

/-- What two lists relate one by one, they relate in both directions. -/
private theorem forall₂_mem {α β : Type} {R : α → β → Prop} {as : List α} {bs : List β}
    (h : List.Forall₂ R as bs) :
    (∀ a ∈ as, ∃ b ∈ bs, R a b) ∧ ∀ b ∈ bs, ∃ a ∈ as, R a b := by
  induction h with
  | nil => simp
  | cons first _ ih =>
    refine ⟨?_, ?_⟩
    · rintro a (_ | ⟨_, mem⟩)
      · exact ⟨_, List.mem_cons_self, first⟩
      · obtain ⟨b, hb, hab⟩ := ih.1 a mem
        exact ⟨b, List.mem_cons_of_mem _ hb, hab⟩
    · rintro b (_ | ⟨_, mem⟩)
      · exact ⟨_, List.mem_cons_self, first⟩
      · obtain ⟨a, ha, hab⟩ := ih.2 b mem
        exact ⟨a, List.mem_cons_of_mem _ ha, hab⟩

/-- A table of pairs has their values. -/
theorem Table.Shows.has_iff {t : Table} {pairs : List Pair} (shows : t.Shows pairs) {name : String}
    {v : Value} : t.Has name v ↔ ∃ p ∈ pairs, p.key = name ∧ p.value = v := by
  obtain ⟨hpairs, hentries⟩ := forall₂_mem shows.entries
  constructor
  · rintro ⟨⟨key, node⟩, mem, rfl, rfl⟩
    obtain ⟨p, hp, hname, start, rfl⟩ := hentries _ mem
    exact ⟨p, hp, hname.symm, rfl⟩
  · rintro ⟨p, hp, rfl, rfl⟩
    obtain ⟨⟨key, node⟩, mem, hname, start, rfl⟩ := hpairs p hp
    exact ⟨_, mem, hname, rfl⟩

/-- A document is read as a table whose sections have what they show. Under a name that no pair
above the sections has, there is nothing but a section. -/
theorem Layout.readDocument_at {l : Layout} (reads : l.Reads) :
    ∃ table, readDocument l.text = .ok table ∧
      ∀ part, part ∉ l.pairs.map Pair.key → (∀ v, table.Has part v → ∃ inner, v = .inline inner) ∧
        ∀ name v, table.At part name v ↔ l.At part name v := by
  obtain ⟨table, read, shown⟩ := readDocument_layout reads.pairs reads.sections reads.distinct
  obtain ⟨hparts, hentries⟩ := forall₂_mem shown
  refine ⟨table, read, fun part fresh => ?_⟩
  -- an entry of that name is a section
  have section_of {e : Key × Node} (mem : e ∈ table.entries) (hname : e.1.name = part) :
      ∃ s ∈ l.sections, s.name = part ∧ ∃ t : Table, e.2 = .table t ∧ t.Shows s.pairs := by
    obtain ⟨shape, hshape, hshown⟩ := hentries e mem
    have hnamed := hshown.name_eq.symm.trans hname
    simp only [List.mem_append, List.mem_map] at hshape
    rcases hshape with ⟨p, hp, rfl⟩ | ⟨s, hs, rfl⟩
    · exact absurd (List.mem_map.2 ⟨p, hp, hnamed⟩) fresh
    · exact ⟨s, hs, hnamed, hshown.2⟩
  refine ⟨?_, fun name v => ⟨?_, ?_⟩⟩
  · rintro v ⟨⟨key, node⟩, mem, hname, rfl⟩
    obtain ⟨s, -, -, t, rfl, -⟩ := section_of mem hname
    exact ⟨t, rfl⟩
  · rintro ⟨inner, ⟨⟨key, node⟩, mem, hname, hinner⟩, has⟩
    obtain ⟨s, hs, hsname, t, rfl, shows⟩ := section_of mem hname
    obtain rfl : t = inner := by simpa [Node.located] using hinner
    exact ⟨s, hs, hsname, shows.has_iff.1 has⟩
  · rintro ⟨s, hs, hsname, hpair⟩
    obtain ⟨⟨key, node⟩, mem, hname, t, rfl, shows⟩ :=
      hparts (.table s) (List.mem_append_right _ (List.mem_map_of_mem hs))
    exact ⟨t, ⟨_, mem, hname.trans hsname, rfl⟩, shows.has_iff.2 hpair⟩

end Toml

end ObjectTransfer
