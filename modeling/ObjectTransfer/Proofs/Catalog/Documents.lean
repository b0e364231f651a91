import ObjectTransfer.Catalog.Entry
import ObjectTransfer.Proofs.Json.Records

/-!
# Documents in JSON

Whatever the ids, infos and operations of documents are, they survive the way through the JSON text
of a catalog.

The module introduces `Documents.Ordered docs`: the ids ascend, so that no document stands twice.

Main statements: `CatalogEntry.ofJson_toJson`; `Documents.Ordered.read_pretty`, ordered documents
are read back from their text; `Documents.ordered_of_read`, all documents that are read are ordered.
-/

namespace ObjectTransfer

namespace Json

/-- A list is read item by item. -/
theorem decodeList_ofList {α : Type} {toJson : α → Value} {read : Value → Except DecodeError α}
    (readBack : ∀ a, read (toJson a) = .ok a) (items : List α) :
    decodeList read (.array (.ofList (items.map toJson))) = .ok items := by
  show decodeItems read (.ofList (items.map toJson)) = .ok items
  induction items with
  | nil => rfl
  | cons a items ih =>
    have hcons : Items.ofList ((a :: items).map toJson) =
        .more (toJson a) (.ofList (items.map toJson)) := rfl
    rw [hcons, decodeItems, readBack, ih]
    rfl

/-- What every member keeps that is read is kept by all. -/
theorem foldMembers_keeps {δ : Type} {put : δ → String → Value → Except DecodeError δ}
    {P : δ → Prop} (keeps : ∀ draft key value draft', P draft → put draft key value = .ok draft' →
      P draft') {members : Members} {draft draft' : δ} (start : P draft)
    (h : foldMembers put draft members = .ok draft') : P draft' := by
  fun_induction foldMembers put draft members with
  | case1 draft =>
    cases h
    exact start
  | case2 => cases h
  | case3 => cases h
  | case4 draft key value rest ih =>
    rcases hput : put draft key value with e | next <;> rw [hput] at h
    · cases h
    · exact ih next (keeps _ _ _ _ start hput) h

/-- What is read from a text is read from a value. -/
theorem decodeDocument_ok {α : Type} {read : Value → Except DecodeError α} {text : Bytes} {a : α}
    (h : decodeDocument read text = .ok a) : read (Document.read text).value = .ok a := by
  rw [decodeDocument] at h
  rcases hread : read (Document.read text).value with e | b <;>
    simp only [hread, bind, Except.bind] at h
  · cases h
  · split at h
    · exact h
    · cases h

/-- A map is read from the members of an object. -/
theorem decodeMap_ok {δ : Type} {put : δ → String → Value → Except DecodeError δ} {empty draft : δ}
    {v : Value} (h : decodeMap put empty v = .ok draft) :
    ∃ members, v = .object members ∧ foldMembers put empty members = .ok draft := by
  cases v with
  | object members => exact ⟨members, rfl, h⟩
  | null | bool | number | string | array | malformed => cases h

/-- Items that can be written make a list that can be written. -/
theorem isWritable_items {α : Type} {toJson : α → Value} (writable : ∀ a, (toJson a).IsWritable)
    (items : List α) : (Items.ofList (items.map toJson)).IsWritable := by
  induction items with
  | nil => trivial
  | cons a items ih => exact ⟨writable a, ih⟩

end Json

/-! ## Entries -/

namespace OperationCode

@[simp]
theorem ofJson_toJson (c : OperationCode) : ofJson c.toJson = .ok c := by
  simp [ofJson, toJson, Except.map]

theorem isWritable_toJson (c : OperationCode) : c.toJson.IsWritable :=
  Json.isWritable_ofNat (Nat.lt_trans c.value.toNat_lt (by decide))

end OperationCode

namespace CatalogEntry

theorem isWritable_toJson (e : CatalogEntry) : e.toJson.IsWritable := by
  have hdevice : e.device.toNat < UInt64.size := Nat.lt_trans e.device.toNat_lt (by decide)
  have hhandle : e.handle.toNat < UInt64.size := Nat.lt_trans e.handle.toNat_lt (by decide)
  exact ⟨Json.isWritable_ofNat hdevice, Json.isWritable_ofNat hhandle, trivial,
    Json.isWritable_items OperationCode.isWritable_toJson e.operations, e.info.isWritable_toJson,
    trivial⟩

/-- An entry is what its JSON value is taken for. -/
@[simp]
theorem ofJson_toJson (e : CatalogEntry) : ofJson e.toJson = .ok e := by
  have hoperations := Json.decodeList_ofList OperationCode.ofJson_toJson e.operations
  simp [ofJson, toJson, Json.decodeRecord, ofMembers, Json.Members.ofList, Json.foldMembers,
    Draft.put, Json.readField, Draft.finish, Json.required, hoperations, Except.map, bind,
    Except.bind, pure, Except.pure]

end CatalogEntry

/-! ## Documents -/

namespace Documents

/-- Whether the ids of documents ascend. -/
def Ordered (docs : Documents) : Prop :=
  docs.Pairwise fun d d' => d.1 < d'.1

variable {docs : Documents} {id : String} {e : CatalogEntry}

/-- The ids of documents among which one is put are its own and those that were there. -/
theorem mem_insert {d : String × CatalogEntry} (h : d ∈ docs.insert id e) :
    d.1 = id ∨ d ∈ docs := by
  induction docs with
  | nil =>
    obtain rfl := List.mem_singleton.1 h
    exact .inl rfl
  | cons head rest ih =>
    obtain ⟨k, v⟩ := head
    rw [insert] at h
    -- the document stands in front of the head, takes its place, or goes further down
    split at h
    · rcases List.mem_cons.1 h with rfl | h
      · exact .inl rfl
      · exact .inr h
    · split at h
      · rcases List.mem_cons.1 h with rfl | h
        · exact .inl rfl
        · exact .inr (List.mem_cons_of_mem _ h)
      · rcases List.mem_cons.1 h with rfl | h
        · exact .inr List.mem_cons_self
        · rcases ih h with hid | hd
          · exact .inl hid
          · exact .inr (List.mem_cons_of_mem _ hd)

/-- Documents stay ordered when one is put in its place. -/
theorem Ordered.insert (ordered : Ordered docs) (id : String) (e : CatalogEntry) :
    Ordered (docs.insert id e) := by
  induction docs with
  | nil => exact List.pairwise_singleton _ _
  | cons head rest ih =>
    obtain ⟨k, v⟩ := head
    obtain ⟨below, ordered⟩ := List.pairwise_cons.1 ordered
    rw [Documents.insert]
    -- the new document comes before the head, takes its place, or goes behind it
    split
    · next hlt =>
      refine List.pairwise_cons.2 ⟨fun d hd => ?_, List.pairwise_cons.2 ⟨below, ordered⟩⟩
      rcases List.mem_cons.1 hd with rfl | hd
      · exact hlt
      · exact String.lt_trans hlt (below d hd)
    · next hle =>
      split
      · next heq => exact List.pairwise_cons.2 ⟨heq ▸ below, ordered⟩
      · next hne =>
        have hlt : k < id := Std.lt_of_le_of_ne (String.not_lt.1 hle) (Ne.symm hne)
        refine List.pairwise_cons.2 ⟨fun d hd => ?_, ih ordered⟩
        rcases mem_insert hd with hid | hd
        · exact hid ▸ hlt
        · exact below d hd

/-- A document with the highest id is put behind all others. -/
theorem insert_of_forall_lt (above : ∀ d ∈ docs, d.1 < id) :
    docs.insert id e = docs ++ [(id, e)] := by
  induction docs with
  | nil => rfl
  | cons head rest ih =>
    obtain ⟨k, v⟩ := head
    have hlt : k < id := above _ List.mem_cons_self
    have hne : id ≠ k := by
      rintro rfl
      exact String.lt_irrefl _ hlt
    rw [insert, if_neg (String.lt_asymm hlt), if_neg hne,
      ih fun d hd => above d (List.mem_cons_of_mem _ hd)]
    rfl

/-! ### Reading -/

/-- All documents that are read from a text are ordered. -/
theorem ordered_of_read {text : Bytes} (h : read text = .ok docs) : Ordered docs := by
  obtain ⟨members, -, hfold⟩ := Json.decodeMap_ok (Json.decodeDocument_ok h)
  refine Json.foldMembers_keeps (fun before key value after ordered hput => ?_) .nil hfold
  rw [put] at hput
  rcases hentry : CatalogEntry.ofJson value with _ | e <;> rw [hentry] at hput
  · cases hput
  · cases hput
    exact ordered.insert key e

theorem isWritable_toJson (docs : Documents) : docs.toJson.IsWritable := by
  show (Json.Members.ofList _).IsWritable
  induction docs with
  | nil => trivial
  | cons d docs ih => exact ⟨d.2.isWritable_toJson, ih⟩

/-- Documents that are read in ascending order of their ids are put one behind the other. -/
private theorem foldMembers_ofList (front docs : Documents) (ordered : Ordered (front ++ docs)) :
    Json.foldMembers put front (.ofList (docs.map fun d => (d.1, d.2.toJson))) =
      .ok (front ++ docs) := by
  induction docs generalizing front with
  | nil => rw [List.append_nil]; rfl
  | cons d docs ih =>
    obtain ⟨id, e⟩ := d
    have above : ∀ d ∈ front, d.1 < id := fun d hd =>
      (List.pairwise_append.1 ordered).2.2 d hd _ List.mem_cons_self
    -- the next document has the highest id so far
    have hput : put front id e.toJson = .ok (front ++ [(id, e)]) := by
      rw [put, CatalogEntry.ofJson_toJson, ← insert_of_forall_lt above]
      rfl
    have hfold : Json.foldMembers put front (.ofList (((id, e) :: docs).map
        fun d => (d.1, d.2.toJson))) = (put front id e.toJson).bind fun front =>
          Json.foldMembers put front (.ofList (docs.map fun d => (d.1, d.2.toJson))) := rfl
    have hrest := ih (front ++ [(id, e)]) (by simpa using ordered)
    rw [List.append_assoc] at hrest
    rw [hfold, hput]
    exact hrest

/-- Ordered documents are read back from their text. -/
theorem Ordered.read_pretty (ordered : Ordered docs) : read docs.toJson.pretty = .ok docs := by
  rw [read, Json.decodeDocument_pretty docs.isWritable_toJson]
  exact foldMembers_ofList [] docs ordered

end Documents

end ObjectTransfer
