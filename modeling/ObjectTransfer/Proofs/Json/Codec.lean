import ObjectTransfer.Identifier
import ObjectTransfer.Proofs.Catalog.Documents
import ObjectTransfer.Proofs.Json.Forms

/-!
# Identifiers, infos and catalog entries in JSON

The records of the protocol are read from every text of an object that shows them, and from no
object that lacks a field without a default or has a number outside the range of its field.

The module introduces:

* `Json.OutOfRange low high v`: a value is an integer that is not between the bounds;
* `Identifier.form`, `ObjectInfo.form` and `CatalogEntry.form`: the fields of the records.

Main statement: `Json.records_faithful`.
-/

namespace ObjectTransfer

namespace Json

/-! ## Numbers outside their range -/

/-- Whether a value is that of an integer which is not between the bounds, however large it is. -/
def OutOfRange (low high : Int) (v : Value) : Prop :=
  ∃ n : Int, v.Spells (printInt n) ∧ ¬(low ≤ n ∧ n ≤ high)

/-- No integer outside the bounds is read. -/
theorem decodeInteger_eq_error {low high : Int} {v : Value} (h : OutOfRange low high v)
    (expected : String) : ∃ e, decodeInteger low high expected v = .error e := by
  obtain ⟨n, spells, outside⟩ := h
  obtain rfl : v = .number (Literal.ofInt n).toNumber :=
    spells.unique ⟨.ofInt n, spells_printInt n, rfl⟩
  rcases hnumber : (Literal.ofInt n).toNumber with m | x | _
  -- an integer that is not too large to be held is the one that is written
  · obtain rfl := Literal.eq_of_toNumber_ofInt hnumber
    exact ⟨_, by rw [decodeInteger, if_neg outside]⟩
  · exact ⟨_, rfl⟩
  · exact ⟨_, rfl⟩

theorem decodeUInt16_eq_error {v : Value} (h : OutOfRange 0 65535 v) :
    ∃ e, decodeUInt16 v = .error e := by
  obtain ⟨e, refused⟩ := decodeInteger_eq_error h "u16"
  exact ⟨e, congrArg (fun n => (n.map Int.toNat).map UInt16.ofNat) refused⟩

theorem decodeUInt32_eq_error {v : Value} (h : OutOfRange 0 4294967295 v) :
    ∃ e, decodeUInt32 v = .error e := by
  obtain ⟨e, refused⟩ := decodeInteger_eq_error h "u32"
  exact ⟨e, congrArg (fun n => (n.map Int.toNat).map UInt32.ofNat) refused⟩

theorem decodeUInt64_eq_error {v : Value} (h : OutOfRange 0 18446744073709551615 v) :
    ∃ e, decodeUInt64 v = .error e := by
  obtain ⟨e, refused⟩ := decodeInteger_eq_error h "u64"
  exact ⟨e, congrArg (fun n => (n.map Int.toNat).map UInt64.ofNat) refused⟩

theorem decodeInt64_eq_error {v : Value}
    (h : OutOfRange (-9223372036854775808) 9223372036854775807 v) :
    ∃ e, decodeInt64 v = .error e := by
  obtain ⟨e, refused⟩ := decodeInteger_eq_error h "i64"
  exact ⟨e, congrArg (Except.map Int64.ofInt) refused⟩

/-- An item that is refused makes reading a list fail wherever it stands. -/
theorem decodeList_eq_error {α : Type} {item : Value → Except DecodeError α} {items : Items}
    {v : Value} (mem : v ∈ items.toList) (refused : ∃ e, item v = .error e) :
    ∃ e, decodeList item (.array items) = .error e := by
  show ∃ e, decodeItems item items = .error e
  fun_induction decodeItems item items with
  | case1 | case2 => cases mem
  | case3 first rest ih =>
    rcases hfirst : item first with e | a
    · exact ⟨e, rfl⟩
    rcases List.mem_cons.1 mem with rfl | mem
    · obtain ⟨e, hrefused⟩ := refused
      rw [hrefused] at hfirst
      cases hfirst
    · obtain ⟨e, hrest⟩ := ih mem
      exact ⟨e, by rw [hrest]; rfl⟩

/-! ## Fields of drafts -/

/-- A field that has to be there and is missing is reported. -/
theorem required_missing {α β : Type} {name : String} {x : Option α}
    {next : α → Except DecodeError β} (h : x = none) :
    ∃ e, (required name x >>= next) = .error e := by
  subst h
  exact ⟨_, rfl⟩

/-- So is one that is asked for behind another one, whether or not that one is there. -/
theorem required_behind {α β : Type} {name : String} {x : Option α}
    {next : α → Except DecodeError β} (h : ∀ a, ∃ e, next a = .error e) :
    ∃ e, (required name x >>= next) = .error e := by
  rcases x with _ | a
  · exact required_missing rfl
  · exact h a

/-- A field without a default has been read. -/
theorem eq_some_of_needed {α : Type} {x : Option α} {c : α}
    (h : x = some c ∨ x = none ∧ none = some c) : x = some c :=
  h.resolve_right fun h => by cases h.2

/-- A field with a default has been read, or holds it. -/
theorem getD_of_default {α : Type} {x : Option α} {c z : α}
    (h : x = some c ∨ x = none ∧ some z = some c) : x.getD z = c := by
  rcases h with rfl | ⟨rfl, h⟩
  · rfl
  · exact Option.some.inj h

end Json

open Json (OutOfRange Form required_missing required_behind)

/-! ## Identifiers -/

namespace Identifier

/-- The fields of an identifier. -/
inductive Key where
  | device
  | handle
  | document
  deriving Repr, DecidableEq

/-- All fields of an identifier, in the order in which they are written. -/
def Key.all : List Key :=
  [device, handle, document]

theorem Key.nodup_all : Key.all.Nodup := by decide

theorem Key.mem_all (k : Key) : k ∈ Key.all := by
  cases k <;> decide

/-- What a field holds. -/
def Key.Content : Key → Type
  | device | handle => UInt32
  | document => String

/-- The fields of an identifier and how they are read. -/
def form : Form Identifier Draft where
  Key := Key
  Content := Key.Content
  name
    | .device => "device_id"
    | .handle => "object_handle"
    | .document => "document_id"
  content i
    | .device => i.device
    | .handle => i.handle
    | .document => i.document
  default? _ := none
  Is
    | .device, (n : UInt32), v | .handle, (n : UInt32), v => v = .ofNat n.toNat
    | .document, s, v => v = .ofString s
  Misfit
    | .device, v | .handle, v => OutOfRange 0 4294967295 v
    | .document, _ => False
  read
    | .device | .handle => Json.decodeUInt32
    | .document => Json.decodeString
  get
    | .device, d => d.device
    | .handle, d => d.handle
    | .document, d => d.document
  set
    | .device, x, d => { d with device := x }
    | .handle, x, d => { d with handle := x }
    | .document, x, d => { d with document := x }
  start := {}
  put := Draft.put
  finish := Draft.finish

theorem lawful_form : form.Lawful where
  name_injective k k' h := by
    cases k <;> cases k' <;> first | rfl | exact absurd h (by decide)
  put_name d k v := by cases k <;> rfl
  put_unknown d key v unknown := by
    have hdevice : key ≠ "device_id" := fun h => unknown .device h.symm
    have hhandle : key ≠ "object_handle" := fun h => unknown .handle h.symm
    have hdocument : key ≠ "document_id" := fun h => unknown .document h.symm
    simp [form, Draft.put, hdevice, hhandle, hdocument]
  get_start k := by cases k <;> rfl
  get_set k x d := by cases k <;> rfl
  get_set_of_ne k k' x d hne := by cases k <;> cases k' <;> first | rfl | exact absurd rfl hne
  finish_eq i d h := by
    have hdevice : d.device = some i.device := Json.eq_some_of_needed (h .device)
    have hhandle : d.handle = some i.handle := Json.eq_some_of_needed (h .handle)
    have hdocument : d.document = some i.document := Json.eq_some_of_needed (h .document)
    simp [form, Draft.finish, hdevice, hhandle, hdocument, Json.required, bind, Except.bind, pure,
      Except.pure]
  finish_missing k d _ h := by
    -- fields are asked for in the order in which they are written, and the first that is missing
    -- ends it
    cases k with
    | device => exact required_missing h
    | handle => exact required_behind fun _ => required_missing h
    | document => exact required_behind fun _ => required_behind fun _ => required_missing h
  read_of_is k c v _ h := by
    cases k with
    | device =>
      obtain rfl : v = .ofNat c.toNat := h
      exact Json.decodeUInt32_ofNat c
    | handle =>
      obtain rfl := h
      exact Json.decodeUInt32_ofNat c
    | document =>
      obtain rfl := h
      exact Json.decodeString_ofString c
  read_of_misfit k v h := by
    cases k with
    | device | handle => exact Json.decodeUInt32_eq_error h
    | document => exact h.elim

theorem isWritable_toJson (i : Identifier) : i.toJson.IsWritable :=
  ⟨Json.isWritable_ofNat (Nat.lt_trans i.device.toNat_lt (by decide)),
    Json.isWritable_ofNat (Nat.lt_trans i.handle.toNat_lt (by decide)), trivial, trivial⟩

/-- What is written for an identifier shows it. -/
theorem presents_toJson (i : Identifier) :
    ∃ members, i.toJson = .object members ∧ form.Presents i members := by
  let value : Key → Json.Value
    | .device => .ofNat i.device.toNat
    | .handle => .ofNat i.handle.toNat
    | .document => .ofString i.document
  exact ⟨_, rfl, lawful_form.presents_all Key.nodup_all Key.mem_all value fun k => by
    cases k <;> rfl⟩

theorem faithful : form.Faithful toJson ofJson :=
  lawful_form.faithful isWritable_toJson presents_toJson fun _ => rfl

end Identifier

/-! ## Infos -/

namespace ObjectInfo

/-- The fields of an info. -/
inductive Key where
  | handle
  | storage
  | format
  | parent
  | name
  | size
  | thumbSize
  | modified
  deriving Repr, DecidableEq

/-- All fields of an info, in the order in which they are written. -/
def Key.all : List Key :=
  [handle, storage, format, parent, name, size, thumbSize, modified]

theorem Key.nodup_all : Key.all.Nodup := by decide

theorem Key.mem_all (k : Key) : k ∈ Key.all := by
  cases k <;> decide

/-- What a field holds. -/
def Key.Content : Key → Type
  | handle | storage | parent => UInt32
  | format => UInt16
  | name => String
  | size | thumbSize => UInt64
  | modified => Int64

/-- The fields of an info and how they are read. The size of the thumbnail and the time of the last
change have a default. -/
def form : Form ObjectInfo Draft where
  Key := Key
  Content := Key.Content
  name
    | .handle => "object_handle"
    | .storage => "storage_id"
    | .format => "format"
    | .parent => "parent"
    | .name => "name"
    | .size => "compressed_size"
    | .thumbSize => "thumb_compressed_size"
    | .modified => "date_modified"
  content i
    | .handle => i.handle
    | .storage => i.storage
    | .format => i.format
    | .parent => i.parent
    | .name => i.name
    | .size => i.size
    | .thumbSize => i.thumbSize
    | .modified => i.modified
  default?
    | .thumbSize => some (0 : UInt64)
    | .modified => some (0 : Int64)
    | _ => none
  Is
    | .handle, (n : UInt32), v | .storage, (n : UInt32), v | .parent, (n : UInt32), v =>
      v = .ofNat n.toNat
    | .format, (n : UInt16), v => v = .ofNat n.toNat
    | .name, s, v => v = .ofString s
    | .size, (n : UInt64), v | .thumbSize, (n : UInt64), v => v = .ofNat n.toNat
    | .modified, (n : Int64), v => v = .ofInt n.toInt
  Misfit
    | .handle, v | .storage, v | .parent, v => OutOfRange 0 4294967295 v
    | .format, v => OutOfRange 0 65535 v
    | .name, _ => False
    | .size, v | .thumbSize, v => OutOfRange 0 18446744073709551615 v
    | .modified, v => OutOfRange (-9223372036854775808) 9223372036854775807 v
  read
    | .handle | .storage | .parent => Json.decodeUInt32
    | .format => Json.decodeUInt16
    | .name => Json.decodeString
    | .size | .thumbSize => Json.decodeUInt64
    | .modified => Json.decodeInt64
  get
    | .handle, d => d.handle
    | .storage, d => d.storage
    | .format, d => d.format
    | .parent, d => d.parent
    | .name, d => d.name
    | .size, d => d.size
    | .thumbSize, d => d.thumbSize
    | .modified, d => d.modified
  set
    | .handle, x, d => { d with handle := x }
    | .storage, x, d => { d with storage := x }
    | .format, x, d => { d with format := x }
    | .parent, x, d => { d with parent := x }
    | .name, x, d => { d with name := x }
    | .size, x, d => { d with size := x }
    | .thumbSize, x, d => { d with thumbSize := x }
    | .modified, x, d => { d with modified := x }
  start := {}
  put := Draft.put
  finish := Draft.finish

theorem lawful_form : form.Lawful where
  name_injective k k' h := by
    cases k <;> cases k' <;> first | rfl | exact absurd h (by decide)
  put_name d k v := by cases k <;> rfl
  put_unknown d key v unknown := by
    have hhandle : key ≠ "object_handle" := fun h => unknown .handle h.symm
    have hstorage : key ≠ "storage_id" := fun h => unknown .storage h.symm
    have hformat : key ≠ "format" := fun h => unknown .format h.symm
    have hparent : key ≠ "parent" := fun h => unknown .parent h.symm
    have hname : key ≠ "name" := fun h => unknown .name h.symm
    have hsize : key ≠ "compressed_size" := fun h => unknown .size h.symm
    have hthumb : key ≠ "thumb_compressed_size" := fun h => unknown .thumbSize h.symm
    have hmodified : key ≠ "date_modified" := fun h => unknown .modified h.symm
    simp [form, Draft.put, hhandle, hstorage, hformat, hparent, hname, hsize, hthumb, hmodified]
  get_start k := by cases k <;> rfl
  get_set k x d := by cases k <;> rfl
  get_set_of_ne k k' x d hne := by cases k <;> cases k' <;> first | rfl | exact absurd rfl hne
  finish_eq i d h := by
    have hhandle : d.handle = some i.handle := Json.eq_some_of_needed (h .handle)
    have hstorage : d.storage = some i.storage := Json.eq_some_of_needed (h .storage)
    have hformat : d.format = some i.format := Json.eq_some_of_needed (h .format)
    have hparent : d.parent = some i.parent := Json.eq_some_of_needed (h .parent)
    have hname : d.name = some i.name := Json.eq_some_of_needed (h .name)
    have hsize : d.size = some i.size := Json.eq_some_of_needed (h .size)
    have hthumb : d.thumbSize.getD 0 = i.thumbSize := Json.getD_of_default (h .thumbSize)
    have hmodified : d.modified.getD 0 = i.modified := Json.getD_of_default (h .modified)
    simp [form, Draft.finish, hhandle, hstorage, hformat, hparent, hname, hsize, hthumb, hmodified,
      Json.required, bind, Except.bind, pure, Except.pure]
  finish_missing k d needed h := by
    cases k with
    | handle => exact required_missing h
    | storage => exact required_behind fun _ => required_missing h
    | format => exact required_behind fun _ => required_behind fun _ => required_missing h
    | parent =>
      exact required_behind fun _ => required_behind fun _ => required_behind fun _ =>
        required_missing h
    | name =>
      exact required_behind fun _ => required_behind fun _ => required_behind fun _ =>
        required_behind fun _ => required_missing h
    | size =>
      exact required_behind fun _ => required_behind fun _ => required_behind fun _ =>
        required_behind fun _ => required_behind fun _ => required_missing h
    | thumbSize | modified => cases needed
  read_of_is k c v _ h := by
    cases k with
    | handle | storage | parent =>
      obtain rfl := h
      exact Json.decodeUInt32_ofNat c
    | format =>
      obtain rfl := h
      exact Json.decodeUInt16_ofNat c
    | name =>
      obtain rfl := h
      exact Json.decodeString_ofString c
    | size | thumbSize =>
      obtain rfl := h
      exact Json.decodeUInt64_ofNat c
    | modified =>
      obtain rfl := h
      exact Json.decodeInt64_ofInt c
  read_of_misfit k v h := by
    cases k with
    | handle | storage | parent => exact Json.decodeUInt32_eq_error h
    | format => exact Json.decodeUInt16_eq_error h
    | name => exact h.elim
    | size | thumbSize => exact Json.decodeUInt64_eq_error h
    | modified => exact Json.decodeInt64_eq_error h

/-- What is written for an info shows it. -/
theorem presents_toJson (i : ObjectInfo) :
    ∃ members, i.toJson = .object members ∧ form.Presents i members := by
  let value : Key → Json.Value
    | .handle => .ofNat i.handle.toNat
    | .storage => .ofNat i.storage.toNat
    | .format => .ofNat i.format.toNat
    | .parent => .ofNat i.parent.toNat
    | .name => .ofString i.name
    | .size => .ofNat i.size.toNat
    | .thumbSize => .ofNat i.thumbSize.toNat
    | .modified => .ofInt i.modified.toInt
  exact ⟨_, rfl, lawful_form.presents_all Key.nodup_all Key.mem_all value fun k => by
    cases k <;> rfl⟩

theorem faithful : form.Faithful toJson ofJson :=
  lawful_form.faithful isWritable_toJson presents_toJson fun _ => rfl

end ObjectInfo

/-! ## Catalog entries -/

namespace CatalogEntry

/-- The fields of an entry. -/
inductive Key where
  | device
  | handle
  | parent
  | operations
  | info
  deriving Repr, DecidableEq

/-- All fields of an entry, in the order in which they are written. -/
def Key.all : List Key :=
  [device, handle, parent, operations, info]

theorem Key.nodup_all : Key.all.Nodup := by decide

theorem Key.mem_all (k : Key) : k ∈ Key.all := by
  cases k <;> decide

/-- What a field holds. -/
def Key.Content : Key → Type
  | device | handle => UInt32
  | parent => String
  | operations => List OperationCode
  | info => ObjectInfo

/-- The fields of an entry and how they are read. The parent document and the operations have a
default. The info is an object that shows it. -/
def form : Form CatalogEntry Draft where
  Key := Key
  Content := Key.Content
  name
    | .device => "device_id"
    | .handle => "object_handle"
    | .parent => "parent_document_id"
    | .operations => "operations"
    | .info => "info"
  content e
    | .device => e.device
    | .handle => e.handle
    | .parent => e.parent
    | .operations => e.operations
    | .info => e.info
  default?
    | .parent => some ""
    | .operations => some ([] : List OperationCode)
    | _ => none
  Is
    | .device, (n : UInt32), v | .handle, (n : UInt32), v => v = .ofNat n.toNat
    | .parent, s, v => v = .ofString s
    | .operations, (codes : List OperationCode), v =>
      v = .array (.ofList (codes.map OperationCode.toJson))
    | .info, i, v => ∃ members, v = .object members ∧ ObjectInfo.form.Presents i members
  Misfit
    | .device, v | .handle, v => OutOfRange 0 4294967295 v
    | .parent, _ => False
    | .operations, v => ∃ items, v = .array items ∧ ∃ item ∈ items.toList, OutOfRange 0 65535 item
    | .info, v => ∃ members, v = .object members ∧ ObjectInfo.form.Refuses members
  read
    | .device | .handle => Json.decodeUInt32
    | .parent => Json.decodeString
    | .operations => Json.decodeList OperationCode.ofJson
    | .info => ObjectInfo.ofJson
  get
    | .device, d => d.device
    | .handle, d => d.handle
    | .parent, d => d.parent
    | .operations, d => d.operations
    | .info, d => d.info
  set
    | .device, x, d => { d with device := x }
    | .handle, x, d => { d with handle := x }
    | .parent, x, d => { d with parent := x }
    | .operations, x, d => { d with operations := x }
    | .info, x, d => { d with info := x }
  start := {}
  put := Draft.put
  finish := Draft.finish

theorem lawful_form : form.Lawful where
  name_injective k k' h := by
    cases k <;> cases k' <;> first | rfl | exact absurd h (by decide)
  put_name d k v := by cases k <;> rfl
  put_unknown d key v unknown := by
    have hdevice : key ≠ "device_id" := fun h => unknown .device h.symm
    have hhandle : key ≠ "object_handle" := fun h => unknown .handle h.symm
    have hparent : key ≠ "parent_document_id" := fun h => unknown .parent h.symm
    have hoperations : key ≠ "operations" := fun h => unknown .operations h.symm
    have hinfo : key ≠ "info" := fun h => unknown .info h.symm
    simp [form, Draft.put, hdevice, hhandle, hparent, hoperations, hinfo]
  get_start k := by cases k <;> rfl
  get_set k x d := by cases k <;> rfl
  get_set_of_ne k k' x d hne := by cases k <;> cases k' <;> first | rfl | exact absurd rfl hne
  finish_eq e d h := by
    have hdevice : d.device = some e.device := Json.eq_some_of_needed (h .device)
    have hhandle : d.handle = some e.handle := Json.eq_some_of_needed (h .handle)
    have hinfo : d.info = some e.info := Json.eq_some_of_needed (h .info)
    have hparent : d.parent.getD "" = e.parent := Json.getD_of_default (h .parent)
    have hoperations : d.operations.getD [] = e.operations := Json.getD_of_default (h .operations)
    simp [form, Draft.finish, hdevice, hhandle, hinfo, hparent, hoperations, Json.required, bind,
      Except.bind, pure, Except.pure]
  finish_missing k d needed h := by
    cases k with
    | device => exact required_missing h
    | handle => exact required_behind fun _ => required_missing h
    | info => exact required_behind fun _ => required_behind fun _ => required_missing h
    | parent | operations => cases needed
  read_of_is k c v wellFormed h := by
    cases k with
    | device | handle =>
      obtain rfl := h
      exact Json.decodeUInt32_ofNat c
    | parent =>
      obtain rfl := h
      exact Json.decodeString_ofString c
    | operations =>
      obtain rfl := h
      exact Json.decodeList_ofList OperationCode.ofJson_toJson c
    | info =>
      obtain ⟨members, rfl, presents⟩ := h
      exact ObjectInfo.lawful_form.ofMembers_eq_ok presents wellFormed
  read_of_misfit k v h := by
    cases k with
    | device | handle => exact Json.decodeUInt32_eq_error h
    | parent => exact h.elim
    | operations =>
      obtain ⟨items, rfl, item, mem, outside⟩ := h
      obtain ⟨e, refused⟩ := Json.decodeUInt16_eq_error outside
      exact Json.decodeList_eq_error mem ⟨e, congrArg (Except.map OperationCode.mk) refused⟩
    | info =>
      obtain ⟨members, rfl, refuses⟩ := h
      exact ObjectInfo.lawful_form.ofMembers_eq_error refuses

/-- What is written for an entry shows it. -/
theorem presents_toJson (e : CatalogEntry) :
    ∃ members, e.toJson = .object members ∧ form.Presents e members := by
  let value : Key → Json.Value
    | .device => .ofNat e.device.toNat
    | .handle => .ofNat e.handle.toNat
    | .parent => .ofString e.parent
    | .operations => .array (.ofList (e.operations.map OperationCode.toJson))
    | .info => e.info.toJson
  refine ⟨_, rfl, lawful_form.presents_all Key.nodup_all Key.mem_all value fun k => ?_⟩
  cases k with
  | device | handle | parent | operations => rfl
  | info => exact e.info.presents_toJson

theorem faithful : form.Faithful toJson ofJson :=
  lawful_form.faithful isWritable_toJson presents_toJson fun _ => rfl

end CatalogEntry

/-- Identifiers, infos and catalog entries in JSON.

Each record is read from both of its layouts, and from every text of an object that shows it, with
its fields in any order, any other members, any blanks and any spelling of its texts, and without
fields that hold their default. No text of an object is read that lacks a field without a default,
or in which a number is outside the range of its field, also in the info and among the operations of
an entry. -/
theorem Json.records_faithful :
    Identifier.form.Faithful Identifier.toJson Identifier.ofJson ∧
      ObjectInfo.form.Faithful ObjectInfo.toJson ObjectInfo.ofJson ∧
      CatalogEntry.form.Faithful CatalogEntry.toJson CatalogEntry.ofJson :=
  ⟨Identifier.faithful, ObjectInfo.faithful, CatalogEntry.faithful⟩

/-- An unknown member, half of a surrogate pair in its value, and fields in another order. -/
example : Identifier.read (Bytes.ofString
      (" \x7b\"x\": [1E+400, \"\\ud83d\", \x7b\x7d], \"document_id\" :\"\\u00e9\",\n" ++
        "\"object_handle\": 2, \"device_id\":1 \x7d")) =
    .ok ⟨1, 2, "é"⟩ := by
  decide +kernel

/-- The members of an identifier in another order, with an unknown one among them. -/
def Json.rearranged : Json.Members :=
  .ofList [("extra", .null), ("document_id", .ofString "a"), ("device_id", .ofNat 1),
    ("object_handle", .ofNat 2)]

/-- The members of an identifier whose handle has 33 bits. -/
def Json.outOfRange : Json.Members :=
  .ofList [("device_id", .ofNat 1), ("object_handle", .ofNat 4294967296),
    ("document_id", .ofString "a")]

/-- An identifier is read from its members in another order, and not from a handle of 33 bits. -/
theorem Json.records_faithful_rearranged :
    Json.decodeDocument Identifier.ofJson (Json.Value.object Json.rearranged).compact =
        .ok ⟨1, 2, "a"⟩ ∧
      ∃ e, Json.decodeDocument Identifier.ofJson (Json.Value.object Json.outOfRange).compact =
        .error e := by
  obtain ⟨faithful, -⟩ := Json.records_faithful
  have small (n : Nat) (h : n < UInt64.size) : (Json.Value.ofNat n).IsWritable :=
    Json.isWritable_ofNat h
  constructor
  · have presents : Identifier.form.Presents ⟨1, 2, "a"⟩ Json.rearranged := by
      obtain ⟨members, hmembers, presents⟩ := faithful.shown ⟨1, 2, "a"⟩
      obtain rfl := Json.Value.object.inj hmembers
      refine presents.rearrange (fun _ => true) [("extra", .null)] ?_ ?_ fun _ _ _ h => by cases h
      · let field (name : String) (v : Json.Value) : Option String × Json.Value := (some name, v)
        let extra := field "extra" .null
        let document := field "document_id" (.ofString "a")
        let device := field "device_id" (.ofNat 1)
        let handle := field "object_handle" (.ofNat 2)
        show [extra, document, device, handle].Perm [device, handle, document, extra]
        have swapped : ([extra, document] ++ [device, handle]).Perm
            ([device, handle] ++ [extra, document]) :=
          List.perm_append_comm
        exact swapped.trans (.cons _ (.cons _ (.swap _ _ _)))
      · rintro m hm k
        obtain rfl := List.mem_singleton.1 hm
        cases k <;> decide
    have writable : (Json.Value.object Json.rearranged).IsWritable :=
      ⟨trivial, trivial, small 1 (by decide), small 2 (by decide), trivial⟩
    have read := faithful.presented _ _ _ [] [] presents (Json.Value.writes_compact writable).spells
      Json.isBlanks_nil Json.isBlanks_nil
    simpa using read
  · have refuses : Identifier.form.Refuses Json.outOfRange := by
      refine .misfit .handle (.ofNat 4294967296) ?_ ⟨4294967296, ?_, by decide⟩
      · simp [Json.outOfRange, Json.Members.Has, Identifier.form]
      · exact Json.Value.spells_printInt (by decide) (by decide)
    have writable : (Json.Value.object Json.outOfRange).IsWritable :=
      ⟨small 1 (by decide), small 4294967296 (by decide), trivial, trivial⟩
    have refused := faithful.refused _ _ [] [] refuses (Json.Value.writes_compact writable).spells
      Json.isBlanks_nil Json.isBlanks_nil
    simpa using refused

end ObjectTransfer
