import Mathlib.Data.Finset.Basic
import ObjectTransfer.Proofs.Settings.RoundTrip
import ObjectTransfer.Proofs.Toml.Lookup

/-!
# Settings of which some are in the document

A document that holds some of the settings is read as these settings laid over the defaults. In
which order sections and keys stand, and what else the document holds, makes no difference. A value
that is none for its key is refused; the default does not stand in for it.

The module introduces:

* `Settings.Key`: the six keys, each in a `Settings.Group`, the section where it stands;
* `Key.Fits k v`: a value is one for a key, and `Key.Is k s v`: it is the one that the settings
  have;
* `Settings.overlay s keys base`: settings under some keys, and others under the rest;
* `Settings.Holds s keys table`: a document holds the settings under these keys and no others.

Main statement: `Settings.ofToml_partial`.
-/

namespace ObjectTransfer

namespace Settings

/-! ## Keys -/

/-- The sections of a document. -/
inductive Group where
  | worker
  | transfer
  | log
  deriving Repr, DecidableEq

/-- The keys of a document. -/
inductive Key where
  | queueCapacity
  | shutdownTimeout
  | copyBuffer
  | channelCapacity
  | stagingFolder
  | logLevel
  deriving Repr, DecidableEq

namespace Group

/-- The name of the section. -/
def name : Group → String
  | worker => "worker"
  | transfer => "transfer"
  | log => "log"

/-- The name of the record that is read from the section. -/
def record : Group → String
  | worker => "WorkerConfig"
  | transfer => "TransferConfig"
  | log => "LogConfig"

/-- The keys of the section. -/
def keys : Group → List Key
  | worker => [.queueCapacity, .shutdownTimeout]
  | transfer => [.copyBuffer, .channelCapacity, .stagingFolder]
  | log => [.logLevel]

theorem name_injective {g g' : Group} (h : g.name = g'.name) : g = g' := by
  cases g <;> cases g' <;> first | rfl | exact absurd h (by decide)

end Group

namespace Key

/-- The section of the key. -/
def group : Key → Group
  | queueCapacity | shutdownTimeout => .worker
  | copyBuffer | channelCapacity | stagingFolder => .transfer
  | logLevel => .log

/-- The key as it is written. -/
def name : Key → String
  | queueCapacity => "queue_capacity"
  | shutdownTimeout => "shutdown_timeout_ms"
  | copyBuffer => "copy_buffer_size"
  | channelCapacity => "channel_capacity"
  | stagingFolder => "staging_dir"
  | logLevel => "level"

/-- The field that reads the key. -/
def field (k : Key) : Toml.Field Settings where
  name := k.name
  put s v := match k with
    | queueCapacity => (Toml.decodeUInt64 "usize" v).map fun n => { s with queueCapacity := n }
    | shutdownTimeout => (Toml.decodeUInt64 "u64" v).map fun n => { s with shutdownTimeout := n }
    | copyBuffer => (Toml.decodeUInt64 "usize" v).map fun n => { s with copyBuffer := n }
    | channelCapacity => (Toml.decodeUInt64 "usize" v).map fun n => { s with channelCapacity := n }
    | stagingFolder =>
      (Toml.decodeString "path string" v).map fun p => { s with stagingFolder := .ofString p }
    | logLevel => (Toml.decodeString "a string" v).map fun level => { s with logLevel := level }

/-- Whether the value is of the kind that the key takes: a number that is not negative, or a
text. -/
def Fits (k : Key) (v : Toml.Value) : Prop :=
  match k with
  | queueCapacity | shutdownTimeout | copyBuffer | channelCapacity => ∃ n : Nat, v = .integer n
  | stagingFolder | logLevel => ∃ text, v = .string text

/-- Whether the value is the one that the settings have under the key. -/
def Is (k : Key) (s : Settings) (v : Toml.Value) : Prop :=
  match k with
  | queueCapacity => v = .integer s.queueCapacity.toNat
  | shutdownTimeout => v = .integer s.shutdownTimeout.toNat
  | copyBuffer => v = .integer s.copyBuffer.toNat
  | channelCapacity => v = .integer s.channelCapacity.toNat
  | stagingFolder => ∃ text, v = .string text ∧ s.stagingFolder = Bytes.ofString text
  | logLevel => v = .string s.logLevel

theorem mem_keys {k : Key} {g : Group} : k ∈ g.keys ↔ k.group = g := by
  cases k <;> cases g <;> decide

theorem name_injective {k k' : Key} (h : k.name = k'.name) : k = k' := by
  cases k <;> cases k' <;> first | rfl | exact absurd h (by decide)

end Key

/-- The sections are read by the fields of their keys. -/
theorem sections_eq : sections = [Group.worker, .transfer, .log].map fun g =>
    ⟨g.name, Toml.decodeRecord g.record (g.keys.map Key.field)⟩ := rfl

/-! ## Overlays -/

/-- Settings under some keys, laid over other settings. -/
def overlay (s : Settings) (keys : Finset Key) (base : Settings) : Settings where
  queueCapacity := if .queueCapacity ∈ keys then s.queueCapacity else base.queueCapacity
  shutdownTimeout := if .shutdownTimeout ∈ keys then s.shutdownTimeout else base.shutdownTimeout
  copyBuffer := if .copyBuffer ∈ keys then s.copyBuffer else base.copyBuffer
  channelCapacity := if .channelCapacity ∈ keys then s.channelCapacity else base.channelCapacity
  stagingFolder := if .stagingFolder ∈ keys then s.stagingFolder else base.stagingFolder
  logLevel := if .logLevel ∈ keys then s.logLevel else base.logLevel

section Overlay

variable {s base record : Settings} {keys : Finset Key} {k : Key} {v : Toml.Located}

@[simp]
theorem overlay_empty : overlay s ∅ base = base := by
  simp [overlay]

/-- An overlay over an overlay is one of the keys of both. -/
theorem overlay_overlay (s : Settings) (keys more : Finset Key) (base : Settings) :
    overlay s more (overlay s keys base) = overlay s (keys ∪ more) base := by
  have choose {α : Type} (k : Key) (a b : α) :
      (if k ∈ more then a else if k ∈ keys then a else b) = if k ∈ keys ∪ more then a else b := by
    by_cases hmore : k ∈ more <;> by_cases hkeys : k ∈ keys <;> simp [hmore, hkeys]
  simp only [overlay, choose]

/-- A field takes the value that the settings have under its key. -/
theorem Key.put_eq (h : k.Is s v.value) (record : Settings) :
    k.field.put record v = .ok (overlay s {k} record) := by
  cases k with
  | queueCapacity | shutdownTimeout | copyBuffer | channelCapacity =>
    simp only [Key.Is] at h
    simp [Key.field, Toml.decodeUInt64, h, Except.map, overlay]
  | stagingFolder =>
    obtain ⟨text, h, hfolder⟩ := h
    simp [Key.field, Toml.decodeString, h, Except.map, overlay, hfolder]
  | logLevel =>
    simp only [Key.Is] at h
    simp [Key.field, Toml.decodeString, h, Except.map, overlay]

/-- A field refuses a value of another kind. -/
theorem Key.put_eq_error (h : ¬k.Fits v.value) (record : Settings) :
    ∃ fault, k.field.put record v = .error fault := by
  have refused {α : Type} {read : Except Toml.Fault α} (h : ∃ fault, read = .error fault)
      (put : α → Settings) : ∃ fault, read.map put = .error fault := by
    obtain ⟨fault, rfl⟩ := h
    exact ⟨fault, rfl⟩
  cases k with
  | queueCapacity | shutdownTimeout | copyBuffer | channelCapacity =>
    exact refused (Toml.decodeUInt64_eq_error h) _
  | stagingFolder | logLevel =>
    exact refused (Toml.decodeString_eq_error h) _

/-- The field of a key is found in its section. -/
theorem Key.find?_field (k : Key) :
    (k.group.keys.map Key.field).find? (fun f => f.name = k.name) = some k.field :=
  Toml.find?_field (Key.mem_keys.2 rfl) rfl fun _ _ h => Key.name_injective h

/-- The record of a section is found in the document. -/
theorem Group.find?_sections (g : Group) : sections.find? (fun f => f.name = g.name) =
    some ⟨g.name, Toml.decodeRecord g.record (g.keys.map Key.field)⟩ := by
  rw [sections_eq]
  refine Toml.find?_field (b := g) ?_ rfl fun _ _ h => Group.name_injective h
  cases g <;> simp

/-- Entries that lay the settings over a record, each under some keys, do so together under all of
these keys. -/
theorem decodeEntries_overlay {fields : List (Toml.Field Settings)}
    {entries : List (Toml.Key × Toml.Node)} {brings : Toml.Key × Toml.Node → Key → Prop}
    (takes : ∀ e ∈ entries, ∃ keys : Finset Key, (∀ k, k ∈ keys ↔ brings e k) ∧
      ∀ record rest, Toml.decodeEntries fields record (e :: rest) =
        Toml.decodeEntries fields (overlay s keys record) rest) :
    ∃ keys : Finset Key, (∀ k, k ∈ keys ↔ ∃ e ∈ entries, brings e k) ∧
      ∀ record, Toml.decodeEntries fields record entries = .ok (overlay s keys record) := by
  -- what the first entry lays over the record stays below what the rest lays over it
  induction entries with
  | nil => exact ⟨∅, by simp, fun record => by rw [overlay_empty]; rfl⟩
  | cons e rest ih =>
    obtain ⟨first, hfirst, hread⟩ := takes e (by simp)
    obtain ⟨others, hothers, hrest⟩ := ih fun e' he' => takes e' (by simp [he'])
    refine ⟨first ∪ others, fun k => ?_, fun record => ?_⟩
    · simp [hfirst, hothers]
    · rw [hread, hrest, overlay_overlay]

/-- An entry of a section lays the settings over the record under its key, if it has one. -/
private theorem group_takes (g : Group) {e : Toml.Key × Toml.Node}
    (values : ∀ k ∈ g.keys, e.1.name = k.name → k.Is s (e.2.located e.1).value) :
    ∃ keys : Finset Key, (∀ k, k ∈ keys ↔ k ∈ g.keys ∧ e.1.name = k.name) ∧
      ∀ record rest, Toml.decodeEntries (g.keys.map Key.field) record (e :: rest) =
        Toml.decodeEntries (g.keys.map Key.field) (overlay s keys record) rest := by
  by_cases hknown : ∃ k ∈ g.keys, e.1.name = k.name
  · obtain ⟨k, hk, hname⟩ := hknown
    refine ⟨{k}, fun k' => ?_, fun record rest => ?_⟩
    · rw [Finset.mem_singleton, hname]
      exact ⟨fun h => by subst h; exact ⟨hk, rfl⟩, fun h => (Key.name_injective h.2).symm⟩
    · obtain rfl := Key.mem_keys.1 hk
      rw [Toml.decodeEntries_cons_of_find (hname ▸ k.find?_field), Key.put_eq (values k hk hname)]
      rfl
  -- an unknown key is passed over
  · refine ⟨∅, fun k => ?_, fun record rest => ?_⟩
    · simpa using fun hk hname => hknown ⟨k, hk, hname⟩
    · rw [Toml.decodeEntries_cons_of_unknown, overlay_empty]
      exact Toml.find?_field_eq_none fun k hk hname => hknown ⟨k, hk, hname.symm⟩

/-- A section that has the settings under some of its keys lays them over the record. -/
theorem decodeEntries_group (g : Group) {t : Toml.Table}
    (values : ∀ k ∈ g.keys, ∀ v, t.Has k.name v → k.Is s v) :
    ∃ keys : Finset Key, (∀ k, k ∈ keys ↔ k.group = g ∧ ∃ v, t.Has k.name v) ∧
      ∀ record, Toml.decodeEntries (g.keys.map Key.field) record t.entries =
        .ok (overlay s keys record) := by
  obtain ⟨keys, hkeys, hread⟩ := decodeEntries_overlay fun e (mem : e ∈ t.entries) =>
    group_takes g fun k hk hname => values k hk _ ⟨e, mem, hname, rfl⟩
  refine ⟨keys, fun k => ?_, hread⟩
  rw [hkeys, ← Key.mem_keys]
  constructor
  · rintro ⟨e, mem, hk, hname⟩
    exact ⟨hk, _, e, mem, hname, rfl⟩
  · rintro ⟨hk, _, e, mem, hname, -⟩
    exact ⟨e, mem, hk, hname⟩

/-! ## Documents -/

/-- Whether the sections of a document hold the settings under these keys, and nothing under the
others. -/
structure Holds (s : Settings) (keys : Finset Key) (t : Toml.Table) : Prop where
  /-- What has the name of a section is a table. -/
  tables : ∀ (g : Group) v, t.Has g.name v → ∃ inner, v = .inline inner
  values : ∀ (k : Key) v, t.At k.group.name k.name v → k ∈ keys ∧ k.Is s v
  present : ∀ k ∈ keys, ∃ v, t.At k.group.name k.name v

/-- An entry of the document lays the settings over the record under the keys that stand in it. -/
private theorem Holds.takes {t : Toml.Table} (holds : Holds s keys t) {e : Toml.Key × Toml.Node}
    (mem : e ∈ t.entries) :
    ∃ brought : Finset Key, (∀ k, k ∈ brought ↔ e.1.name = k.group.name ∧
        ∃ inner v, (e.2.located e.1).value = .inline inner ∧ inner.Has k.name v) ∧
      ∀ record rest, Toml.decodeEntries sections record (e :: rest) =
        Toml.decodeEntries sections (overlay s brought record) rest := by
  by_cases hknown : ∃ g : Group, e.1.name = g.name
  · obtain ⟨g, hname⟩ := hknown
    obtain ⟨inner, hinner⟩ := holds.tables g _ ⟨e, mem, hname, rfl⟩
    obtain ⟨brought, hbrought, hgroup⟩ := decodeEntries_group g (t := inner) fun k hk v has =>
      (holds.values k v ⟨inner, ⟨e, mem, by rw [hname, Key.mem_keys.1 hk], hinner⟩, has⟩).2
    refine ⟨brought, fun k => ?_, fun record rest => ?_⟩
    · rw [hbrought, hname, hinner]
      constructor
      · rintro ⟨rfl, v, has⟩
        exact ⟨rfl, inner, v, rfl, has⟩
      · rintro ⟨hgroup, inner, v, ⟨⟩, has⟩
        exact ⟨(Group.name_injective hgroup).symm, v, has⟩
    · rw [Toml.decodeEntries_cons_of_find (hname ▸ g.find?_sections)]
      simp only [Toml.decodeRecord, hinner, hgroup]
      rfl
  -- an unknown section is passed over, whatever stands in it
  · refine ⟨∅, fun k => ?_, fun record rest => ?_⟩
    · simpa using fun hname => absurd ⟨_, hname⟩ hknown
    · rw [Toml.decodeEntries_cons_of_unknown, overlay_empty]
      rw [sections_eq]
      exact Toml.find?_field_eq_none fun g _ hname => hknown ⟨g, hname.symm⟩

/-- A document that holds the settings under some keys lays them over the record. -/
theorem Holds.decodeEntries {t : Toml.Table} (holds : Holds s keys t) (record : Settings) :
    Toml.decodeEntries sections record t.entries = .ok (overlay s keys record) := by
  obtain ⟨brought, hbrought, hread⟩ := decodeEntries_overlay fun e mem => holds.takes (e := e) mem
  have hkeys : brought = keys := by
    ext k
    rw [hbrought]
    constructor
    · rintro ⟨e, mem, hname, inner, v, hinner, has⟩
      exact (holds.values k v ⟨inner, ⟨e, mem, hname, hinner⟩, has⟩).1
    · intro hk
      obtain ⟨v, inner, ⟨e, mem, hname, hinner⟩, has⟩ := holds.present k hk
      exact ⟨e, mem, hname, inner, v, hinner, has⟩
  rw [hread, hkeys]

/-- A value of another kind under a key makes reading fail, whatever else the document holds. -/
theorem decodeEntries_eq_error_of_not_fits {t : Toml.Table} {value : Toml.Value}
    (held : t.At k.group.name k.name value) (unfit : ¬k.Fits value) (record : Settings) :
    ∃ fault, Toml.decodeEntries sections record t.entries = .error fault := by
  obtain ⟨inner, ⟨e, mem, hname, hinner⟩, e', mem', hname', rfl⟩ := held
  refine Toml.decodeEntries_eq_error mem (hname ▸ k.group.find?_sections) fun record => ?_
  simp only [Toml.decodeRecord, hinner]
  exact Toml.decodeEntries_eq_error mem' (hname' ▸ k.find?_field) (Key.put_eq_error unfit)

end Overlay

/-! ## Texts -/

section Texts

variable {s : Settings} {keys : Finset Key} {k : Key} {text : Bytes} {table : Toml.Table}

/-- A text that holds the settings under some keys is read as these settings and the defaults. -/
theorem ofToml_eq_overlay (read : Toml.readDocument text = .ok table) (holds : Holds s keys table)
    (e : Environment) : ofToml e text = .ok (overlay s keys (default e)) := by
  rw [ofToml, Toml.decodeDocument, read]
  simp only [holds.decodeEntries]

/-- A text that has a value of another kind under a key is refused. -/
theorem ofToml_eq_error (read : Toml.readDocument text = .ok table) {value : Toml.Value}
    (held : table.At k.group.name k.name value) (unfit : ¬k.Fits value) (e : Environment) :
    ∃ cause position, ofToml e text = .error (.misfit cause position) := by
  obtain ⟨fault, hread⟩ := decodeEntries_eq_error_of_not_fits held unfit (default e)
  rw [ofToml, Toml.decodeDocument, read]
  simp only [hread]
  exact ⟨_, _, rfl⟩

/-- Whether a document that is written shows the settings under these keys, and nothing under the
others. -/
structure Shows (s : Settings) (keys : Finset Key) (l : Toml.Layout) : Prop where
  /-- No pair stands for a section. -/
  tables : ∀ (g : Group), g.name ∉ l.pairs.map Toml.Pair.key
  values : ∀ (k : Key) v, l.At k.group.name k.name v → k ∈ keys ∧ k.Is s v
  present : ∀ k ∈ keys, ∃ v, l.At k.group.name k.name v

/-- A key of the settings with its value as it is written. -/
def Key.pair (s : Settings) (staging : String) (k : Key) : Toml.Pair :=
  match k with
  | queueCapacity => .number k.name s.queueCapacity.toNat
  | shutdownTimeout => .number k.name s.shutdownTimeout.toNat
  | copyBuffer => .number k.name s.copyBuffer.toNat
  | channelCapacity => .number k.name s.channelCapacity.toNat
  | stagingFolder => .string k.name staging
  | logLevel => .string k.name s.logLevel

/-- Settings that can be written have pairs that are read back. -/
theorem Key.reads_pair (range : s.InRange) {staging : String}
    (hstaging : Bytes.toString? s.stagingFolder = some staging) (k : Key) :
    (k.pair s staging).Reads ∧ (k.pair s staging).key = k.name ∧
    k.Is s (k.pair s staging).value := by
  have bare : Toml.IsBare k.name := by cases k <;> decide +kernel
  cases k with
  | queueCapacity => exact ⟨Toml.Pair.reads_number bare range.queueCapacity, rfl, rfl⟩
  | shutdownTimeout => exact ⟨Toml.Pair.reads_number bare range.shutdownTimeout, rfl, rfl⟩
  | copyBuffer => exact ⟨Toml.Pair.reads_number bare range.copyBuffer, rfl, rfl⟩
  | channelCapacity => exact ⟨Toml.Pair.reads_number bare range.channelCapacity, rfl, rfl⟩
  | stagingFolder =>
    exact ⟨Toml.Pair.reads_string bare staging, rfl, staging, rfl,
      Bytes.eq_ofString_of_toString? hstaging⟩
  | logLevel => exact ⟨Toml.Pair.reads_string bare s.logLevel, rfl, rfl⟩

/-- A document that shows the settings under some keys holds them. -/
theorem Shows.holds {l : Toml.Layout} (shows : Shows s keys l) (reads : l.Reads) :
    ∃ table, Toml.readDocument l.text = .ok table ∧ Holds s keys table := by
  obtain ⟨table, read, held⟩ := Toml.Layout.readDocument_at reads
  refine ⟨table, read, fun g => (held g.name (shows.tables g)).1, fun k v hat => ?_, fun k hk => ?_⟩
  · exact shows.values k v (((held _ (shows.tables k.group)).2 k.name v).1 hat)
  · obtain ⟨v, hat⟩ := shows.present k hk
    exact ⟨v, ((held _ (shows.tables k.group)).2 k.name v).2 hat⟩

end Texts

/-- Settings of which some are in the document, in any environment.

However a document is written: if its sections hold the settings under some keys and nothing under
the other keys, it is read as the settings that agree with these under these keys and with the
defaults under the others; and if some key has a value of another kind, such as a negative number,
it is refused. Pairs and sections that are written one to a line are such documents, in any order
and with any other pairs and sections among them; and settings that can be written have such
pairs. -/
theorem ofToml_partial (e : Environment) :
    (∀ text table, Toml.readDocument text = .ok table →
      (∀ s keys, Holds s keys table → ofToml e text = .ok (overlay s keys (default e))) ∧
      ∀ (k : Key) v, table.At k.group.name k.name v → ¬k.Fits v →
        ∃ cause position, ofToml e text = .error (.misfit cause position)) ∧
    (∀ l : Toml.Layout, l.Reads →
      (∀ s keys, Shows s keys l → ofToml e l.text = .ok (overlay s keys (default e))) ∧
      ∀ (k : Key) v, l.At k.group.name k.name v → ¬k.Fits v →
        ∃ cause position, ofToml e l.text = .error (.misfit cause position)) ∧
    ∀ (s : Settings) staging, s.InRange → Bytes.toString? s.stagingFolder = some staging →
      ∀ k : Key, (k.pair s staging).Reads ∧ (k.pair s staging).key = k.name ∧
        k.Is s (k.pair s staging).value := by
  refine ⟨fun text table read => ⟨?_, ?_⟩, fun l reads => ⟨?_, ?_⟩, ?_⟩
  · exact fun s keys holds => ofToml_eq_overlay read holds e
  · exact fun k v held unfit => ofToml_eq_error read held unfit e
  · intro s keys shows
    obtain ⟨table, read, holds⟩ := shows.holds reads
    exact ofToml_eq_overlay read holds e
  · intro k v shown unfit
    obtain ⟨table, read, held⟩ := Toml.Layout.readDocument_at reads
    exact ofToml_eq_error read (((held _ (reads.fresh shown)).2 k.name v).2 shown) unfit e
  · exact fun s staging range hstaging k => k.reads_pair range hstaging

/-- Inline tables and dotted keys are read as sections with headers are. -/
example : ofToml {} (Bytes.ofString
      ("log = \x7b level = 'debug' \x7d # inline\nworker.shutdown_timeout_ms = 0x10\n" ++
        "[other]\na.b = 1e3\n")) =
    .ok { default {} with shutdownTimeout := 16, logLevel := "debug" } := by
  decide +kernel

/-- A document with two of the settings, an empty section, and what it need not hold. -/
def twoOfSix : Toml.Layout where
  pairs := [.string "title" "mine"]
  sections := [
    { name := "transfer", pairs := [.number "threads" 3, .string "staging_dir" "/v"] },
    { gap := 1, name := "log", pairs := [] },
    { name := "other", pairs := [.number "queue_capacity" 9] },
    { gap := 2, name := "worker", pairs := [.number "shutdown_timeout_ms" 500] }]

theorem reads_twoOfSix : twoOfSix.Reads where
  pairs := by simpa [twoOfSix] using Toml.Pair.reads_string (by decide +kernel) "mine"
  sections := by
    -- every key of the document can stand without quotes
    have bare : ∀ name ∈ ["transfer", "log", "other", "worker", "threads", "staging_dir",
        "queue_capacity", "shutdown_timeout_ms"], Toml.IsBare name := by
      decide +kernel
    have number (key : String) (n : Nat) (hkey : Toml.IsBare key) (hn : n < 1000) :
        (Toml.Pair.number key n).Reads :=
      Toml.Pair.reads_number hkey (Nat.lt_trans hn (by decide))
    simp only [twoOfSix, List.forall_mem_cons]
    refine ⟨⟨bare _ (by simp), ?_, by simp [Toml.Pair.number, Toml.Pair.string]⟩,
      ⟨bare _ (by simp), by simp, by simp⟩, ⟨bare _ (by simp), ?_, by simp⟩,
      ⟨bare _ (by simp), ?_, by simp⟩, by simp⟩
    · simpa using ⟨number "threads" 3 (bare _ (by simp)) (by decide),
        Toml.Pair.reads_string (bare "staging_dir" (by simp)) "/v"⟩
    · simpa using number "queue_capacity" 9 (bare _ (by simp)) (by decide)
    · simpa using number "shutdown_timeout_ms" 500 (bare _ (by simp)) (by decide)
  distinct := by simp [twoOfSix, Toml.Pair.string]

theorem shows_twoOfSix :
    Shows { shutdownTimeout := 500, stagingFolder := Bytes.ofString "/v" }
      {.shutdownTimeout, .stagingFolder} twoOfSix where
  tables g := by cases g <;> decide
  values k v := by
    rintro ⟨part, hpart, hgroup, p, hp, hname, rfl⟩
    simp only [twoOfSix, List.mem_cons, List.not_mem_nil, or_false] at hpart
    -- one section after the other, of which two hold a setting
    rcases hpart with rfl | rfl | rfl | rfl <;>
      simp only [List.mem_cons, List.not_mem_nil, or_false] at hp
    · rcases hp with rfl | rfl
      · cases k <;> exact absurd hname (by decide)
      · obtain rfl : k = .stagingFolder := Key.name_injective hname.symm
        exact ⟨by simp, "/v", rfl, rfl⟩
    · cases k <;> exact absurd hgroup (by decide)
    · subst hp
      obtain rfl : k = .shutdownTimeout := Key.name_injective hname.symm
      exact ⟨by simp, rfl⟩
  present k hk := by
    have known : k = .shutdownTimeout ∨ k = .stagingFolder := by simpa using hk
    rcases known with rfl | rfl
    · exact ⟨_, twoOfSix.sections[3], List.getElem_mem _, rfl, _, List.mem_singleton_self _, rfl,
        rfl⟩
    · exact ⟨_, twoOfSix.sections[0], List.getElem_mem _, rfl, _,
        List.mem_cons_of_mem _ (List.mem_singleton_self _), rfl, rfl⟩

/-- A document with a negative number. -/
def negativeCapacity : Toml.Layout where
  pairs := []
  sections := [{ name := "worker", pairs := [⟨"queue_capacity", [0x2D, 0x35], .integer (-5)⟩] }]

theorem reads_negativeCapacity : negativeCapacity.Reads where
  pairs := by simp [negativeCapacity]
  sections := by
    have minus : Toml.Writes [0x2D, 0x35] (.integer (-5)) :=
      ⟨⟨0x2D, [0x35], rfl, rfl⟩, fun _ _ _ _ => rfl⟩
    have bare : Toml.IsBare "queue_capacity" := by decide +kernel
    simp only [negativeCapacity, List.forall_mem_cons]
    refine ⟨⟨by decide +kernel, ?_, by simp⟩, by simp⟩
    simpa using ⟨bare, minus⟩
  distinct := by simp [negativeCapacity]

/-- Two of the settings are read, and the others are the defaults; a negative number is refused. -/
theorem ofToml_partial_two :
    (twoOfSix.Reads ∧ ofToml {} twoOfSix.text =
      .ok { default {} with shutdownTimeout := 500, stagingFolder := Bytes.ofString "/v" }) ∧
    negativeCapacity.Reads ∧
      ∃ cause position, ofToml {} negativeCapacity.text = .error (.misfit cause position) := by
  obtain ⟨-, written, -⟩ := ofToml_partial {}
  refine ⟨⟨reads_twoOfSix, ?_⟩, reads_negativeCapacity, ?_⟩
  · rw [(written twoOfSix reads_twoOfSix).1 _ _ shows_twoOfSix]
    simp [overlay]
  · refine (written negativeCapacity reads_negativeCapacity).2 .queueCapacity (.integer (-5)) ?_ ?_
    · exact ⟨_, List.mem_singleton.2 rfl, rfl, _, List.mem_singleton.2 rfl, rfl, rfl⟩
    · rintro ⟨n, h⟩
      cases h

end Settings

end ObjectTransfer
