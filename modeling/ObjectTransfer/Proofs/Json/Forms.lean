import Mathlib.Data.List.Nodup
import ObjectTransfer.Json.Decode
import ObjectTransfer.Proofs.Json.Grammar

/-!
# Records as objects

A record is read from the members of an object one after the other into a draft, and the draft is
finished when all have been read. What the fields are, what stands for them and which of them have a
default is told once, by a form; the rest is the same for all records.

The module introduces:

* `Json.Form α δ`: the fields of records of type `α`, which are read through drafts of type `δ`;
* `Form.Presents a members`: the members show a record, in some order and with any other members;
* `Form.Refuses members`: a field is missing, or its value is none for it;
* `Form.Faithful toJson ofJson`: what holds of the texts of records.

Main statement: `Json.Form.Lawful.faithful`.
-/

namespace ObjectTransfer

namespace Json

/-! ## Members and items -/

/-- The members of an object in the order of the text. -/
def Members.toList : Members → List (Option String × Value)
  | .done | .malformed => []
  | .more key value rest => (key, value) :: rest.toList

/-- The items of an array in the order of the text. -/
def Items.toList : Items → List Value
  | .done | .malformed => []
  | .more first rest => first :: rest.toList

/-- Whether an object has a member of this name with this value. -/
def Members.Has (members : Members) (name : String) (v : Value) : Prop :=
  (some name, v) ∈ members.toList

@[simp]
theorem Members.has_more {key : Option String} {value : Value} {rest : Members} {name : String}
    {v : Value} : (Members.more key value rest).Has name v ↔
      (key = some name ∧ v = value) ∨ rest.Has name v := by
  simp [Has, toList, Prod.ext_iff, eq_comm]

@[simp]
theorem Members.not_has_done {name : String} {v : Value} : ¬Members.done.Has name v := by
  simp [Has, toList]

@[simp]
theorem Members.toList_ofList (members : List (String × Value)) :
    (Members.ofList members).toList = members.map fun m => (some m.1, m.2) := by
  induction members with
  | nil => rfl
  | cons m members ih => exact congrArg ((some m.1, m.2) :: ·) ih

/-- A member that its field refuses, whatever the draft is, makes reading fail wherever it
stands. -/
theorem foldMembers_eq_error {δ : Type} {put : δ → String → Value → Except DecodeError δ}
    {name : String} {v : Value} (refused : ∀ draft, ∃ e, put draft name v = .error e) (draft : δ)
    {members : Members} (has : members.Has name v) :
    ∃ e, foldMembers put draft members = .error e := by
  fun_induction foldMembers put draft members with
  | case1 => simp at has
  | case2 | case3 => exact ⟨_, rfl⟩
  | case4 draft key value rest ih =>
    rcases Members.has_more.1 has with ⟨hkey, rfl⟩ | has
    · obtain rfl := Option.some.inj hkey
      obtain ⟨e, hput⟩ := refused draft
      exact ⟨e, by rw [hput]; rfl⟩
    · rcases put draft key value with e | next
      · exact ⟨e, rfl⟩
      · exact ih next has

/-! ## Forms -/

/-- The fields of a record, and how it is read through drafts. -/
structure Form (α δ : Type) where
  Key : Type
  /-- What a field of this key holds. -/
  Content : Key → Type
  name : Key → String
  content : α → (k : Key) → Content k
  /-- What a field holds that is left out, if it may be. -/
  default? : (k : Key) → Option (Content k)
  /-- Whether a value stands for a content. -/
  Is : (k : Key) → Content k → Value → Prop
  /-- Whether a value is one of those that must not be taken for any content. -/
  Misfit : Key → Value → Prop
  read : (k : Key) → Value → Except DecodeError (Content k)
  get : (k : Key) → δ → Option (Content k)
  set : (k : Key) → Option (Content k) → δ → δ
  start : δ
  put : δ → String → Value → Except DecodeError δ
  finish : δ → Except DecodeError α

namespace Form

variable {α δ : Type} {F : Form α δ}

/-- Reads a record from the members of an object. -/
def ofMembers (F : Form α δ) (members : Members) : Except DecodeError α := do
  F.finish (← foldMembers F.put F.start members)

/-- What makes a form the one by which records are read. -/
structure Lawful (F : Form α δ) : Prop where
  name_injective : ∀ k k', F.name k = F.name k' → k = k'
  put_name : ∀ d k v, F.put d (F.name k) v =
    (readField (F.name k) (F.get k d) (F.read k) v).map (F.set k · d)
  put_unknown : ∀ d key v, (∀ k, F.name k ≠ key) → F.put d key v = skipValue d v
  get_start : ∀ k, F.get k F.start = none
  get_set : ∀ k x d, F.get k (F.set k x d) = x
  get_set_of_ne : ∀ k k' x d, k' ≠ k → F.get k' (F.set k x d) = F.get k' d
  finish_eq : ∀ a d, (∀ k, F.get k d = some (F.content a k) ∨
    F.get k d = none ∧ F.default? k = some (F.content a k)) → F.finish d = .ok a
  finish_missing : ∀ k d, F.default? k = none → F.get k d = none → ∃ e, F.finish d = .error e
  read_of_is : ∀ k c v, v.isWellFormed = true → F.Is k c v → F.read k v = .ok c
  read_of_misfit : ∀ k v, F.Misfit k v → ∃ e, F.read k v = .error e

/-- Whether members show a record: the value of each field stands for what the record holds, no
field stands twice, and only fields with a default are left out where the record holds it. The names
of all members are texts; what other members there are, and in which order all stand, is left
open. -/
structure Presents (F : Form α δ) (a : α) (members : Members) : Prop where
  texts : ∀ m ∈ members.toList, m.1 ≠ none
  contents : ∀ k v, members.Has (F.name k) v → F.Is k (F.content a k) v
  once : ∀ k, (members.toList.map Prod.fst).count (some (F.name k)) ≤ 1
  absent : ∀ k, (∀ v, ¬members.Has (F.name k) v) → F.default? k = some (F.content a k)

/-- Whether no record has such members: a field without a default is missing, or the value of a
field is none for it. -/
inductive Refuses (F : Form α δ) (members : Members) : Prop
  | missing (k : F.Key) (needed : F.default? k = none)
      (absent : ∀ v, ¬members.Has (F.name k) v)
  | misfit (k : F.Key) (v : Value) (has : members.Has (F.name k) v) (misfit : F.Misfit k v)

namespace Lawful

variable (lawful : F.Lawful)

include lawful

/-- A member with the name of a field that is still open fills it. -/
theorem put_of_read {d : δ} {k : F.Key} {v : Value} {c : F.Content k} (unread : F.get k d = none)
    (read : F.read k v = .ok c) : F.put d (F.name k) v = .ok (F.set k (some c) d) := by
  rw [lawful.put_name, unread, readField, read]
  rfl

/-- A member leaves the fields of other names as they are. -/
theorem get_of_put {d d' : δ} {key : String} {v : Value} (h : F.put d key v = .ok d') {k : F.Key}
    (other : F.name k ≠ key) : F.get k d' = F.get k d := by
  by_cases known : ∃ k', F.name k' = key
  · obtain ⟨k', rfl⟩ := known
    rw [lawful.put_name] at h
    rcases hread : readField (F.name k') (F.get k' d) (F.read k') v with e | x <;>
        rw [hread] at h <;>
      cases h
    exact lawful.get_set_of_ne k' k x d fun heq => other (congrArg F.name heq)
  · rw [lawful.put_unknown d key v fun k' hk' => known ⟨k', hk'⟩, skipValue] at h
    split at h <;> cases h
    rfl

/-- A field of whose name there is no member stays as it is. -/
theorem get_of_foldMembers {d d' : δ} {members : Members}
    (h : foldMembers F.put d members = .ok d') {k : F.Key}
    (absent : ∀ v, ¬members.Has (F.name k) v) : F.get k d' = F.get k d := by
  fun_induction foldMembers F.put d members with
  | case1 =>
    cases h
    rfl
  | case2 | case3 => cases h
  | case4 d key value rest ih =>
    rcases hput : F.put d key value with e | next <;> rw [hput] at h
    · cases h
    · rw [ih next h fun v hv => absent v (Members.has_more.2 (.inr hv))]
      refine lawful.get_of_put hput fun heq => absent value ?_
      exact Members.has_more.2 (.inl ⟨congrArg some heq.symm, rfl⟩)

/-- Members that show contents fill the fields of their names with them. -/
theorem foldMembers_eq_ok {content : (k : F.Key) → F.Content k} {members : Members} (d : δ)
    (wellFormed : members.isWellFormed = true) (texts : ∀ m ∈ members.toList, m.1 ≠ none)
    (contents : ∀ k v, members.Has (F.name k) v → F.Is k (content k) v)
    (once : ∀ k, (members.toList.map Prod.fst).count (some (F.name k)) ≤ 1)
    (unread : ∀ k v, members.Has (F.name k) v → F.get k d = none) :
    ∃ d', foldMembers F.put d members = .ok d' ∧
      ∀ k v, members.Has (F.name k) v → F.get k d' = some (content k) := by
  fun_induction foldMembers F.put d members with
  | case1 d => exact ⟨d, rfl, by simp⟩
  | case2 => cases wellFormed
  | case3 => exact absurd rfl (texts _ List.mem_cons_self)
  | case4 d key value rest ih =>
    simp only [Members.isWellFormed, Bool.and_eq_true] at wellFormed
    obtain ⟨hvalue, hrest⟩ := wellFormed
    have later {k : F.Key} {v : Value} (has : rest.Has (F.name k) v) :
        (Members.more (some key) value rest).Has (F.name k) v := Members.has_more.2 (.inr has)
    -- the first member fills its field, if it has one, and no other one
    obtain ⟨next, hput, hfilled⟩ : ∃ next, F.put d key value = .ok next ∧
        ∀ k, F.name k = key → F.get k next = some (content k) := by
      by_cases known : ∃ k, F.name k = key
      · obtain ⟨k, rfl⟩ := known
        have has : (Members.more (some (F.name k)) value rest).Has (F.name k) value :=
          Members.has_more.2 (.inl ⟨rfl, rfl⟩)
        have read := lawful.read_of_is k _ value hvalue (contents k value has)
        refine ⟨_, lawful.put_of_read (unread k value has) read, fun k' hk' => ?_⟩
        obtain rfl := lawful.name_injective k' k hk'
        exact lawful.get_set k' _ d
      · refine ⟨d, ?_, fun k hk => absurd ⟨k, hk⟩ known⟩
        rw [lawful.put_unknown d key value fun k hk => known ⟨k, hk⟩, skipValue, if_pos hvalue]
    -- no later member has its name
    have fresh {k : F.Key} {v : Value} (has : rest.Has (F.name k) v) : F.name k ≠ key := by
      rintro rfl
      have hcount := once k
      have hpos : 0 < (rest.toList.map Prod.fst).count (some (F.name k)) :=
        List.count_pos_iff.2 (List.mem_map.2 ⟨_, has, rfl⟩)
      simp only [Members.toList, List.map_cons, List.count_cons_self] at hcount
      omega
    obtain ⟨d', hread, hall⟩ := ih next hrest (fun m hm => texts m (List.mem_cons_of_mem _ hm))
      (fun k v has => contents k v (later has))
      (fun k => by
        have hcount := once k
        simp only [Members.toList, List.map_cons, List.count_cons] at hcount
        omega)
      (fun k v has => (lawful.get_of_put hput (fresh has)).trans (unread k v (later has)))
    refine ⟨d', by rw [hput]; exact hread, fun k v has => ?_⟩
    rcases Members.has_more.1 has with ⟨hkey, -⟩ | has
    · by_cases again : ∃ v, rest.Has (F.name k) v
      · obtain ⟨v, has⟩ := again
        exact hall k v has
      · rw [lawful.get_of_foldMembers hread fun v hv => again ⟨v, hv⟩]
        exact hfilled k (Option.some.inj hkey).symm
    · exact hall k v has

/-- Members that show a record are read as it. -/
theorem ofMembers_eq_ok {a : α} {members : Members} (presents : F.Presents a members)
    (wellFormed : members.isWellFormed = true) : F.ofMembers members = .ok a := by
  obtain ⟨d, hread, hall⟩ := lawful.foldMembers_eq_ok F.start wellFormed presents.texts
    presents.contents presents.once fun k _ _ => lawful.get_start k
  have finished : F.finish d = .ok a := by
    refine lawful.finish_eq a d fun k => ?_
    by_cases has : ∃ v, members.Has (F.name k) v
    · obtain ⟨v, has⟩ := has
      exact .inl (hall k v has)
    · have absent : ∀ v, ¬members.Has (F.name k) v := fun v hv => has ⟨v, hv⟩
      refine .inr ⟨?_, presents.absent k absent⟩
      rw [lawful.get_of_foldMembers hread absent, lawful.get_start]
  rw [ofMembers, hread]
  exact finished

/-- Members that no record has are not read. -/
theorem ofMembers_eq_error {members : Members} (refuses : F.Refuses members) :
    ∃ e, F.ofMembers members = .error e := by
  rw [ofMembers]
  cases refuses with
  | missing k needed absent =>
    rcases hread : foldMembers F.put F.start members with e | d
    · exact ⟨e, rfl⟩
    · refine lawful.finish_missing k d needed ?_
      rw [lawful.get_of_foldMembers hread absent, lawful.get_start]
  | misfit k v has misfit =>
    have refused (d : δ) : ∃ e, F.put d (F.name k) v = .error e := by
      obtain ⟨e, hread⟩ := lawful.read_of_misfit k v misfit
      rw [lawful.put_name]
      rcases F.get k d with _ | c
      · exact ⟨e, by rw [readField, hread]; rfl⟩
      · exact ⟨_, rfl⟩
    obtain ⟨e, hread⟩ := foldMembers_eq_error refused F.start has
    exact ⟨e, by rw [hread]; rfl⟩

/-- Members of all fields, one each, show a record. -/
theorem presents_all {a : α} {keys : List F.Key} (distinct : keys.Nodup) (all : ∀ k, k ∈ keys)
    (value : F.Key → Value) (is : ∀ k, F.Is k (F.content a k) (value k)) :
    F.Presents a (.ofList (keys.map fun k => (F.name k, value k))) := by
  have htoList : (Members.ofList (keys.map fun k => (F.name k, value k))).toList =
      keys.map fun k => (some (F.name k), value k) := by
    simp [Function.comp_def]
  -- the names tell the fields apart
  have has_iff (k : F.Key) (v : Value) :
      (Members.ofList (keys.map fun k => (F.name k, value k))).Has (F.name k) v ↔ v = value k := by
    rw [Members.Has, htoList, List.mem_map]
    constructor
    · rintro ⟨k', -, heq⟩
      obtain ⟨hname, rfl⟩ := Prod.ext_iff.1 heq
      rw [lawful.name_injective k' k (Option.some.inj hname)]
    · rintro rfl
      exact ⟨k, all k, rfl⟩
  refine ⟨fun m hm => ?_, fun k v has => ?_, fun k => ?_, fun k absent => ?_⟩
  · rw [htoList] at hm
    obtain ⟨k, -, rfl⟩ := List.mem_map.1 hm
    simp
  · rw [(has_iff k v).1 has]
    exact is k
  · have hnames : ((Members.ofList (keys.map fun k =>
      (F.name k, value k))).toList.map Prod.fst).Nodup := by
      rw [htoList, List.map_map]
      exact distinct.map fun k k' h => lawful.name_injective k k' (Option.some.inj h)
    exact List.nodup_iff_count_le_one.1 hnames _
  · exact absurd ((has_iff k _).2 rfl) (absent _)

end Lawful

/-! ## Texts -/

/-- What holds of the texts of records of a form. -/
structure Faithful (F : Form α δ) (toJson : α → Value) (ofJson : Value → Except DecodeError α) :
    Prop where
  /-- A record is read from its compact layout and from its pretty one. -/
  compact : ∀ a, decodeDocument ofJson (toJson a).compact = .ok a
  pretty : ∀ a, decodeDocument ofJson (toJson a).pretty = .ok a
  /-- What is written shows the record. -/
  shown : ∀ a, ∃ members, toJson a = .object members ∧ F.Presents a members
  /-- Every text of an object that shows a record is read as it. -/
  presented : ∀ a members t gap after, F.Presents a members → (Value.object members).Spells t →
    IsBlanks gap → IsBlanks after → decodeDocument ofJson (gap ++ (t ++ after)) = .ok a
  /-- No text of an object is read if a field without a default is missing, or if the value of a
  field is none for it. -/
  refused : ∀ members t gap after, F.Refuses members → (Value.object members).Spells t →
    IsBlanks gap → IsBlanks after → ∃ e, decodeDocument ofJson (gap ++ (t ++ after)) = .error e

/-- The texts of records that are read by their form are read faithfully. -/
theorem Lawful.faithful (lawful : F.Lawful) {toJson : α → Value}
    {ofJson : Value → Except DecodeError α} (writable : ∀ a, (toJson a).IsWritable)
    (shown : ∀ a, ∃ members, toJson a = .object members ∧ F.Presents a members)
    (ofJson_object : ∀ members, ofJson (.object members) = F.ofMembers members) :
    F.Faithful toJson ofJson := by
  have read {members : Members} {t gap after : Bytes} (spells : (Value.object members).Spells t)
      (blank : IsBlanks gap) (hafter : IsBlanks after) :
      decodeDocument ofJson (gap ++ (t ++ after)) = F.ofMembers members := by
    rw [decodeDocument, spells.read blank hafter, ← ofJson_object]
    rcases ofJson (.object members) with e | a <;> rfl
  have presented (a : α) (members : Members) (t gap after : Bytes) (presents : F.Presents a members)
      (spells : (Value.object members).Spells t) (blank : IsBlanks gap) (hafter : IsBlanks after) :
      decodeDocument ofJson (gap ++ (t ++ after)) = .ok a := by
    rw [read spells blank hafter]
    exact lawful.ofMembers_eq_ok presents spells.isWellFormed
  -- both layouts are texts of what is written
  have written (a : α) {t : Bytes} (writes : (toJson a).Writes t) :
      decodeDocument ofJson t = .ok a := by
    obtain ⟨members, hmembers, presents⟩ := shown a
    have hread := presented a members t [] [] presents
        (hmembers ▸ writes.spells) isBlanks_nil isBlanks_nil
    simpa using hread
  exact {
    compact := fun a => written a (Value.writes_compact (writable a))
    pretty := fun a => written a (Value.writes_prettyAt 0 (writable a))
    shown
    presented
    refused := fun members t gap after refuses spells blank hafter => by
      rw [read spells blank hafter]
      exact lawful.ofMembers_eq_error refuses }

/-- Members show a record also in another order, without fields that hold their default, and with
other members among them. -/
theorem Presents.rearrange {a : α} {members members' : Members} (presents : F.Presents a members)
    (kept : Option String × Value → Bool) (others : List (String × Value))
    (perm : members'.toList.Perm
      (members.toList.filter kept ++ others.map fun m => (some m.1, m.2)))
    (unknown : ∀ m ∈ others, ∀ k, F.name k ≠ m.1)
    (defaults : ∀ k v, members.Has (F.name k) v → kept (some (F.name k), v) = false →
      F.default? k = some (F.content a k)) : F.Presents a members' := by
  -- no other member has the name of a field
  have has_iff (k : F.Key) (v : Value) : members'.Has (F.name k) v ↔
      members.Has (F.name k) v ∧ kept (some (F.name k), v) = true := by
    rw [Members.Has, perm.mem_iff, List.mem_append, List.mem_filter]
    refine or_iff_left fun hmem => ?_
    obtain ⟨m, hm, heq⟩ := List.mem_map.1 hmem
    exact unknown m hm k (Option.some.inj (Prod.ext_iff.1 heq).1).symm
  refine ⟨fun m hm => ?_, fun k v has => ?_, fun k => ?_, fun k absent => ?_⟩
  · rcases List.mem_append.1 (perm.mem_iff.1 hm) with hm | hm
    · exact presents.texts m (List.mem_filter.1 hm).1
    · obtain ⟨m', -, rfl⟩ := List.mem_map.1 hm
      simp
  · exact presents.contents k v ((has_iff k v).1 has).1
  · have none_other : ((others.map fun m => (some m.1, m.2)).map Prod.fst).count
        (some (F.name k)) = 0 := by
      rw [List.count_eq_zero, List.map_map]
      intro hm
      obtain ⟨m, hm, heq⟩ := List.mem_map.1 hm
      exact unknown m hm k (Option.some.inj heq).symm
    rw [(perm.map Prod.fst).count_eq, List.map_append, List.count_append, none_other, Nat.add_zero]
    exact Nat.le_trans ((List.filter_sublist.map Prod.fst).count_le _) (presents.once k)
  · by_cases has : ∃ v, members.Has (F.name k) v
    · obtain ⟨v, has⟩ := has
      refine defaults k v has ?_
      rw [Bool.eq_false_iff]
      exact fun hkept => absent v ((has_iff k v).2 ⟨has, hkept⟩)
    · exact presents.absent k fun v hv => has ⟨v, hv⟩

end Form

end Json

end ObjectTransfer
