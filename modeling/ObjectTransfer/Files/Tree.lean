import ObjectTransfer.Bytes

/-!
# File trees

Files and folders by their location, the list of names that lead to it from the root. The root is
always a folder. Every other folder that is to be there has an entry of its own.

Main statements: what `put` and `erase` do to `find?`.
-/

namespace ObjectTransfer

/-- The names that lead from the root to a place. -/
abbrev Location := List Bytes

/-- What can be at a place. -/
inductive Entry where
  | file (content : Bytes)
  | folder
  deriving Repr, DecidableEq

/-- How many bytes are at a place. -/
def Entry.size : Entry → Nat
  | file content => content.length
  | folder => 0

/-- Files and folders below a root. -/
structure FileTree where
  entries : List (Location × Entry) := []
  deriving Repr, DecidableEq

namespace FileTree

/-- What is at a place. -/
def find? (t : FileTree) (l : Location) : Option Entry :=
  if l = [] then some .folder else t.entries.lookup l

/-- Removes the entry of a place. -/
def erase (t : FileTree) (l : Location) : FileTree :=
  ⟨t.entries.filter fun e => e.1 != l⟩

/-- Puts an entry at a place, instead of what is there. -/
def put (t : FileTree) (l : Location) (e : Entry) : FileTree :=
  ⟨(l, e) :: (t.erase l).entries⟩

/-- How many bytes all files hold together. -/
def size (t : FileTree) : Nat :=
  t.entries.foldr (fun e n => e.2.size + n) 0

/-- The names of the entries of a folder. -/
def children (t : FileTree) (folder : Location) : List Bytes :=
  t.entries.filterMap fun e =>
    if e.1 != [] && e.1.dropLast = folder then e.1.getLast? else none

/-- The entries below a folder, each with the names that lead to it from there. -/
def below (t : FileTree) (folder : Location) : List (Location × Entry) :=
  t.entries.filterMap fun e =>
    if folder.isPrefixOf e.1 && e.1 != folder then some (e.1.drop folder.length, e.2) else none

/-- A lookup passes over the entries of other places. -/
private theorem lookup_filter_ne (entries : List (Location × Entry)) {l m : Location}
    (h : m ≠ l) : (entries.filter fun e => e.1 != l).lookup m = entries.lookup m := by
  induction entries with
  | nil => rfl
  | cons e rest ih =>
    obtain ⟨k, v⟩ := e
    by_cases hk : k = l
    · subst hk
      have : (m == k) = false := by simp [h]
      simp [List.lookup_cons, this, ih]
    · simp [List.lookup_cons, ih, hk]

/-- No entry of a place is left after a filter against it. -/
private theorem lookup_filter_self (entries : List (Location × Entry)) (l : Location) :
    (entries.filter fun e => e.1 != l).lookup l = none := by
  induction entries with
  | nil => rfl
  | cons e rest ih =>
    obtain ⟨k, v⟩ := e
    by_cases hk : k = l
    · simp [hk, ih]
    · have : (l == k) = false := by simp [Ne.symm hk]
      simp [hk, List.lookup_cons, this, ih]

/-- What is put at a place is found there. -/
theorem find?_put_self (t : FileTree) {l : Location} (e : Entry) (h : l ≠ []) :
    (t.put l e).find? l = some e := by
  simp [find?, put, h]

/-- Other places do not change. -/
theorem find?_put_of_ne (t : FileTree) {l m : Location} (e : Entry) (h : m ≠ l) :
    (t.put l e).find? m = t.find? m := by
  have : (m == l) = false := by simp [h]
  simp [find?, put, erase, List.lookup_cons, this, lookup_filter_ne _ h]

/-- Nothing is found at a place that was erased. -/
theorem find?_erase_self (t : FileTree) {l : Location} (h : l ≠ []) :
    (t.erase l).find? l = none := by
  simp [find?, erase, h, lookup_filter_self]

/-- Other places do not change. -/
theorem find?_erase_of_ne (t : FileTree) {l m : Location} (h : m ≠ l) :
    (t.erase l).find? m = t.find? m := by
  simp [find?, erase, lookup_filter_ne _ h]

end FileTree

end ObjectTransfer
