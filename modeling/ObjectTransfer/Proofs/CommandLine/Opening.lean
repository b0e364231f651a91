import ObjectTransfer.CommandLine.Run
import ObjectTransfer.Proofs.Catalog.Durability
import ObjectTransfer.Proofs.Files.Frame

/-!
# How a run begins

A run of the program reads its settings and opens its catalog before it does anything else. It
leaves what it reads as it is. If it cannot begin it says so by its exit code, and otherwise it goes
on to a session.

The module introduces:

* `CommandLine.opening`: what a run begins with.

Main statements: `CommandLine.run_of_opening_error` and `CommandLine.run_of_opening_ok`.
-/

namespace ObjectTransfer

/-! ## Reading the command line -/

namespace Reading

variable {r : Reading} {args : List Bytes}

/-- Takes what has been chosen behind the name of a command, unless an option is missing. -/
def choices? (r : Reading) : Except UsageError Choices := do
  let r ← r.settle
  match r.choices.missing [.device, .handle] with
  | [] => return r.choices
  | flags => throw (.missingOptions flags)

/-- The arguments behind the name of a command are read one after the other. -/
theorem verbArguments_eq (plain : stop ∉ args) :
    r.verbArguments args = args.foldlM step r >>= choices? := by
  induction args generalizing r with
  | nil =>
    rw [verbArguments]
    rfl
  | cons arg rest ih =>
    have here : arg ≠ stop := fun h => plain (h ▸ List.mem_cons_self)
    have later : stop ∉ rest := fun h => plain (List.mem_cons_of_mem arg h)
    rw [verbArguments.eq_def, List.foldlM_cons]
    simp only [if_neg here]
    rcases r.step arg with e | r'
    · rfl
    · exact ih later

end Reading

/-- A command line that begins with the name of a command consists of that command's arguments. -/
theorem Arguments.parse_eq {v : Verb} {arg : Bytes} {args : List Bytes}
    (names : Verb.ofName? arg = some v) (plain : Reading.stop ∉ args) :
    Arguments.parse (arg :: args) =
      (args.foldlM Reading.step { scope := .verb v } >>= Reading.choices?).bind
      (ofChoices v {}) := by
  have verb : (if Reading.awaitsValue { scope := .program } then none else Verb.ofName? arg) =
      some v :=
    names
  rw [parse, Reading.programArguments.eq_def]
  simp only [verb, Reading.verbArguments_eq plain]
  rcases List.foldlM Reading.step { scope := .verb v } args >>= Reading.choices? with e | inner <;>
      rfl

namespace CommandLine

variable {i : Invocation} {a : Arguments} {s : Settings} {catalog : Catalog} {disk d : Disk}
  {e : RunError}

/-- Reads the settings and opens the catalog. -/
def opening (e : Environment) (a : Arguments) : FileM RunError (Settings × Catalog) := do
  let s ← settingsOf e a.config
  let catalog ← (Catalog.openAt a.catalog).adapt (RunError.catalog a.catalog)
  return (s, catalog)

/-! ## Beginning -/

/-- Reading settings touches nothing. -/
theorem touches_settingsOf (here : Location) (places : Location → Prop) (e : Environment)
    (config : Option FilePath) : FileM.Touches here places (settingsOf e config) := by
  refine .bind (.adapt ?_ _) fun s => ?_
  · rw [Settings.load]
    have text (p : FilePath) :
        FileM.Touches here places (Disk.orIfMissing (some <$> Disk.readText p) none) :=
      Disk.touches_orIfMissing ((Disk.touches_readText p).map some) none
    refine .bind (.adapt (text _) _) fun text => ?_
    split
    · exact .pure _
    · split
      · exact .pure _
      · exact .throw _
  · dsimp only
    split
    · exact .pure _
    · exact .throw _

/-- Opening a catalog touches nothing. -/
theorem touches_openAt (here : Location) (places : Location → Prop) (p : FilePath) :
    FileM.Touches here places (Catalog.openAt p) := by
  refine .bind (.adapt (Disk.touches_orIfMissing (Disk.touches_readFile p) []) _) fun text => ?_
  split
  · exact .pure _
  · split
    · exact .pure _
    · exact .throw _

/-- A run leaves what it begins with as it is. -/
theorem touches_opening (here : Location) (places : Location → Prop) (e : Environment)
    (a : Arguments) : FileM.Touches here places (opening e a) :=
  .bind (touches_settingsOf here places e a.config) fun s =>
    .bind (.adapt (touches_openAt here places a.catalog) _) fun catalog => .pure (s, catalog)

/-- The catalog that a run begins with has been read from its file. -/
theorem opening_ok (h : (opening i.environment a).on disk = (.ok (s, catalog), d)) :
    ∃ d₁, (settingsOf i.environment a.config).on disk = (.ok s, d₁) ∧
      (Catalog.openAt a.catalog).on d₁ = (.ok catalog, d) := by
  obtain ⟨s', d₁, hsettings, h⟩ := FileM.of_bind_ok h
  obtain ⟨catalog', d₂, hopen, h⟩ := FileM.of_bind_ok h
  cases h
  exact ⟨d₁, hsettings, FileM.of_adapt_ok hopen⟩

/-- A run that cannot begin has no settings that are accepted, or no catalog. -/
theorem opening_error (h : (opening i.environment a).on disk = (.error e, d)) :
    (settingsOf i.environment a.config).on disk = (.error e, d) ∨
      ∃ s d₁ cause, (settingsOf i.environment a.config).on disk = (.ok s, d₁) ∧
        (Catalog.openAt a.catalog).on d₁ = (.error cause, d) ∧ e = .catalog a.catalog cause := by
  rcases FileM.of_bind_error h with hsettings | ⟨s, d₁, hsettings, h⟩
  · exact .inl hsettings
  rcases FileM.of_bind_error h with hopen | ⟨catalog, d₂, -, h⟩
  · obtain ⟨cause, hcatalog, rfl⟩ := FileM.of_adapt_error hopen
    exact .inr ⟨s, d₁, cause, hsettings, hcatalog, rfl⟩
  · cases h

/-- Settings that cannot be read, or are not accepted, show in the exit code. -/
theorem exitCode_of_settingsOf {config : Option FilePath}
    (h : (settingsOf i.environment config).on disk = (.error e, d)) : e.exitCode = 1 := by
  rcases FileM.of_bind_error h with hload | ⟨s, d₁, -, h⟩
  · obtain ⟨cause, -, rfl⟩ := FileM.of_adapt_error hload
    rfl
  · dsimp only at h
    split at h
    · cases h
    · cases h
      rfl

/-- A run that cannot begin ends with an exit code of its own and does nothing else. -/
theorem run_of_opening_error (parses : Arguments.parse i.arguments = .ok a)
    (h : (opening i.environment a).on disk = (.error e, d)) :
    (run i disk).exit = 1 ∧ (run i disk).disk = d := by
  rcases opening_error h with hsettings | ⟨s, d₁, cause, hsettings, hopen, rfl⟩
  · have shows := exitCode_of_settingsOf hsettings
    rw [run, parses]
    simp only [hsettings]
    exact ⟨shows, rfl⟩
  · rw [run, parses]
    simp only [hsettings, execute, hopen]
    exact ⟨rfl, rfl⟩

/-- A run that can begin reports on a session. -/
theorem run_of_opening_ok (parses : Arguments.parse i.arguments = .ok a)
    (h : (opening i.environment a).on disk = (.ok (s, catalog), d)) :
    run i disk = sessionReport a s
      ((Session.new s d catalog { faults := i.stdoutFaults }).conduct (Host.folder ⟨a.root⟩)
        a.command i.stdin (Session.steps d i.stdin)) := by
  obtain ⟨d₁, hsettings, hopen⟩ := opening_ok h
  simp only [run, parses, hsettings, execute, hopen]

end CommandLine

end ObjectTransfer
