import ObjectTransfer.Files.Path
import ObjectTransfer.Files.Tree
import ObjectTransfer.IoError
import ObjectTransfer.Text.Numeral

/-!
# The disk

A file tree with a working folder, and the calls by which programs use it. A call either does its
work or is refused; it is refused for the reasons for which a file system refuses, in their order.

A disk may also carry failures that are still to come, one mark to a call: a call whose mark is a
failure does not do its work. With no marks left nothing fails that the tree allows. Links,
permissions and the time of a file are left out.
-/

namespace ObjectTransfer

/-- A failure of the medium. -/
structure DiskFault where
  cause : IoError
  /-- How many bytes still arrive when a file is being written. -/
  written : Nat := 0
  deriving Repr, DecidableEq

/-- A file tree in use. -/
structure Disk where
  tree : FileTree := {}
  /-- The working folder, from which relative paths start. -/
  here : Location := []
  /-- The failures to come: a mark for each call, none for a call that goes through. -/
  faults : List (Option DiskFault) := []
  deriving Repr, DecidableEq

/-- A use of the disk that ends with a value or an error. What has been changed before an error
stays changed. -/
abbrev FileM (ε : Type) := ExceptT ε (StateM Disk)

namespace FileM

/-- Runs a use on a disk. -/
def on {ε α : Type} (act : FileM ε α) (d : Disk) : Except ε α × Disk :=
  act d

end FileM

namespace Disk

/-! ## Finding places -/

/-- The longest name that a file system takes. -/
def maxName : Nat := 255

/-- The number of bytes that no path may reach. -/
def pathLimit : Nat := 4096

/-- Follows names down from a folder. Whether the last one names anything is not asked. -/
def follow (t : FileTree) (folder : Location) : List Bytes → Except SystemError Location
  | [] => .ok folder
  | name :: rest =>
    match t.find? folder with
    | none => .error .noSuchEntry
    | some (.file _) => .error .notADirectory
    | some .folder =>
      if name = FilePath.dot then follow t folder rest
      else if name = FilePath.dotDot then follow t folder.dropLast rest
      else if maxName < name.length then .error .nameTooLong
      else follow t (folder ++ [name]) rest

/-- Refuses the paths that no file system takes. -/
def checkPath (p : FilePath) : Except IoError Unit :=
  if p.bytes.contains 0 then .error .nulInPath
  else if p.isEmpty then .error (.system .noSuchEntry)
  else if pathLimit ≤ p.bytes.length then .error (.system .nameTooLong)
  else .ok ()

/-- Where the names of a path start. -/
def start (d : Disk) (p : FilePath) : Location :=
  if p.isAbsolute then [] else d.here

/-- Refusals of the file system as errors. -/
def lift {α : Type} : Except SystemError α → Except IoError α
  | .ok a => .ok a
  | .error e => .error (.system e)

/-- The place that a path names, and what is there. -/
def locate (d : Disk) (p : FilePath) : Except IoError (Location × Entry) := do
  checkPath p
  let names := if p.endsInSlash then p.names ++ [FilePath.dot] else p.names
  let l ← lift (follow d.tree (d.start p) names)
  match d.tree.find? l with
  | some e => return (l, e)
  | none => throw (.system .noSuchEntry)

/-- The place at which a path would put something: none if its last name can only be a folder
that is already there. -/
def place (d : Disk) (p : FilePath) : Except IoError (Option Location) := do
  checkPath p
  let above ← lift (follow d.tree (d.start p) (p.names.dropLast ++ [FilePath.dot]))
  match p.names.getLast? with
  | none => return none
  | some name =>
    if name = FilePath.dot || name = FilePath.dotDot then return none
    else if maxName < name.length then throw (.system .nameTooLong)
    else return some (above ++ [name])

/-- Whether the path names a file. -/
def isFile (d : Disk) (p : FilePath) : Bool :=
  match d.locate p with
  | .ok (_, .file _) => true
  | _ => false

/-- Whether the path names a folder. -/
def isFolder (d : Disk) (p : FilePath) : Bool :=
  match d.locate p with
  | .ok (_, .folder) => true
  | _ => false

/-- What is at a place from now on. -/
def put (d : Disk) (l : Location) (e : Entry) : Disk :=
  { d with tree := d.tree.put l e }

/-- Nothing is at a place from now on. -/
def erase (d : Disk) (l : Location) : Disk :=
  { d with tree := d.tree.erase l }

/-! ## Calls -/

/-- A call that looks at the disk and may be refused. -/
def query {α : Type} (f : Disk → Except IoError α) : FileM IoError α := fun d =>
  match d.faults with
  | [] => (f d, d)
  | none :: rest => (f d, { d with faults := rest })
  | some fault :: rest => (.error fault.cause, { d with faults := rest })

/-- A call that changes the disk unless it is refused. -/
def change {α : Type} (f : Disk → Except IoError (α × Disk)) : FileM IoError α := do
  let (a, d) ← query f
  modify fun now => { d with faults := now.faults }
  return a

/-- Makes a folder. -/
def makeFolder (p : FilePath) : FileM IoError Unit :=
  change fun d => do
    match ← d.place p with
    | none => throw (.system .fileExists)
    | some l =>
      match d.tree.find? l with
      | some _ => throw (.system .fileExists)
      | none => return ((), d.put l .folder)

/-- Makes the folders of a list of paths that lie one above the other, the lowest first: goes up
to the first that is there or can be made, and down again. -/
def makeChain : List FilePath → FileM IoError Unit
  | [] => pure ()
  | p :: above => do
    if p.isEmpty then return
    try makeFolder p
    catch e =>
      if e = .system .noSuchEntry then
        makeChain above
        try makeFolder p
        catch e => unless (← get).isFolder p do throw e
      else unless (← get).isFolder p do throw e

/-- Makes a folder and all folders above it that are missing. -/
def makeFolders (p : FilePath) : FileM IoError Unit :=
  makeChain p.ancestors

/-- Opens what a path names; a folder too can be opened, though not read. -/
def openEntry (p : FilePath) : FileM IoError Entry :=
  query fun d => (d.locate p).map (·.2)

/-- Reads what has been opened. -/
def readEntry (e : Entry) : FileM IoError Bytes :=
  query fun _ =>
    match e with
    | .file content => .ok content
    | .folder => .error (.system .isADirectory)

/-- Reads a file. -/
def readFile (p : FilePath) : FileM IoError Bytes := do
  readEntry (← openEntry p)

/-- Reads a file that holds text. -/
def readText (p : FilePath) : FileM IoError String := do
  match Bytes.toString? (← readFile p) with
  | some s => return s
  | none => throw .notText

/-- A use of the disk with a value of its own for something that is missing. -/
def orIfMissing {α : Type} (act : FileM IoError α) (value : α) : FileM IoError α :=
  tryCatch act fun e => if e.kind = .notFound then pure value else throw e

/-- Makes an empty file, or empties the one that is there. -/
def createFile (p : FilePath) : FileM IoError Location :=
  change fun d => do
    match ← d.place p with
    | none => throw (.system .isADirectory)
    | some l =>
      if p.endsInSlash then throw (.system .isADirectory)
      match d.tree.find? l with
      | some .folder => throw (.system .isADirectory)
      | _ => return (l, d.put l (.file []))

/-- Adds bytes to a file that has been opened. A file that is no longer there takes them along. -/
def appendTo (l : Location) (bytes : Bytes) : FileM IoError Unit := fun d =>
  let add (d : Disk) (bytes : Bytes) : Disk :=
    match d.tree.find? l with
    | some (.file content) => d.put l (.file (content ++ bytes))
    | _ => d
  match d.faults with
  | [] => (.ok (), add d bytes)
  | none :: rest => (.ok (), add { d with faults := rest } bytes)
  | some fault :: rest =>
    (.error fault.cause, add { d with faults := rest } (bytes.take fault.written))

/-- Makes a file with this content, instead of the one that is there. -/
def writeFile (p : FilePath) (bytes : Bytes) : FileM IoError Unit := do
  appendTo (← createFile p) bytes

/-- Removes a file. -/
def removeFile (p : FilePath) : FileM IoError Unit :=
  change fun d => do
    match ← d.locate p with
    | (_, .folder) => throw (.system .isADirectory)
    | (l, .file _) => return ((), d.erase l)

/-- Removes the file at a place, whatever may fail. -/
def discard (l : Location) : StateM Disk Unit :=
  modify (·.erase l)

/-- Removes the file at a place and tells whether it was still there. Neither this nor `discard`
meets the failures to come: who holds a file can always let it go. -/
def release (l : Location) : FileM IoError Unit := fun d =>
  match d.tree.find? l with
  | some (.file _) => (.ok (), d.erase l)
  | _ => (.error (.system .noSuchEntry), d)

/-- The number of bytes of a file. -/
def fileSize (p : FilePath) : FileM IoError Nat :=
  query fun d => (d.locate p).map fun
    | (_, .file content) => content.length
    | (_, .folder) => 0

/-- The names of the entries of a folder. -/
def readFolder (p : FilePath) : FileM IoError (List Bytes) :=
  query fun d => do
    match ← d.locate p with
    | (l, .folder) => return d.tree.children l
    | (_, .file _) => throw (.system .notADirectory)

/-- A name between a beginning and an end that no entry of a folder has. -/
def freshName (t : FileTree) (folder : Location) (start stop : String) : Bytes :=
  let name (n : Nat) := Bytes.ofString start ++ Numeral.decimal n ++ Bytes.ofString stop
  let taken := t.children folder
  name (((List.range (taken.length + 1)).find? fun n => !taken.contains (name n)).getD 0)

/-- A file that was made under a name of its own. -/
structure FreshFile where
  path : FilePath
  place : Location
  deriving Repr, DecidableEq

/-- Makes an empty file with a name of its own in a folder. -/
def createFresh (folder : FilePath) (start stop : String) : FileM IoError FreshFile :=
  change fun d => do
    match ← d.locate (if folder.isEmpty then .text FilePath.dot else folder) with
    | (_, .file _) => throw (.system .notADirectory)
    | (l, .folder) =>
      let name := freshName d.tree l start stop
      return (⟨.child folder name, l ++ [name]⟩, d.put (l ++ [name]) (.file []))

/-- Gives a file the place of another. The other file goes away in the same moment. -/
def replaceFile (source target : FilePath) : FileM IoError Unit :=
  change fun d => do
    let (l, e) ← d.locate source
    match ← d.place target with
    | none => throw (.system .resourceBusy)
    | some m =>
      if target.endsInSlash then throw (.system .notADirectory)
      match d.tree.find? m with
      | some .folder => throw (.system .isADirectory)
      | _ => return ((), (d.erase l).put m e)

end Disk

end ObjectTransfer
