import ObjectTransfer.CommandLine.Run

/-!
# The command line

Takes what a run needs from the system, has the program run on it, and gives back what the run has
changed: files and folders, output, log lines and the exit code. Of the file system it takes the
folders that the paths in question go through, the files that they name, and the names in the
folders in which files are made.
-/

namespace ObjectTransfer.CommandLine

/-- The variables that mean something to the program. -/
def variableNames : List String :=
  ["HOME", "XDG_CONFIG_HOME", "XDG_CACHE_HOME", "TMPDIR", "MTP_PIPE_STAGING_DIR",
    "MTP_PIPE_LOG_LEVEL"]

/-- The environment of the process. -/
def readEnvironment : IO Environment := do
  let found ← variableNames.filterMapM fun name => do
    return (← IO.getEnv name).map fun value => (name, Bytes.ofString value)
  return { assignments := found }

/-- The path of a place. -/
def pathOf (l : Location) : String :=
  "/" ++ "/".intercalate (l.map Bytes.lossy)

/-- What is at a place of the file system. -/
def entryAt (l : Location) (withContent : Bool) : IO (Option Entry) := do
  let path := (← IO.currentDir) / pathOf l
  if ← path.isDir then return some .folder
  if ← path.pathExists then
    if withContent then return some (.file (← IO.FS.readBinFile path).data.toList)
    else return some (.file [])
  return none

/-- Takes over what is at a place. -/
def takeOver (d : Disk) (l : Location) (withContent : Bool) : IO Disk := do
  if (d.tree.find? l).isSome then return d
  match ← entryAt l withContent with
  | some e => return d.put l e
  | none => return d

/-- The place to which names lead from another place. -/
def follow (start : Location) (names : List Bytes) : Location :=
  names.foldl (fun l name =>
    if name = FilePath.dot then l
    else if name = FilePath.dotDot then l.dropLast
    else l ++ [name]) start

/-- The places that a path goes through, the start included. -/
def passed (d : Disk) (p : FilePath) : List Location :=
  (List.range (p.names.length + 1)).map fun n => follow (d.start p) (p.names.take n)

/-- Takes over what is at the places that a path goes through. -/
def takePath (d : Disk) (p : FilePath) : IO Disk :=
  (passed d p).foldlM (fun d l => takeOver d l true) d

/-- Takes over a folder, with the contents of its files if they are wanted. -/
def takeFolder (d : Disk) (p : FilePath) (withContent : Bool) : IO Disk := do
  let d ← takePath d p
  let l := follow (d.start p) p.names
  match d.tree.find? l with
  | some .folder =>
    let path := (← IO.currentDir) / pathOf l
    (← path.readDir).foldlM
      (fun d entry => takeOver d (l ++ [Bytes.ofString entry.fileName]) withContent) d
  | _ => return d

/-- The paths of a command, the device it concerns, and the folders in which it makes files. -/
def takeCommand (d : Disk) (a : Arguments) (s : Settings) : IO Disk := do
  let (target, file) := match a.command with
    | .read t output | .thumbnail t output => (t, output)
    | .write t input _ => (t, input)
  let d ← takePath d a.catalog
  let d ← takeFolder d (FolderDevice.folder ⟨a.root⟩ target.device) true
  let d ← takeFolder d (Catalog.folder a.catalog) false
  let d ← takeFolder d (.text s.stagingFolder) false
  match file with
  | some p => takePath d p
  | none => return d

/-- Puts a file in place in one step. -/
def putFile (path : String) (content : Bytes) : IO Unit := do
  let fresh := path ++ ".new"
  IO.FS.writeBinFile fresh ⟨content.toArray⟩
  IO.FS.rename fresh path

/-- Gives back what has changed between two states of the disk. -/
def giveBack (before after : Disk) : IO Unit := do
  let changed := after.tree.entries.filter fun (l, e) => before.tree.find? l != some e
  for (l, e) in changed do
    if e == .folder then IO.FS.createDirAll (pathOf l)
  for (l, e) in changed do
    if let .file content := e then putFile (pathOf l) content
  for (l, e) in before.tree.entries do
    if e != .folder && (after.tree.find? l).isNone then IO.FS.removeFile (pathOf l)

/-- The disk as far as a run will need it. -/
def takeDisk (i : Invocation) : IO Disk := do
  let here := (FilePath.ofString (← IO.currentDir).toString).names
  let d ← (List.range here.length).foldlM (fun d n => takeOver d (here.take (n + 1)) true)
    { here : Disk }
  match Arguments.parse i.arguments with
  | .error _ => return d
  | .ok a =>
    let d ← takePath d (a.config.getD (Settings.defaultPath i.environment))
    match (settingsOf i.environment a.config).on d with
    | (.error _, _) => return d
    | (.ok s, _) => takeCommand d a s

/-- Whether a run reads its standard input. -/
def readsInput (i : Invocation) : Bool :=
  match Arguments.parse i.arguments with
  | .ok { command := .write _ none _, .. } => true
  | _ => false

end ObjectTransfer.CommandLine

open ObjectTransfer CommandLine in
/-- Runs the program in the process. -/
def main (args : List String) : IO UInt32 := do
  let i : Invocation := { arguments := args.map Bytes.ofString, environment := ← readEnvironment }
  let i ← if readsInput i then
      pure { i with stdin := { content := (← (← IO.getStdin).readBinToEnd).data.toList } }
    else pure i
  let disk ← takeDisk i
  let report := run i disk
  giveBack disk report.disk
  (← IO.getStdout).write ⟨report.stdout.toArray⟩
  for n in report.log do IO.eprintln n.line
  IO.eprint report.stderr
  return report.exit.toUInt32
