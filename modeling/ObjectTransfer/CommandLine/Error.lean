import ObjectTransfer.CommandLine.Help
import ObjectTransfer.Settings.Document
import ObjectTransfer.Text.Quoted
import ObjectTransfer.Transfer.Error

/-!
# Errors of the program

Why a run of the program does not succeed, and how it says so: by an exit code, and by a report that
names the error and its causes.
-/

namespace ObjectTransfer

/-- Why a run does not succeed. -/
inductive RunError where
  | usage (cause : UsageError)
  | settings (cause : SettingsError)
  | unacceptable (fault : SettingsFault)
  | catalog (path : FilePath) (cause : CatalogError)
  | notAdmitted (cause : AdmissionError)
  | outputNotMade (path : FilePath) (cause : IoError)
  | outputNotWritten (cause : IoError)
  | outputNotFlushed (cause : IoError)
  /-- The transfer has told the reader why it failed. -/
  | transferFailed (message : String)
  /-- The transfer has gone away without a word. -/
  | transferLost
  | inputNotOpened (path : FilePath) (cause : IoError)
  | inputNotRead (cause : IoError)
  | uploadNotFinished (cause : IoError)
  /-- So many transfers have failed. -/
  | failures (count : Nat)
  /-- Transfers are left although the time for them has passed. -/
  | stillRunning
  deriving Repr, DecidableEq

namespace RunError

/-- The texts of a catalog's error and of what lies behind it. -/
def catalogChain (e : CatalogError) : List String :=
  match e with
  | .io cause => [e.message, cause.message]
  | _ => [e.message]

/-- The texts of the error, the outermost first and its causes behind it. -/
def chain : RunError → List String
  | usage e => [e.message]
  | settings e => e.chain
  | unacceptable f => [f.message]
  | catalog p e => ("Failed to open catalog: " ++ p.display) :: catalogChain e
  | notAdmitted e => [e.message]
  | outputNotMade p e => ["Failed to create " ++ p.display, e.message]
  | outputNotWritten e => ["Failed to write output", e.message]
  | outputNotFlushed e => [e.message]
  | transferFailed m => ["transfer failed: " ++ m]
  | transferLost => ["transfer ended unexpectedly"]
  | inputNotOpened p e => ["Failed to open " ++ p.display, e.message]
  | inputNotRead e => ["Failed to read upload input", e.message]
  | uploadNotFinished e => ["Failed to finish upload", e.message]
  | failures n => [toString n ++ " transfer task(s) failed, see log for details"]
  | stillRunning => ["transfer still running at shutdown"]

/-- The exit code. -/
def exitCode : RunError → UInt8
  | usage e => e.exitCode
  | _ => 1

/-- A text whose lines after the first are indented. -/
def indent (by_ : String) (s : String) : String :=
  ("\n" ++ by_).intercalate ((s.toList.splitOn '\n').map String.ofList)

/-- The causes of an error, one on a line; several are numbered. -/
def causes : List String → List String
  | [cause] => ["    " ++ indent "    " cause]
  | causes => causes.zipIdx.map fun (c, n) =>
    "    " ++ toString n ++ ": " ++ indent "       " c

/-- The report on the error. -/
def report (e : RunError) : String :=
  match e.chain with
  | [] => ""
  | [message] => "Error: " ++ message ++ "\n"
  | message :: behind =>
    "Error: " ++ message ++ "\n\nCaused by:\n" ++ "\n".intercalate (causes behind) ++ "\n"

/-- What a run that copies to its output makes of an error: the way in which a pipe has ended is
told by words of its own, and all else is a failure to write. -/
def ofCopy : IoError → RunError
  | .channel (.remote m) => transferFailed m
  | .channel .detached => transferLost
  | e => outputNotWritten e

end RunError

end ObjectTransfer
