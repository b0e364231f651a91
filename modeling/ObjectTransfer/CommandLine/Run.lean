import ObjectTransfer.CommandLine.Session
import ObjectTransfer.Transfer.LocalHost

/-!
# The program

What the program `mtp-pipe` does with a command line, on a disk, in an environment: it reads its
settings, opens the catalog, has one transfer carried out in a session, and tells by its exit code
whether all went well. A run is a function of what it is given; it is the session in which the
worker goes first whenever it can.
-/

namespace ObjectTransfer

/-- What a run is given. -/
structure Invocation where
  /-- The arguments behind the program's name. -/
  arguments : List Bytes
  environment : Environment
  /-- What is to be had from the standard input. -/
  stdin : Source := { content := [] }
  /-- The failures of the standard output that are to come: a mark for each call, none for a call
  that goes through. -/
  stdoutFaults : List (Option DiskFault) := []

/-- What a run leaves behind. -/
structure Report where
  exit : UInt8
  stdout : Bytes := []
  stderr : String := ""
  /-- The notices that are severe enough to be shown. -/
  log : List Notice := []
  disk : Disk

namespace CommandLine

/-- The settings of a run. -/
def settingsOf (e : Environment) (config : Option FilePath) : FileM RunError Settings := do
  let s ← (Settings.load e (config.getD (Settings.defaultPath e))).adapt RunError.settings
  let s := s.override e
  match s.validate with
  | .ok () => return s
  | .error f => throw (.unacceptable f)

/-- The least severe level that a run shows. -/
def shownLevel (a : Arguments) (s : Settings) : Level :=
  if a.verbose then .debug else (Level.ofName? s.lowerLevel).getD .info

/-- The notices that are at least so severe. -/
def shown (level : Level) (log : List Notice) : List Notice :=
  log.filter fun n => level.rank ≤ n.level.rank

/-- The report on a run that has come to this. What the standard output still holds arrives at the
exit, if it can. -/
def reportOf (verdict : Except RunError Unit) (stdout : Outlet) (log : List Notice)
    (disk : Disk) : Report :=
  let stdout := stdout.flush.2.arrived
  match verdict with
  | .ok () => { exit := 0, stdout, log, disk }
  | .error e => { exit := e.exitCode, stdout, stderr := e.report, log, disk }

/-- What is reported before the catalog is opened. -/
def noticesOf (a : Arguments) : List Notice :=
  (a.config.map fun p => Notice.usingSettings (Quoted.quote p.display)).toList

/-- The report on a session. One that has not ended is still running. -/
def sessionReport {σ : Type} (a : Arguments) (s : Settings) (x : Session σ) : Report :=
  reportOf (x.verdict?.getD (.error .stillRunning)) x.stdout
    (shown (shownLevel a s) (noticesOf a ++ x.broker.site.log)) x.broker.site.disk

/-- Carries a command out with settings, on a disk. -/
def execute (i : Invocation) (a : Arguments) (s : Settings) (disk : Disk) : Report :=
  match (Catalog.openAt a.catalog).on disk with
  | (.error e, disk) =>
    reportOf (.error (.catalog a.catalog e)) {} (shown (shownLevel a s) (noticesOf a)) disk
  | (.ok catalog, disk) =>
    sessionReport a s <|
      (Session.new s disk catalog { faults := i.stdoutFaults }).conduct (Host.folder ⟨a.root⟩)
        a.command i.stdin (Session.steps disk i.stdin)

/-- The report on a command line that is not carried out. Texts that were asked for go to the
standard output. -/
def refuse (e : UsageError) (disk : Disk) : Report :=
  if e.exitCode = 0 then { exit := 0, stdout := Bytes.ofString e.message, disk }
  else { exit := e.exitCode, stderr := e.message, disk }

/-- Runs the program. -/
def run (i : Invocation) (disk : Disk) : Report :=
  match Arguments.parse i.arguments with
  | .error e => refuse e disk
  | .ok a =>
    match (settingsOf i.environment a.config).on disk with
    | (.error e, disk) => reportOf (.error e) {} [] disk
    | (.ok s, disk) => execute i a s disk

end CommandLine

end ObjectTransfer
