import ObjectTransfer.Files.Path
import ObjectTransfer.Identifier
import ObjectTransfer.ObjectInfo

/-!
# Arguments

The command line of the program `mtp-pipe`. It names one of three commands, an object, and options
of the command; the options of the program itself may stand before or behind the command's name.

An option is written `--name value`, `--name=value`, `-n value`, `-n=value` or `-nvalue`, and
short options without a value may share one dash. The value that follows an option as an argument
of its own is taken to account only when the next option comes or the line ends, so that an
argument which means nothing is refused before a bad value in front of it.
-/

namespace ObjectTransfer

/-- What the program can be asked to do. -/
inductive Verb where
  /-- Copy an object's bytes out of a device. -/
  | read
  /-- Copy an object's thumbnail out of a device. -/
  | thumbnail
  /-- Replace an object by new content. -/
  | write
  deriving Repr, DecidableEq

namespace Verb

/-- The name of the command. -/
def name : Verb → String
  | read => "read"
  | thumbnail => "thumbnail"
  | write => "write"

/-- All commands. -/
def all : List Verb := [read, thumbnail, write]

/-- The command that an argument names. -/
def ofName? (arg : Bytes) : Option Verb :=
  all.find? fun v => Bytes.ofString v.name = arg

end Verb

/-- The options of the command line. -/
inductive Flag where
  | config
  | verbose
  | root
  | catalog
  | device
  | handle
  | document
  | output
  | input
  | operation
  | help
  | version
  deriving Repr, DecidableEq

namespace Flag

/-- The name behind two dashes. -/
def long : Flag → String
  | config => "config"
  | verbose => "verbose"
  | root => "root"
  | catalog => "catalog"
  | device => "device"
  | handle => "handle"
  | document => "document"
  | output => "output"
  | input => "input"
  | operation => "operation"
  | help => "help"
  | version => "version"

/-- The letter behind one dash. -/
def short : Flag → Option Char
  | config => some 'c'
  | verbose => some 'v'
  | device => some 'd'
  | handle => some 'H'
  | output => some 'o'
  | input => some 'i'
  | help => some 'h'
  | version => some 'V'
  | root | catalog | document | operation => none

/-- Whether a value belongs to the option. -/
def takesValue : Flag → Bool
  | verbose | help | version => false
  | _ => true

/-- Whether the option may be given more than once. -/
def repeats : Flag → Bool
  | operation => true
  | _ => false

end Flag

/-- Where an argument stands: before the command's name or behind it. -/
inductive Scope where
  | program
  | verb (v : Verb)
  deriving Repr, DecidableEq

namespace Scope

/-- The options that mean something there. -/
def flags : Scope → List Flag
  | program => [.config, .verbose, .root, .catalog, .help, .version]
  | verb .write =>
    [.device, .handle, .document, .input, .operation, .config, .verbose, .root, .catalog, .help]
  | verb _ => [.device, .handle, .document, .output, .config, .verbose, .root, .catalog, .help]

/-- The option with a name. -/
def ofLong? (s : Scope) (name : Bytes) : Option Flag :=
  s.flags.find? fun f => Bytes.ofString f.long = name

/-- The option with a letter. -/
def ofShort? (s : Scope) (letter : UInt8) : Option Flag :=
  s.flags.find? fun f => f.short.map Bytes.ascii = some letter

end Scope

/-- Why a command line is not carried out. -/
inductive UsageError where
  /-- The help text is asked for. -/
  | help
  /-- The version is asked for. -/
  | version
  | unknownArgument (argument : Bytes)
  | unknownCommand (argument : Bytes)
  | missingCommand
  /-- Nothing at all is asked for. -/
  | nothingAsked
  /-- Options that a command needs. -/
  | missingOptions (flags : List Flag)
  | missingValue (flag : Flag)
  | needlessValue (flag : Flag)
  | repeated (flag : Flag)
  | valueNotText (flag : Flag)
  /-- A value that the option does not accept, and why. -/
  | badValue (flag : Flag) (value reason : String)
  deriving Repr, DecidableEq

/-- The exit code of the program for a command line that is not carried out. Who asks for a text
gets it, and nothing has gone wrong. -/
def UsageError.exitCode : UsageError → UInt8
  | help | version => 0
  | _ => 2

/-- What has been chosen so far. -/
structure Choices where
  config : Option Bytes := none
  verbose : Bool := false
  root : Option Bytes := none
  catalog : Option Bytes := none
  device : Option UInt32 := none
  handle : Option UInt32 := none
  document : Option String := none
  output : Option Bytes := none
  input : Option Bytes := none
  operations : List OperationCode := []
  deriving Repr, DecidableEq

namespace Choices

/-- Whether an option has been given. -/
def has (c : Choices) : Flag → Bool
  | .config => c.config.isSome
  | .verbose => c.verbose
  | .root => c.root.isSome
  | .catalog => c.catalog.isSome
  | .device => c.device.isSome
  | .handle => c.handle.isSome
  | .document => c.document.isSome
  | .output => c.output.isSome
  | .input => c.input.isSome
  | .operation => !c.operations.isEmpty
  | .help | .version => false

/-- The options out of a list that have not been given. -/
def missing (c : Choices) (flags : List Flag) : List Flag :=
  flags.filter (!c.has ·)

/-- The value of an option as text. -/
def textOf (flag : Flag) (value : Bytes) : Except UsageError String :=
  match Bytes.toString? value with
  | some s => .ok s
  | none => .error (.valueNotText flag)

/-- The value of an option as a path, which is not empty. -/
def pathOf (flag : Flag) (value : Bytes) : Except UsageError Bytes :=
  if value.isEmpty then .error (.missingValue flag) else .ok value

/-- The value of an option as a number of 32 bits. -/
def numberOf (flag : Flag) (value : Bytes) : Except UsageError UInt32 := do
  let text ← textOf flag value
  match Numeral.readInt64 value with
  | .error e => throw (.badValue flag text e.message)
  | .ok n =>
    if 0 ≤ n ∧ n < UInt32.size then return UInt32.ofNat n.toNat
    else throw (.badValue flag text (toString n ++ " is not in 0..=4294967295"))

/-- The value of an option as an operation code. -/
def operationOf (flag : Flag) (value : Bytes) : Except UsageError OperationCode := do
  let text ← textOf flag value
  match OperationCode.parse value with
  | .ok code => return code
  | .error e =>
    throw (.badValue flag text ("invalid operation code '" ++ text ++ "': " ++ e.message))

/-- Takes the value of an option to account. -/
def set (c : Choices) (flag : Flag) (value : Bytes) : Except UsageError Choices :=
  match flag with
  | .config => (pathOf flag value).map fun p => { c with config := some p }
  | .root => (pathOf flag value).map fun p => { c with root := some p }
  | .catalog => (pathOf flag value).map fun p => { c with catalog := some p }
  | .output => (pathOf flag value).map fun p => { c with output := some p }
  | .input => (pathOf flag value).map fun p => { c with input := some p }
  | .device => (numberOf flag value).map fun n => { c with device := some n }
  | .handle => (numberOf flag value).map fun n => { c with handle := some n }
  | .document => (textOf flag value).map fun s => { c with document := some s }
  | .operation =>
    (operationOf flag value).map fun code => { c with operations := c.operations ++ [code] }
  | .verbose => .ok { c with verbose := true }
  | .help => .error .help
  | .version => .error .version

/-- Takes an option to account, with the value that came with it. -/
def apply (c : Choices) (flag : Flag) (value : Option Bytes) : Except UsageError Choices :=
  match flag.takesValue, value with
  | true, none => .error (.missingValue flag)
  | _, _ =>
    if c.has flag && !flag.repeats then .error (.repeated flag)
    else c.set flag (value.getD [])

end Choices

/-- A command line that has been read up to some argument. -/
structure Reading where
  scope : Scope
  choices : Choices := {}
  /-- An option not yet taken to account, with its value if that has come. -/
  pending : Option (Flag × Option Bytes) := none

namespace Reading

/-- Takes the option that is waiting to account. -/
def settle (r : Reading) : Except UsageError Reading :=
  match r.pending with
  | none => .ok r
  | some (flag, value) =>
    (r.choices.apply flag value).map fun c => { r with choices := c, pending := none }

/-- Whether the next argument is the value of an option, unless it is an option itself. -/
def awaitsValue (r : Reading) : Bool :=
  match r.pending with
  | some (_, none) => true
  | _ => false

/-- Takes an option up; one without its value waits for it. -/
def takeUp (r : Reading) (flag : Flag) (value : Option Bytes) : Except UsageError Reading := do
  let r ← r.settle
  if flag.takesValue && value.isNone then return { r with pending := some (flag, none) }
  return { r with choices := ← r.choices.apply flag value }

/-- Reads what stands behind two dashes. -/
def longOption (r : Reading) (arg : Bytes) : Except UsageError Reading :=
  let name := arg.takeWhile (· != Bytes.ascii '=')
  let value := match arg.drop name.length with
    | [] => none
    | _ :: value => some value
  match r.scope.ofLong? name with
  | none => .error (.unknownArgument (Bytes.ofString "--" ++ name))
  | some flag =>
    if !flag.takesValue && value.isSome then .error (.needlessValue flag)
    else r.takeUp flag value

/-- The value that stands directly behind a letter; an equals sign may lead it. -/
def attached : Bytes → Option Bytes
  | [] => none
  | 0x3D :: value => some value
  | value => some value

/-- Reads the letters behind one dash, up to the first whose option has a value. -/
def shortOptions (r : Reading) : Bytes → Except UsageError Reading
  | [] => .ok r
  | letter :: rest =>
    match r.scope.ofShort? letter with
    | none => .error (.unknownArgument [Bytes.ascii '-', letter])
    | some flag =>
      if flag.takesValue then r.takeUp flag (attached rest)
      else
        match r.takeUp flag none with
        | .ok r => shortOptions r rest
        | .error e => .error e

/-- The refusal of an argument that is neither an option nor a value. -/
def unexpected (r : Reading) (arg : Bytes) : UsageError :=
  match r.scope with
  | .program => .unknownCommand arg
  | .verb _ => .unknownArgument arg

/-- Reads one argument that is not the name of a command. -/
def step (r : Reading) (arg : Bytes) : Except UsageError Reading :=
  match arg with
  | 0x2D :: 0x2D :: name => r.longOption name
  | 0x2D :: letter :: letters => r.shortOptions (letter :: letters)
  | _ =>
    match r.pending with
    | some (flag, none) => .ok { r with pending := some (flag, some arg) }
    | _ => .error (r.unexpected arg)

/-- The argument behind which no options are looked for any more. -/
def stop : Bytes := Bytes.ofString "--"

/-- Reads the arguments behind the name of a command. -/
def verbArguments (r : Reading) : List Bytes → Except UsageError Choices
  | [] => do
    let r ← r.settle
    match r.choices.missing [.device, .handle] with
    | [] => return r.choices
    | flags => throw (.missingOptions flags)
  | arg :: rest =>
    if arg = stop then
      match rest with
      | [] => verbArguments r []
      | next :: _ => .error (r.unexpected next)
    else
      match r.step arg with
      | .ok r => verbArguments r rest
      | .error e => .error e

/-- The name of the command that explains the others. -/
def helpName : Bytes := Bytes.ofString "help"

/-- Whether an argument names a command, the explaining one included. -/
def isCommand (arg : Bytes) : Bool :=
  arg = helpName || (Verb.ofName? arg).isSome

/-- What asking for an explanation of these commands comes to. -/
def helpOn : List Bytes → UsageError
  | [] => .help
  | [arg] => if isCommand arg then .help else .unknownCommand arg
  | arg :: next :: _ => if isCommand arg then .unknownCommand next else .unknownCommand arg

/-- Reads the whole command line. -/
def programArguments (r : Reading) : List Bytes → Except UsageError (Verb × Choices × Choices)
  | [] => do
    let r ← r.settle
    throw (if r.choices = {} then .nothingAsked else .missingCommand)
  | arg :: rest =>
    match if r.awaitsValue then none else Verb.ofName? arg with
    | some v => do
      let inner ← verbArguments { scope := .verb v } rest
      let r ← r.settle
      return (v, r.choices, inner)
    | none =>
      if !r.awaitsValue && arg = helpName then .error (helpOn rest)
      else if arg = stop then
        match rest with
        | [] => programArguments r []
        | next :: _ =>
          .error (if isCommand next then .unknownArgument next else .unknownCommand next)
      else
        match r.step arg with
        | .ok r => programArguments r rest
        | .error e => .error e

end Reading

/-- The object that a command is about. -/
structure Target where
  device : UInt32
  handle : UInt32
  /-- The document that stands for the object, if one is named. -/
  document : Option String
  deriving Repr, DecidableEq

/-- The identifier of the target. Without a document of its own it stands for itself. -/
def Target.identifier (t : Target) : Identifier :=
  ⟨t.device, t.handle, t.document.getD (toString t.device ++ ":" ++ toString t.handle)⟩

/-- What is asked for. -/
inductive Command where
  | read (target : Target) (output : Option FilePath)
  | thumbnail (target : Target) (output : Option FilePath)
  | write (target : Target) (input : Option FilePath) (operations : List OperationCode)
  deriving Repr, DecidableEq

/-- A command line that has been understood. -/
structure Arguments where
  /-- The settings file that is named. -/
  config : Option FilePath
  /-- Whether more log lines are wanted. -/
  verbose : Bool
  /-- The root folder of the devices. -/
  root : FilePath
  /-- The file of the catalog. -/
  catalog : FilePath
  command : Command
  deriving Repr, DecidableEq

namespace Arguments

/-- The command with the choices made for it. -/
def commandOf (v : Verb) (target : Target) (c : Choices) : Command :=
  match v with
  | .read => .read target (c.output.map .text)
  | .thumbnail => .thumbnail target (c.output.map .text)
  | .write => .write target (c.input.map .text) c.operations

/-- Puts the choices before and behind a command's name together; the latter go first. -/
def ofChoices (v : Verb) (outer inner : Choices) : Except UsageError Arguments :=
  match inner.device, inner.handle with
  | some device, some handle => .ok {
      config := (inner.config.or outer.config).map .text
      verbose := inner.verbose || outer.verbose
      root := .text ((inner.root.or outer.root).getD FilePath.dot)
      catalog := ((inner.catalog.or outer.catalog).map .text).getD (.ofString "catalog.json")
      command := commandOf v ⟨device, handle, inner.document⟩ inner }
  | _, _ => .error (.missingOptions (inner.missing [.device, .handle]))

/-- Reads the arguments that follow the program's name. -/
def parse (args : List Bytes) : Except UsageError Arguments := do
  let (v, outer, inner) ← Reading.programArguments { scope := .program } args
  ofChoices v outer inner

end Arguments

end ObjectTransfer
