import ObjectTransfer.CommandLine.Arguments

/-!
# Texts for the user

The version, the help text, and what is said about a command line that cannot be carried out.
-/

namespace ObjectTransfer

/-- The name of the program. -/
def programName : String := "mtp-pipe"

/-- The version of the program, on a line. -/
def versionText : String :=
  programName ++ " 0.1.0\n"

/-- What the program is for, how it is used, and its options. -/
def helpText : String :=
  "MtpPipe core - blocking pipe endpoints over a serialized MTP device worker\n\n" ++
  "Usage: " ++ programName ++ " [OPTIONS] <COMMAND>\n\n" ++
  "Commands:\n" ++
  "  read       Copy an object's bytes out of the device\n" ++
  "  thumbnail  Copy an object's thumbnail out of the device\n" ++
  "  write      Replace a placeholder object with new content\n" ++
  "  help       Print this message or the help of the given subcommand(s)\n\n" ++
  "Options:\n" ++
  "  -c, --config <FILE>   Path to configuration file\n" ++
  "  -v, --verbose         Enable verbose logging\n" ++
  "      --root <DIR>      Root directory of the folder-backed device [default: .]\n" ++
  "      --catalog <FILE>  Path to the JSON catalog [default: catalog.json]\n" ++
  "  -h, --help            Print help\n" ++
  "  -V, --version         Print version\n"

namespace UsageError

/-- An option as it is named in a refusal. -/
def shown (flag : Flag) : String :=
  "'--" ++ flag.long ++ "'"

/-- What is wrong with the command line. -/
def message : UsageError → String
  | help => helpText
  | version => versionText
  | unknownArgument arg => "error: unexpected argument '" ++ Bytes.lossy arg ++ "' found\n"
  | unknownCommand arg => "error: unrecognized subcommand '" ++ Bytes.lossy arg ++ "'\n"
  | missingCommand => "error: '" ++ programName ++ "' requires a subcommand but one was not provided\n"
  | nothingAsked => helpText
  | missingOptions flags =>
    "error: the following required arguments were not provided: " ++
      ", ".intercalate (flags.map shown) ++ "\n"
  | missingValue flag => "error: a value is required for " ++ shown flag ++ "\n"
  | needlessValue flag => "error: no value is expected for " ++ shown flag ++ "\n"
  | repeated flag => "error: the argument " ++ shown flag ++ " cannot be used multiple times\n"
  | valueNotText flag => "error: invalid UTF-8 was detected in the value of " ++ shown flag ++ "\n"
  | badValue flag value reason =>
    "error: invalid value '" ++ value ++ "' for " ++ shown flag ++ ": " ++ reason ++ "\n"

end UsageError

end ObjectTransfer
