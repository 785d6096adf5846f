/-
This file defines the commands of the program, what can be set for them beforehand, and why a command line leads to
none of them.
-/

namespace ObjectMapping.CommandLine

/-- How a report is printed. -/
inductive ReportFormat
  | text
  | json
  deriving Repr, DecidableEq

def ReportFormat.ofName? (name : String) : Option ReportFormat :=
  if name == "text" then some .text
  else if name == "json" then some .json
  else none

inductive Command
  /-- Generate the code for the mappers of a file, and write it to the output if there is one. -/
  | generate (input : String) (output : Option String) (formatted : Bool)
  /-- Report on the mappers of a file. -/
  | check (input : String) (format : Option ReportFormat) (allowsDiagnostics : Bool)
  deriving Repr, DecidableEq

/-- The path of the file that a command reads. -/
def Command.input : Command → String
  | .generate input _ _ => input
  | .check input _ _ => input

/-- What a command line asks for. -/
structure Invocation where
  verbose : Bool
  command : Command
  deriving Repr, DecidableEq

/-- What holds where a command line says nothing. -/
structure Settings where
  format : ReportFormat
  /-- Whether diagnostics make a check fail. -/
  failsOnDiagnostics : Bool
  /-- Whether generated code is handed to a formatter. -/
  formatted : Bool
  deriving Repr, DecidableEq

def Settings.standard : Settings := ⟨.text, true, false⟩

/-- Why a command line leads to no command. -/
inductive UsageFault
  | helpAsked
  | versionAsked
  /-- The command line is empty. -/
  | nothingAsked
  | missingCommand
  | missingInput
  | unknownCommand (name : String)
  | unknownArgument (argument : String)
  /-- A value is missing, empty, or none of those that are possible. -/
  | invalidValue (argument : String)
  /-- A value is attached to an option that takes none. -/
  | unexpectedValue (argument : String)
  | repeatedArgument (argument : String)
  deriving Repr, DecidableEq

namespace UsageFault

/-- Whether the user gets what was asked for. -/
def isAnswer : UsageFault → Bool
  | .helpAsked => true
  | .versionAsked => true
  | _ => false

def helpText : String :=
  "Usage: mapgen [OPTIONS] <COMMAND>\n\n" ++
  "Commands:\n" ++
  "  generate <INPUT> [-o, --output <OUTPUT>] [--rustfmt]\n" ++
  "  check <INPUT> [--format <text|json>] [--allow-diagnostics]\n\n" ++
  "Options:\n" ++
  "  -v, --verbose\n" ++
  "  -h, --help\n" ++
  "  -V, --version"

def message : UsageFault → String
  | .helpAsked => helpText
  | .versionAsked => "mapgen 0.1.0"
  | .nothingAsked => helpText
  | .missingCommand => "a command is required"
  | .missingInput => "the path of the input is required"
  | .unknownCommand name => s!"unrecognized command: {name}"
  | .unknownArgument argument => s!"unexpected argument: {argument}"
  | .invalidValue argument => s!"invalid value for {argument}"
  | .unexpectedValue argument => s!"{argument} takes no value"
  | .repeatedArgument argument => s!"{argument} cannot be used multiple times"

end UsageFault

end ObjectMapping.CommandLine
