/-
This file is the command line of the program.
-/

import ObjectMapping.CommandLine.Arguments
import ObjectMapping.CommandLine.Response

namespace ObjectMapping.CommandLine

def fileFault : IO.Error → FileFault
  | .noFileOrDirectory _ _ _ => .missing
  | .inappropriateType _ _ _ => .isFolder
  | error => .other (toString error)

def readText (path : String) : IO (Except FileFault String) := do
  try
    let bytes ← IO.FS.readBinFile path
    match String.fromUTF8? bytes with
    | some text => return .ok text
    | none => return .error .notText
  catch error =>
    return .error (fileFault error)

def writeText (file : OutputFile) : IO (Except FileFault Unit) := do
  try
    IO.FS.writeFile file.path file.text
    return .ok ()
  catch error =>
    return .error (fileFault error)

def complain (message : String) : IO Unit := do
  (← IO.getStderr).putStrLn s!"error: {message}"

def exitCode : Status → UInt32
  | .success => 0
  | .diagnosticsFound => 1

/-- Prints and writes what a command answers. -/
def deliver (response : Response) : IO UInt32 := do
  match response.written with
  | none =>
      IO.print response.printed
      return exitCode response.status
  | some file =>
      match ← writeText file with
      | .ok () => return exitCode response.status
      | .error fault =>
          complain (CommandFault.unwritable file.path fault).message
          return 1

def perform (command : Command) : IO UInt32 := do
  match ← readText command.input with
  | .error fault =>
      complain (CommandFault.unreadable command.input fault).message
      return 1
  | .ok text =>
      match command.respond Settings.standard text with
      | .error fault =>
          complain fault.message
          return 1
      | .ok response => deliver response

end ObjectMapping.CommandLine

open ObjectMapping.CommandLine in
def main (arguments : List String) : IO UInt32 := do
  match Invocation.ofArguments arguments with
  | .ok invocation => perform invocation.command
  | .error fault =>
      if fault.isAnswer then
        IO.println fault.message
        return 0
      else
        complain fault.message
        return 2
