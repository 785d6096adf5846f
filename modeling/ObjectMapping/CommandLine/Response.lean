/-
This file says what the commands do with the text of their input.
-/

import ObjectMapping.CommandLine.Command
import ObjectMapping.CommandLine.File
import ObjectMapping.Program.Generate
import ObjectMapping.Report.Encode
import ObjectMapping.Report.Text

namespace ObjectMapping.CommandLine

open Source

inductive Status
  | success
  /-- A check found diagnostics and was not told to allow them. -/
  | diagnosticsFound
  deriving Repr, DecidableEq

structure OutputFile where
  path : String
  text : String
  deriving Repr, DecidableEq

structure Response where
  status : Status
  printed : String
  written : Option OutputFile
  deriving Repr, DecidableEq

/-- Why a command fails. -/
inductive CommandFault
  | unreadable (path : String) (fault : FileFault)
  | unwritable (path : String) (fault : FileFault)
  /-- The input is no source file. -/
  | syntaxFault (path : String) (fault : SyntaxFault)
  | problems (path : String) (problems : List Problem)
  | invalidName (name : String)
  /-- There is no formatter to hand code to. -/
  | noFormatter
  deriving Repr

namespace CommandFault

/-- A problem with its place; here columns count from one. -/
def problemLine (path : String) (problem : Problem) : String :=
  s!"{path}:{problem.location.line}:{problem.location.column + 1}: {problem.message}"

def message : CommandFault → String
  | .unreadable path fault => s!"failed to read `{path}`: {fault.message}"
  | .unwritable path fault => s!"failed to write `{path}`: {fault.message}"
  | .syntaxFault path fault => s!"{path}: {fault.message}"
  | .problems path found => "\n".intercalate (found.map (problemLine path))
  | .invalidName name => s!"`{name}` is not a valid identifier"
  | .noFormatter => s!"failed to run rustfmt: {FileFault.missing.message}"

def ofGeneration (path : String) : GenerationFault → CommandFault
  | .problems found => .problems path found
  | .invalidName name => .invalidName name

end CommandFault

namespace Command

/-- The text of an output: a line that names the input, then the code. -/
def outputText (input : String) (code : GeneratedCode) : String :=
  s!"// @generated by mapgen from {input}\n" ++ code.text ++ "\n"

def reportText (format : ReportFormat) (report : Report) : String :=
  match format with
  | .text => report.text
  | .json => report.toJson.print ++ "\n"

/-- Whether a report makes a check fail. -/
def checkStatus (settings : Settings) (allowsDiagnostics : Bool) (report : Report) : Status :=
  if settings.failsOnDiagnostics && !allowsDiagnostics && report.hasErrors then .diagnosticsFound
  else .success

def generateFrom (settings : Settings) (input : String) (output : Option String)
    (formatted : Bool) (file : SourceFile) : Except CommandFault Response := do
  let code ← (ObjectMapping.generate file).mapError (CommandFault.ofGeneration input)
  if formatted || settings.formatted then .error .noFormatter
  else
    let text := outputText input code
    match output with
    | none => .ok ⟨.success, text, none⟩
    | some path => .ok ⟨.success, "", some ⟨path, text⟩⟩

def checkOn (settings : Settings) (input : String) (format : Option ReportFormat)
    (allowsDiagnostics : Bool) (file : SourceFile) : Except CommandFault Response := do
  let report ← (ObjectMapping.analyze file).mapError (CommandFault.problems input)
  let text := reportText (format.getD settings.format) report
  .ok ⟨checkStatus settings allowsDiagnostics report, text, none⟩

/-- What a command does if its input has the given text. -/
def respond (command : Command) (settings : Settings) (text : String) :
    Except CommandFault Response := do
  let file ← (SourceFile.ofText text).mapError (CommandFault.syntaxFault command.input)
  match command with
  | .generate input output formatted => generateFrom settings input output formatted file
  | .check input format allowsDiagnostics => checkOn settings input format allowsDiagnostics file

/-- Runs a command in a folder. -/
def runIn (command : Command) (settings : Settings) (folder : Folder) :
    Except CommandFault (Response × Folder) := do
  let text ← (folder.read command.input).mapError (CommandFault.unreadable command.input)
  let response ← command.respond settings text
  match response.written with
  | none => .ok (response, folder)
  | some file =>
      let after ← (folder.write file.path file.text).mapError (CommandFault.unwritable file.path)
      .ok (response, after)

end Command

end ObjectMapping.CommandLine
