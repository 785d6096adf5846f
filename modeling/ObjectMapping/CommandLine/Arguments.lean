/-
This file reads command lines. Words are read from left to right, and a value counts as given only when the
next word is understood; so a word that is not understood is reported before a value in front of it that is
not possible.
-/

import ObjectMapping.CommandLine.Command
import ObjectMapping.CommandLine.Word

namespace ObjectMapping.CommandLine

/-- What is either given or not. -/
inductive Switch
  | verbose
  | formatted
  | allowsDiagnostics
  deriving Repr, DecidableEq

/-- What is given by a value. -/
inductive Slot
  | input
  | output
  | format
  deriving Repr, DecidableEq

def Slot.text : Slot → String
  | .input => "<INPUT>"
  | .output => "--output"
  | .format => "--format"

/-- Whether a slot can have a value. -/
def Slot.accepts : Slot → String → Bool
  | .format, value => (ReportFormat.ofName? value).isSome
  | _, value => !value.isEmpty

inductive OptionMeaning
  | help
  | version
  | switch (name : Switch)
  | slot (name : Slot)
  deriving Repr, DecidableEq

structure CommandOption where
  name : String
  letter : Option Char
  meaning : OptionMeaning
  deriving Repr, DecidableEq

/-- The options that are known everywhere. -/
def commonOptions : List CommandOption :=
  [⟨"verbose", some 'v', .switch .verbose⟩, ⟨"help", some 'h', .help⟩]

def programOptions : List CommandOption := commonOptions ++ [⟨"version", some 'V', .version⟩]

def generateOptions : List CommandOption :=
  commonOptions ++ [⟨"output", some 'o', .slot .output⟩, ⟨"rustfmt", none, .switch .formatted⟩]

def checkOptions : List CommandOption :=
  commonOptions ++
    [⟨"format", none, .slot .format⟩, ⟨"allow-diagnostics", none, .switch .allowsDiagnostics⟩]

/-- What has been read of a command line. -/
structure Reading where
  switches : List Switch
  values : List (Slot × String)
  /-- The slot that was named last; its value may still be to come. -/
  pending : Option (Slot × Option String)
  deriving Repr, DecidableEq

namespace Reading

def start : Reading := ⟨[], [], none⟩

def isOn (reading : Reading) (switch : Switch) : Bool := reading.switches.contains switch

def value? (reading : Reading) (slot : Slot) : Option String :=
  (reading.values.find? (·.1 == slot)).map (·.2)

/-- Gives a slot its value. -/
def accept (reading : Reading) (slot : Slot) (value : String) : Except UsageFault Reading :=
  if (reading.value? slot).isSome then .error (.repeatedArgument slot.text)
  else if slot.accepts value then .ok { reading with values := reading.values ++ [(slot, value)] }
  else .error (.invalidValue slot.text)

/-- Gives the slot that was named last its value. -/
def settle (reading : Reading) : Except UsageFault Reading :=
  match reading.pending with
  | none => .ok reading
  | some (slot, none) => .error (.invalidValue slot.text)
  | some (slot, some value) => { reading with pending := none }.accept slot value

def turnOn (reading : Reading) (switch : Switch) (argument : String) : Except UsageFault Reading := do
  let settled ← reading.settle
  if settled.isOn switch then .error (.repeatedArgument argument)
  else .ok { settled with switches := settled.switches ++ [switch] }

/-- Reads an option with the value that is attached to it. -/
def option (reading : Reading) (found : CommandOption) (attached : Option String) :
    Except UsageFault Reading := do
  match found.meaning, attached with
  | .slot slot, some value =>
      let settled ← reading.settle
      settled.accept slot value
  | .slot slot, none =>
      let settled ← reading.settle
      .ok { settled with pending := some (slot, none) }
  | _, some _ => .error (.unexpectedValue found.name)
  | .switch switch, none => reading.turnOn switch found.name
  | .help, none => do
      let _ ← reading.settle
      .error .helpAsked
  | .version, none => do
      let _ ← reading.settle
      .error .versionAsked

def long (options : List CommandOption) (reading : Reading) (name : List Char)
    (attached : Option String) : Except UsageFault Reading :=
  match options.find? (·.name.toList == name) with
  | some found => reading.option found attached
  | none => .error (.unknownArgument ("--" ++ String.ofList name))

/-- The value that is attached to a letter; an equals sign may stand in front of it. -/
def attachedValue : List Char → Option String
  | [] => none
  | '=' :: value => some (String.ofList value)
  | value => some (String.ofList value)

/-- Reads options by their letters; what stands behind the letter of a slot is its value. -/
def short (options : List CommandOption) (reading : Reading) :
    List Char → Except UsageFault Reading
  | [] => .ok reading
  | letter :: rest =>
      match options.find? (·.letter == some letter) with
      | none => .error (.unknownArgument (String.ofList ['-', letter]))
      | some found =>
          match found.meaning with
          | .slot _ => reading.option found (attachedValue rest)
          | _ => do
              let next ← reading.option found none
              short options next rest

/-- Whether the input has been given. -/
def hasInput (reading : Reading) : Bool :=
  (reading.value? .input).isSome ||
    match reading.pending with
    | some (.input, _) => true
    | _ => false

/-- Reads a word that names nothing: the value of the slot that was named last, or the input. -/
def input (reading : Reading) (text : String) : Except UsageFault Reading :=
  if reading.hasInput then .error (.unknownArgument text)
  else do
    let settled ← reading.settle
    .ok { settled with pending := some (.input, some text) }

def plain (reading : Reading) (text : String) : Except UsageFault Reading :=
  match reading.pending with
  | some (slot, none) => .ok { reading with pending := some (slot, some text) }
  | _ => reading.input text

/-- Reads words behind a separator. -/
def inputs : List String → Reading → Except UsageFault Reading
  | [], reading => reading.settle
  | text :: rest, reading => reading.input text >>= inputs rest

/-- Reads the words behind the name of a command. -/
def arguments (options : List CommandOption) : List String → Reading → Except UsageFault Reading
  | [], reading => reading.settle
  | text :: rest, reading =>
      match Word.ofText text with
      | .separator => inputs rest reading
      | .long name value => reading.long options name value >>= arguments options rest
      | .short letters => reading.short options letters >>= arguments options rest
      | .plain => reading.plain text >>= arguments options rest

end Reading

/-- What is known about a command by its name. -/
inductive CommandName
  | generate
  | check
  | help
  deriving Repr, DecidableEq

namespace CommandName

def ofText? (text : String) : Option CommandName :=
  if text == "generate" then some .generate
  else if text == "check" then some .check
  else if text == "help" then some .help
  else none

/-- Reads the names behind a request for help; only commands of the program itself have a help. -/
def helpOn : List String → UsageFault
  | [] => .helpAsked
  | [name] => if (ofText? name).isSome then .helpAsked else .unknownCommand name
  | name :: inner :: _ =>
      if (ofText? name).isSome then .unknownCommand inner else .unknownCommand name

def generateCommand (reading : Reading) : Except UsageFault Command :=
  match reading.value? .input with
  | none => .error .missingInput
  | some input => .ok (.generate input (reading.value? .output) (reading.isOn .formatted))

def checkCommand (reading : Reading) : Except UsageFault Command :=
  match reading.value? .input with
  | none => .error .missingInput
  | some input =>
      let format := (reading.value? .format).bind ReportFormat.ofName?
      .ok (.check input format (reading.isOn .allowsDiagnostics))

/-- Reads the words behind the name of a command; the program may have been told before to be verbose. -/
def invocation (name : CommandName) (verbose : Bool) (words : List String) :
    Except UsageFault Invocation :=
  match name with
  | .help => .error (helpOn words)
  | .generate => do
      let reading ← Reading.arguments generateOptions words Reading.start
      let command ← generateCommand reading
      .ok ⟨verbose || reading.isOn .verbose, command⟩
  | .check => do
      let reading ← Reading.arguments checkOptions words Reading.start
      let command ← checkCommand reading
      .ok ⟨verbose || reading.isOn .verbose, command⟩

end CommandName

namespace Invocation

/-- What is wrong with a command line that ends before the name of a command. -/
def unfinished (reading : Reading) : UsageFault :=
  if reading.switches.isEmpty then .nothingAsked else .missingCommand

/-- What is wrong with a word that should be the name of a command. -/
def misplaced (text : String) : UsageFault :=
  if (CommandName.ofText? text).isSome then .unknownArgument text else .unknownCommand text

/-- Reads the words up to the name of a command, and what follows it. -/
def ofWords : List String → Reading → Except UsageFault Invocation
  | [], reading => .error (unfinished reading)
  | text :: rest, reading =>
      match CommandName.ofText? text, Word.ofText text with
      | some name, _ => name.invocation (reading.isOn .verbose) rest
      | none, .separator => .error ((rest.head?.map misplaced).getD (unfinished reading))
      | none, .long name value => reading.long programOptions name value >>= ofWords rest
      | none, .short letters => reading.short programOptions letters >>= ofWords rest
      | none, .plain => .error (.unknownCommand text)

def ofArguments (arguments : List String) : Except UsageFault Invocation :=
  ofWords arguments Reading.start

end Invocation

end ObjectMapping.CommandLine
