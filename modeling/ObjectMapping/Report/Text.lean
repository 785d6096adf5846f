/-
This file writes reports for people: a block of lines for each mapper, then a line that counts mappers and
diagnostics.
-/

import ObjectMapping.Report.Basic

namespace ObjectMapping

/-- The text with blanks behind it up to a number of characters. -/
def paddedTo (width : Nat) (text : String) : String :=
  text ++ String.ofList (List.replicate (width - text.length) ' ')

/-- How a constructor is called with the values of a plan. -/
def ConstructorPlan.callText (call : ConstructorPlan) (destination : String) : String :=
  if call.constructor.isLiteral then
    destination ++ " \x7b .. \x7d"
  else
    let arguments := call.arguments.map (·.expr.text)
    s!"{destination}::{call.constructor.name}(" ++ ", ".intercalate arguments ++ ")"

/-- What a plan gives to a member: nothing unless the member is assigned. -/
def Plan.assignedText (plan : Plan) (entry : MemberOutcome) : String :=
  match entry.outcome, plan.assignment? entry.member with
  | .assigned, some assignment => " = " ++ assignment.expr.text
  | _, _ => ""

namespace MapperReport

def titleLine (report : MapperReport) : String :=
  s!"{report.mapper}::{report.method}({report.source}) -> {report.destination}"

def constructorLine (report : MapperReport) : String :=
  let call := match report.plan.constructor with
    | some call => call.callText report.destination
    | none => "none"
  s!"  constructor: {call} ({report.plan.state.tag})"

/-- The width of the column of members, which is measured in bytes. -/
def memberWidth (report : MapperReport) : Nat :=
  (report.plan.outcomes.map (·.member.utf8ByteSize)).foldl max 0

def memberLine (report : MapperReport) (entry : MemberOutcome) : String :=
  "  " ++ paddedTo report.memberWidth entry.member ++ "  " ++ entry.outcome.text ++
    report.plan.assignedText entry

def diagnosticLine (diagnostic : Diagnostic) : String :=
  s!"  {diagnostic.severity.text}[{diagnostic.id.code}] at {diagnostic.location.text}: " ++
    diagnostic.message

def lines (report : MapperReport) : List String :=
  [report.titleLine, report.constructorLine] ++ report.plan.outcomes.map report.memberLine ++
    report.diagnostics.map diagnosticLine

end MapperReport

namespace Report

def summaryLine (report : Report) : String :=
  s!"{report.mappers.length} mapper(s), {report.diagnostics.length} diagnostic(s)"

/-- The lines of the whole text; an empty line follows each mapper. -/
def lines (report : Report) : List String :=
  report.mappers.flatMap (fun mapper => mapper.lines ++ [""]) ++ [report.summaryLine]

def text (report : Report) : String := String.join (report.lines.map (· ++ "\n"))

end Report

end ObjectMapping
