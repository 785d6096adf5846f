/-
This file gives plans, diagnostics and their parts the form in which reports show them.
-/

import ObjectMapping.Json.Basic
import ObjectMapping.Report.Basic

namespace ObjectMapping

namespace TypeRef

def toJson : TypeRef → Json
  | .scalar value => .tagged "Scalar" (.string value.tag)
  | .named id => .tagged "Named" (.number id.index)
  | .foreign path => .tagged "Opaque" (.string path)
  | .nullable inner => .tagged "Nullable" inner.toJson
  | .collection kind element =>
      .tagged "Collection" (.array [.string kind.tag, element.toJson])

end TypeRef

namespace Expr

def toJson : Expr → Json
  | .member owner name kind type =>
      .tagged "Member" (.object [("param", .string owner), ("member", .string name),
        ("kind", .string kind.text), ("ty", type.toJson)])
  | .param name => .tagged "Param" (.string name)
  | .item name type => .tagged "Item" (.object [("name", .string name), ("ty", type.toJson)])
  | .verbatim written => .tagged "Verbatim" (.string written)
  | .widen value target =>
      .tagged "Widen" (.object [("arg", value.toJson), ("to", .string target.tag)])
  | .some value => .tagged "Some" value.toJson
  | .enumConvert function value =>
      .tagged "EnumConvert" (.object [("function", .string function), ("arg", value.toJson)])
  | .delegate mapper method arguments =>
      .tagged "Delegate" (.object [("mapper", .string mapper), ("method", .string method),
        ("args", .array (arguments.map toJson))])
  | .collect source binder transform target =>
      .tagged "Collection" (.object [("source", .tagged "Member" source.toJson),
        ("item", .string binder), ("transform", transform.toJson), ("target", .string target.tag)])
  | .collectVerbatim source binder transform target =>
      .tagged "Collection" (.object [("source", .tagged "Verbatim" (.string source)),
        ("item", .string binder), ("transform", transform.toJson), ("target", .string target.tag)])

end Expr

def Location.toJson (location : Location) : Json :=
  .object [("line", .number location.line), ("column", .number location.column)]

def Diagnostic.toJson (diagnostic : Diagnostic) : Json :=
  .object [("id", .string diagnostic.id.tag), ("severity", .string diagnostic.severity.text),
    ("location", diagnostic.location.toJson), ("message", .string diagnostic.message)]

def Outcome.toJson : Outcome → Json
  | .constructor => .string "Constructor"
  | .assigned => .string "Assigned"
  | .ignored reason => .tagged "Ignored" (.string reason.tag)
  | .diagnosed id => .tagged "Diagnosed" (.string id.tag)

def MemberOutcome.toJson (entry : MemberOutcome) : Json :=
  .object [("member", .string entry.member), ("outcome", entry.outcome.toJson)]

def MemberAssignment.toJson (assignment : MemberAssignment) : Json :=
  .object [("member", .string assignment.member), ("kind", .string assignment.kind.text),
    ("expr", assignment.expr.toJson)]

def ConstructorArgument.toJson (argument : ConstructorArgument) : Json :=
  .object [("param", .string argument.param), ("expr", argument.expr.toJson)]

def ConstructorPlan.toJson (plan : ConstructorPlan) : Json :=
  .object [("name", .string plan.constructor.name), ("literal", .bool plan.constructor.isLiteral),
    ("args", .ofList ConstructorArgument.toJson plan.arguments), ("claimed", .strings plan.claimed)]

def EnumKey.toJson (key : EnumKey) : Json :=
  .object [("source", .number key.source.index), ("destination", .number key.destination.index),
    ("source_nullable", .bool key.sourceNullable),
    ("destination_nullable", .bool key.destinationNullable)]

def EnumFunction.toJson (function : EnumFunction) : Json :=
  .object [("name", .string function.name), ("key", function.key.toJson),
    ("variants", .strings function.variants)]

def Plan.toJson (plan : Plan) : Json :=
  .object [("constructor", .ofOption ConstructorPlan.toJson plan.constructor),
    ("constructor_state", .string plan.state.tag),
    ("assignments", .ofList MemberAssignment.toJson plan.assignments),
    ("outcomes", .ofList MemberOutcome.toJson plan.outcomes),
    ("enum_functions", .ofList EnumFunction.toJson plan.enumFunctions)]

def MapperReport.toJson (report : MapperReport) : Json :=
  .object [("mapper", .string report.mapper), ("method", .string report.method),
    ("source", .string report.source), ("destination", .string report.destination),
    ("plan", report.plan.toJson), ("diagnostics", .ofList Diagnostic.toJson report.diagnostics)]

def Report.toJson (report : Report) : Json :=
  .object [("mappers", .ofList MapperReport.toJson report.mappers)]

end ObjectMapping
