/-
This file decides what each member of the destination gets: a directive of the user decides first,
then the member of the same name in the source.
-/

import ObjectMapping.Plan
import ObjectMapping.Resolution.Convert

namespace ObjectMapping

/-- What was decided about a member of the destination. -/
inductive Verdict
  /-- The constructor populates the member. -/
  | claimed
  | assigned (expr : Expr)
  | ignored (reason : IgnoreReason)
  | diagnosed (diagnostic : Diagnostic)
  deriving Repr

namespace Verdict

def outcome : Verdict → Outcome
  | .claimed => .constructor
  | .assigned _ => .assigned
  | .ignored reason => .ignored reason
  | .diagnosed diagnostic => .diagnosed diagnostic.id

def diagnostic? : Verdict → Option Diagnostic
  | .diagnosed diagnostic => some diagnostic
  | _ => none

end Verdict

structure MemberResult where
  member : Member
  verdict : Verdict
  deriving Repr

namespace MemberResult

def outcome (result : MemberResult) : MemberOutcome :=
  ⟨result.member.name, result.verdict.outcome⟩

def assignment? (result : MemberResult) : Option MemberAssignment :=
  match result.verdict with
  | .assigned expr => some ⟨result.member.name, result.member.kind, expr⟩
  | _ => none

end MemberResult

namespace MappingTask

/-- A block stands where an expression is needed. -/
def refuseBlock (location : Location) (directive : DirectiveName) : Verdict :=
  .diagnosed (.error location (.closureBlock directive.text))

def sourceMember? (task : MappingTask) (name : String) : Option Member :=
  (task.sourceStruct.member? name).filter (·.readable)

def ignoredByUser (member : Member) (ignore : IgnoreMember) : Verdict :=
  if member.required then
    .diagnosed (.error ignore.location (.requiredMemberIgnored member.name))
  else .ignored .explicit

def mappedByUser (task : MappingTask) (custom : MapMember) : Verdict :=
  match custom.source.inline? task.params false task.sourceParam with
  | some text => .assigned (.verbatim text)
  | none => refuseBlock custom.source.location .mapMember

/-- The name of the element in the user's item transform; a path is given one. -/
def binderOf (task : MappingTask) (item : Transform) (element : Option TypeRef) : String :=
  let made := (element.map task.elementName).getD "item"
  match item with
  | .closure closure => closure.firstParam?.getD made
  | .path _ _ => made

/-- The collection that `collect` makes from the user's item transform. -/
def collected (task : MappingTask) (directive : MapCollection) (element : Option TypeRef)
    (collect : String → Expr → Expr) : Verdict :=
  let binder := task.binderOf directive.item element
  match directive.item.inline? task.params true binder with
  | some transform => .assigned (collect binder (.verbatim transform))
  | none => refuseBlock directive.item.location .mapCollection

/-- The verdict of a collection directive. There is none where the source has to be inferred and has
no readable member of that name. -/
def collectedByUser? (task : MappingTask) (member : Member) (directive : MapCollection) :
    Option Verdict :=
  let target := member.type.collectionKind?.getD .vec
  match directive.source with
  | some source =>
      match source.inline? task.params false task.sourceParam with
      | some text =>
          some (task.collected directive none fun binder transform =>
            .collectVerbatim text binder transform target)
      | none => some (refuseBlock source.location .mapCollection)
  | none =>
      (task.sourceMember? member.name).map fun sourceMember =>
        task.collected directive sourceMember.type.element? fun binder transform =>
          .collect (task.read sourceMember) binder transform target

/-- The names that a finding about a member quotes. -/
def memberPair (task : MappingTask) (member : Member) (sourceType : Option TypeRef) : MemberPair where
  destination := task.destination.ident
  member := member.name
  kind := member.kind
  destinationType := task.schema.display member.type
  source := task.source.ident
  sourceType := sourceType.map task.schema.display

/-- The finding about two types that do not fit. -/
def mismatch (task : MappingTask) (member sourceMember : Member) : TypeRelation → Finding
  | .nullableMismatch => .nullableMismatch (task.memberPair member (some sourceMember.type))
  | .enumMismatch id missing =>
      .enumMemberMismatch (task.memberPair member (some sourceMember.type))
        (task.schema.identOf id) missing
  | _ => .typeMismatch (task.memberPair member (some sourceMember.type))

/-- Takes the value from the readable member of the same name. -/
def infer (task : MappingTask) (registry : EnumRegistry) (member : Member) :
    EnumRegistry × Verdict :=
  let location := task.request.method.location
  match task.sourceMember? member.name with
  | none =>
      (registry, .diagnosed (.error location (.missingMember (task.memberPair member none))))
  | some sourceMember =>
      let relation := task.relation sourceMember.type member.type
      match task.convert? registry (task.read sourceMember) sourceMember.type member.type relation with
      | some (extended, expr) => (extended, .assigned expr)
      | none =>
          (registry, .diagnosed (.error location (task.mismatch member sourceMember relation)))

/-- The rules for a member, of which the first that applies decides. -/
def resolveMember (task : MappingTask) (registry : EnumRegistry) (member : Member) :
    EnumRegistry × Verdict :=
  let directives := task.request.directives
  if member.system then (registry, .ignored .system)
  else if !member.settable then (registry, .ignored .notSettable)
  else
    match directives.ignore? member.name with
    | some ignore => (registry, ignoredByUser member ignore)
    | none =>
        match directives.mapMember? member.name with
        | some custom => (registry, task.mappedByUser custom)
        | none =>
            match (directives.collection? member.name).bind (task.collectedByUser? member) with
            | some verdict => (registry, verdict)
            | none => task.infer registry member

/-- Decides about members in the order of rank; those that the constructor claims are settled. -/
def resolveMembers (task : MappingTask) (claimed : List String) (registry : EnumRegistry) :
    List Member → EnumRegistry × List MemberResult
  | [] => (registry, [])
  | member :: rest =>
      let (extended, verdict) :=
        if claimed.contains member.name then (registry, .claimed)
        else task.resolveMember registry member
      let (final, results) := task.resolveMembers claimed extended rest
      (final, ⟨member, verdict⟩ :: results)

end MappingTask

end ObjectMapping
