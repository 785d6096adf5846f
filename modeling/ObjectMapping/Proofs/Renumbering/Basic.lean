/-
This file gives the declared types other ids. Whatever refers to types is renumbered with them. Ids come back
when the numbers are taken back, and no text of a plan shows them.
-/

import Mathlib.Logic.Equiv.Basic
import ObjectMapping.Proofs.Expr
import ObjectMapping.Resolution.Resolve

namespace ObjectMapping

section

-- The id that each type gets in place of its own.
variable (renumber : Equiv.Perm TypeId)

def TypeRef.renumbered : TypeRef → TypeRef
  | .named id => .named (renumber id)
  | .nullable inner => .nullable inner.renumbered
  | .collection kind element => .collection kind element.renumbered
  | .scalar value => .scalar value
  | .foreign path => .foreign path

def MemberSpec.renumbered (spec : MemberSpec) : MemberSpec :=
  { spec with type := spec.type.renumbered renumber }

def Member.renumbered (member : Member) : Member :=
  ⟨member.toMemberSpec.renumbered renumber, renumber member.owner, member.rank, member.inherited⟩

def Parameter.renumbered (parameter : Parameter) : Parameter :=
  { parameter with type := parameter.type.renumbered renumber }

def Constructor.renumbered : Constructor → Constructor
  | .literal => .literal
  | .function name parameters => .function name (parameters.map (·.renumbered renumber))

def StructType.renumbered (type : StructType) : StructType where
  base := type.base.map renumber
  members := type.members.map (·.renumbered renumber)
  constructors := type.constructors.map (·.renumbered renumber)

def TypeDescriptor.renumbered (descriptor : TypeDescriptor) : TypeDescriptor where
  id := renumber descriptor.id
  ident := descriptor.ident
  kind :=
    match descriptor.kind with
    | .struct type => .struct (type.renumbered renumber)
    | .enum variants => .enum variants

def EnumKey.renumbered (key : EnumKey) : EnumKey :=
  { key with source := renumber key.source, destination := renumber key.destination }

def EnumFunction.renumbered (function : EnumFunction) : EnumFunction :=
  { function with key := function.key.renumbered renumber }

def EnumRegistry.renumbered (registry : EnumRegistry) : EnumRegistry :=
  ⟨registry.functions.map (·.renumbered renumber)⟩

def DelegateMethod.renumbered (method : DelegateMethod) : DelegateMethod :=
  { method with
    params := method.params.map (·.renumbered renumber)
    result := method.result.renumbered renumber }

def IncludedMapper.renumbered (mapper : IncludedMapper) : IncludedMapper :=
  { mapper with methods := mapper.methods.map (·.renumbered renumber) }

def Delegation.renumbered (delegation : Delegation) : Delegation where
  mapper := delegation.mapper.renumbered renumber
  method := delegation.method.renumbered renumber
  perElement := delegation.perElement

def MapEnum.renumbered (pair : MapEnum) : MapEnum :=
  { pair with source := renumber pair.source, destination := renumber pair.destination }

def Directives.renumbered (directives : Directives) : Directives :=
  { directives with enums := directives.enums.map (·.renumbered renumber) }

def MapperMethod.renumbered (method : MapperMethod) : MapperMethod :=
  { method with
    params := method.params.map (·.renumbered renumber)
    result := method.result.renumbered renumber }

/-- The request about the same types where they have other ids. -/
def Request.renumbered (request : Request) : Request where
  mapper := request.mapper
  method := request.method.renumbered renumber
  directives := request.directives.renumbered renumber
  delegates := request.delegates.map (·.renumbered renumber)

def ElementRelation.renumbered : ElementRelation → ElementRelation
  | .exact => .exact
  | .enum key => .enum (key.renumbered renumber)
  | .implicit conversion => .implicit conversion

def TypeRelation.renumbered : TypeRelation → TypeRelation
  | .exact => .exact
  | .nullableMismatch => .nullableMismatch
  | .enum key => .enum (key.renumbered renumber)
  | .enumMismatch destination missing => .enumMismatch (renumber destination) missing
  | .implicit conversion => .implicit conversion
  | .collection element target => .collection (element.renumbered renumber) target
  | .delegated delegation => .delegated (delegation.renumbered renumber)
  | .incompatible => .incompatible

mutual

def Expr.renumbered : Expr → Expr
  | .member owner name kind type => .member owner name kind (type.renumbered renumber)
  | .param name => .param name
  | .item name type => .item name (type.renumbered renumber)
  | .verbatim written => .verbatim written
  | .widen value target => .widen value.renumbered target
  | .some value => .some value.renumbered
  | .enumConvert function value => .enumConvert function value.renumbered
  | .delegate mapper method arguments => .delegate mapper method (Expr.allRenumbered arguments)
  | .collect source binder transform target =>
      .collect source.renumbered binder transform.renumbered target
  | .collectVerbatim source binder transform target =>
      .collectVerbatim source binder transform.renumbered target

def Expr.allRenumbered : List Expr → List Expr
  | [] => []
  | expr :: rest => expr.renumbered :: Expr.allRenumbered rest

end

def ConstructorArgument.renumbered (argument : ConstructorArgument) : ConstructorArgument :=
  { argument with expr := argument.expr.renumbered renumber }

def ConstructorPlan.renumbered (plan : ConstructorPlan) : ConstructorPlan where
  constructor := plan.constructor.renumbered renumber
  arguments := plan.arguments.map (·.renumbered renumber)
  claimed := plan.claimed

def ConstructorResult.renumbered (result : ConstructorResult) : ConstructorResult :=
  { result with plan := result.plan.map (·.renumbered renumber) }

def Verdict.renumbered : Verdict → Verdict
  | .claimed => .claimed
  | .assigned expr => .assigned (expr.renumbered renumber)
  | .ignored reason => .ignored reason
  | .diagnosed diagnostic => .diagnosed diagnostic

def MemberResult.renumbered (result : MemberResult) : MemberResult :=
  ⟨result.member.renumbered renumber, result.verdict.renumbered renumber⟩

def MemberAssignment.renumbered (assignment : MemberAssignment) : MemberAssignment :=
  { assignment with expr := assignment.expr.renumbered renumber }

def Plan.renumbered (plan : Plan) : Plan where
  constructor := plan.constructor.map (·.renumbered renumber)
  state := plan.state
  assignments := plan.assignments.map (·.renumbered renumber)
  outcomes := plan.outcomes
  enumFunctions := plan.enumFunctions.map (·.renumbered renumber)

/-- The resolution where types have other ids; diagnostics quote no ids. -/
def Resolution.renumbered (resolution : Resolution) : Resolution :=
  { resolution with plan := resolution.plan.renumbered renumber }

end

section

variable (renumber other : Equiv.Perm TypeId)

@[simp]
theorem TypeRef.renumbered_refl (type : TypeRef) : type.renumbered (.refl _) = type := by
  induction type with
  | scalar | named | foreign => rfl
  | nullable inner inductionHypothesis => rw [renumbered, inductionHypothesis]
  | collection kind element inductionHypothesis => rw [renumbered, inductionHypothesis]

@[simp]
theorem TypeRef.renumbered_trans (type : TypeRef) :
    (type.renumbered renumber).renumbered other = type.renumbered (renumber.trans other) := by
  induction type with
  | scalar | named | foreign => rfl
  | nullable inner inductionHypothesis => rw [renumbered, renumbered, renumbered, inductionHypothesis]
  | collection kind element inductionHypothesis =>
      rw [renumbered, renumbered, renumbered, inductionHypothesis]

/-- Different types stay different. -/
@[simp]
theorem TypeRef.renumbered_inj (first second : TypeRef) :
    first.renumbered renumber = second.renumbered renumber ↔ first = second := by
  refine ⟨fun same => ?_, congrArg _⟩
  simpa using congrArg (TypeRef.renumbered renumber.symm) same

@[simp]
theorem EnumKey.renumbered_inj (first second : EnumKey) :
    first.renumbered renumber = second.renumbered renumber ↔ first = second := by
  cases first
  cases second
  simp [renumbered]

@[simp]
theorem MemberSpec.renumbered_refl (spec : MemberSpec) : spec.renumbered (.refl _) = spec := by
  simp [renumbered]

@[simp]
theorem MemberSpec.renumbered_trans (spec : MemberSpec) :
    (spec.renumbered renumber).renumbered other = spec.renumbered (renumber.trans other) := by
  simp [renumbered]

@[simp]
theorem Member.renumbered_refl (member : Member) : member.renumbered (.refl _) = member := by
  simp [renumbered]

@[simp]
theorem Parameter.renumbered_refl (parameter : Parameter) : parameter.renumbered (.refl _) = parameter := by
  simp [renumbered]

@[simp]
theorem Parameter.renumbered_trans (parameter : Parameter) :
    (parameter.renumbered renumber).renumbered other = parameter.renumbered (renumber.trans other) := by
  simp [renumbered]

@[simp]
theorem Constructor.renumbered_refl (constructor : Constructor) :
    constructor.renumbered (.refl _) = constructor := by
  cases constructor <;> simp [renumbered]

@[simp]
theorem Constructor.renumbered_trans (constructor : Constructor) :
    (constructor.renumbered renumber).renumbered other = constructor.renumbered (renumber.trans other) := by
  cases constructor <;> simp [renumbered, Function.comp_def]

@[simp]
theorem Constructor.parameters_renumbered (constructor : Constructor) :
    (constructor.renumbered renumber).parameters = constructor.parameters.map (·.renumbered renumber) := by
  cases constructor <;> rfl

@[simp]
theorem Constructor.isParameterless_renumbered (constructor : Constructor) :
    (constructor.renumbered renumber).isParameterless = constructor.isParameterless := by
  simp [isParameterless]

@[simp]
theorem DelegateMethod.renumbered_refl (method : DelegateMethod) : method.renumbered (.refl _) = method := by
  simp [renumbered]

@[simp]
theorem DelegateMethod.renumbered_trans (method : DelegateMethod) :
    (method.renumbered renumber).renumbered other = method.renumbered (renumber.trans other) := by
  simp [renumbered, Function.comp_def]

@[simp]
theorem IncludedMapper.renumbered_refl (mapper : IncludedMapper) : mapper.renumbered (.refl _) = mapper := by
  simp [renumbered]

@[simp]
theorem IncludedMapper.renumbered_trans (mapper : IncludedMapper) :
    (mapper.renumbered renumber).renumbered other = mapper.renumbered (renumber.trans other) := by
  simp [renumbered, Function.comp_def]

@[simp]
theorem Request.renumbered_refl (request : Request) : request.renumbered (.refl _) = request := by
  simp [renumbered, MapperMethod.renumbered, Directives.renumbered, MapEnum.renumbered]

@[simp]
theorem Request.renumbered_trans (request : Request) :
    (request.renumbered renumber).renumbered other = request.renumbered (renumber.trans other) := by
  simp [renumbered, MapperMethod.renumbered, Directives.renumbered, MapEnum.renumbered, Function.comp_def]

mutual

/-- The text of an expression shows no ids. -/
@[simp]
theorem Expr.text_renumbered (expr : Expr) : (expr.renumbered renumber).text = expr.text := by
  cases expr with
  | member owner name kind type => cases kind <;> simp [renumbered, text]
  | param | item | verbatim => simp [renumbered, text]
  | widen value target => simp [renumbered, text, text_renumbered value]
  | some value => simp [renumbered, text, text_renumbered value]
  | enumConvert function value => simp [renumbered, text, text_renumbered value]
  | delegate mapper method arguments => simp [renumbered, text, allRenumbered_texts arguments]
  | collect source binder transform target =>
      simp [renumbered, text, text_renumbered source, text_renumbered transform]
  | collectVerbatim source binder transform target => simp [renumbered, text, text_renumbered transform]

theorem Expr.allRenumbered_texts (exprs : List Expr) :
    (allRenumbered renumber exprs).map text = exprs.map text := by
  cases exprs with
  | nil => rfl
  | cons expr rest => simp [allRenumbered, text_renumbered expr, allRenumbered_texts rest]

end

end

end ObjectMapping
